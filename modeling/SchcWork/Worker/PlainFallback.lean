import SchcWork.Worker.RoundTrip

namespace SchcWork.Worker

open Net

variable {Context : Type}

/-- Two frames agree up to the UDP checksum when they differ at most in the two bytes of that field. -/
structure UpToChecksum (frame packet : List UInt8) : Prop where
  length : frame.length = packet.length
  bytes : ∀ index, index ≠ 46 → index ≠ 47 → frame[index]? = packet[index]?

/-- This is the conversion that the proxy makes for a payload. -/
def payloadConversion (library : Uoscore Context) (integration : Integration Context) (payload : List UInt8) :
    Conversion 208 :=
  let callback := if integration.oscoreInnerSchcEnabled then some PlaintextCb.oscoreMsgInnerCompression else none
  (library.coap2oscore integration.oscCtx callback payload 208).1

/-- The plain build hands over the packet that it read, up to the checksum. -/
def SendsOriginal (library : Uoscore Context) (dropNonCoap : Bool) (state : SchcAl Context) (packet : List UInt8)
    (rest : List (List UInt8)) (signals : Nat) (reply : NetSendtoReply) : Prop :=
  ∃ result frame, schcAlSendDown library (proxyBuild dropNonCoap false) state (packet :: rest)
      (List.replicate signals .eintr) reply = some result ∧
    result.frame = some frame ∧ UpToChecksum frame (packet.take ipv6MaxPacketSize)

/-- A failed call is harmless when the bytes that it put over the payload are a prefix of the payload. -/
def LeavesPayload (written payload : List UInt8) : Prop := written.take payload.length <+: payload

instance (written payload : List UInt8) : Decidable (LeavesPayload written payload) :=
  inferInstanceAs (Decidable (_ <+: _))

section Fallback

variable {memory : ByteMemory} {packet : List UInt8}

/-- The checksum field is all that resizing changes in a packet with the right lengths. -/
theorem resize_upToChecksum {size : Nat} (fits : size ≤ 65527) (plen : networkWord memory 4 = 8 + size)
    (ulen : networkWord memory 44 = 8 + size) :
    UpToChecksum ((resize memory size).slice 0 (48 + size)) packet ↔
      UpToChecksum (memory.slice 0 (48 + size)) packet := by
  have kept (index : Nat) (high : index ≠ 46) (low : index ≠ 47) :
      ((resize memory size).slice 0 (48 + size))[index]? = (memory.slice 0 (48 + size))[index]? := by
    by_cases inside : index < 48 + size
    · rw [ByteMemory.getElem?_slice _ _ inside, ByteMemory.getElem?_slice _ _ inside, Nat.zero_add, resize,
        updateIp6UdpLen_eq_self fits plen ulen, updateUdpChecksum_outside _ ⟨high, low⟩]
    · rw [List.getElem?_eq_none (by simpa using inside), List.getElem?_eq_none (by simpa using inside)]
  constructor
  · intro same
    constructor
    · simpa using same.length
    · intro index high low
      rw [← kept index high low]
      exact same.bytes index high low
  · intro same
    constructor
    · simpa using same.length
    · intro index high low
      rw [kept index high low]
      exact same.bytes index high low

/-- Bytes behind the headers decide whether the buffer still holds the packet. -/
theorem overwritten_upToChecksum (long : 48 ≤ packet.length) (netBuffer : ByteMemory) (written : List UInt8) :
    UpToChecksum (((netBuffer.store 0 packet).store 48 written).slice 0 (48 + (packet.length - 48))) packet ↔
      ((netBuffer.store 0 packet).store 48 written).slice 48 (packet.length - 48) =
        (netBuffer.store 0 packet).slice 48 (packet.length - 48) := by
  have whole : 48 + (packet.length - 48) = packet.length := by omega
  have held (index : Nat) (inside : index < packet.length) :
      packet[index]? = some (netBuffer.store 0 packet index) := by
    have stored := ByteMemory.store_inside netBuffer 0 packet inside
    rw [Nat.zero_add] at stored
    rw [List.getElem?_eq_getElem inside, stored]
  rw [whole, ByteMemory.slice_eq_iff]
  constructor
  · intro same index lower upper
    have byte := same.bytes index (by omega) (by omega)
    rw [ByteMemory.getElem?_slice _ _ (by omega), Nat.zero_add, held index (by omega)] at byte
    exact Option.some.inj byte
  · intro kept
    refine ⟨ByteMemory.length_slice _ _ _, ?_⟩
    intro index _ _
    by_cases inside : index < packet.length
    · rw [ByteMemory.getElem?_slice _ _ inside, Nat.zero_add, held index inside]
      by_cases header : index < 48
      · rw [ByteMemory.store_below _ _ _ header]
      · rw [kept index (by omega) (by omega)]
    · rw [List.getElem?_eq_none (by simpa using inside), List.getElem?_eq_none (by omega)]

end Fallback

section Frame

variable {library : Uoscore Context} {state : SchcAl Context} {packet : List UInt8}

/-- The failed call leaves its output over the payload, and the layer resizes the packet to its old length. -/
theorem schcAlSendDown_failed (accepted : CoapPacket (packet.take ipv6MaxPacketSize)) (idle : Idle state)
    (failed : (payloadConversion library state.oscore ((packet.take ipv6MaxPacketSize).drop 48)).err ≠ .ok)
    (dropNonCoap : Bool) (rest : List (List UInt8)) (signals : Nat) (reply : NetSendtoReply) :
    let bytes := packet.take ipv6MaxPacketSize
    let written := (payloadConversion library state.oscore (bytes.drop 48)).out
    ∃ result, schcAlSendDown library (proxyBuild dropNonCoap false) state (packet :: rest)
        (List.replicate signals .eintr) reply = some result ∧
      result.frame = some ((resize ((state.netBuffer.store 0 bytes).store 48 written) (bytes.length - 48)).slice 0
        (48 + (bytes.length - 48))) := by
  intro bytes written
  have bound : bytes.length ≤ 256 := List.length_take_le _ _
  obtain ⟨udp, coap, length, payload⟩ := accepted.reaches (Nat.le_trans bound (by decide)) state.netBuffer
  have input := downConversion_input library state.oscore (state.netBuffer.store 0 bytes)
  rw [length, payload] at input
  have conversion : (downConversion library state.oscore (state.netBuffer.store 0 bytes)).call.err ≠ .ok ∧
      (downConversion library state.oscore (state.netBuffer.store 0 bytes)).call.out = written := by
    have call : (payloadConversion library state.oscore
        (downConversion library state.oscore (state.netBuffer.store 0 bytes)).call.input).err =
          (downConversion library state.oscore (state.netBuffer.store 0 bytes)).call.err ∧
        (payloadConversion library state.oscore
          (downConversion library state.oscore (state.netBuffer.store 0 bytes)).call.input).out =
          (downConversion library state.oscore (state.netBuffer.store 0 bytes)).call.out := ⟨rfl, rfl⟩
    rw [input] at call
    rw [← call.1]
    exact ⟨failed, call.2.symm⟩
  have path : DownPath library (proxyBuild dropNonCoap false) state.oscore (state.netBuffer.store 0 bytes)
      bytes.length _ := .failedSent udp coap rfl conversion.1 rfl
  have outcome : prepared library (proxyBuild dropNonCoap false) state packet = _ := path.eq
  refine ⟨_, schcAlSendDown_packet library _ idle packet rest signals reply, ?_⟩
  rw [handlePacket_submits library _ (congrArg Prepared.decision outcome), outcome, downConversion_memory,
    conversion.2, length]

/-- The frame of a failed call is the packet up to its checksum exactly when the call left the payload alone. -/
theorem failedFrame_upToChecksum {bytes : List UInt8} (accepted : CoapPacket bytes) (bound : bytes.length ≤ 256)
    (netBuffer : ByteMemory) (written : List UInt8) :
    UpToChecksum ((resize ((netBuffer.store 0 bytes).store 48 written) (bytes.length - 48)).slice 0
        (48 + (bytes.length - 48))) bytes ↔
      LeavesPayload written (bytes.drop 48) := by
  have long : 48 ≤ bytes.length := Nat.le_of_lt accepted.room
  have holds := accepted.stored (Nat.le_trans bound (by decide)) netBuffer
  obtain ⟨-, -, -, payload⟩ := accepted.reaches (Nat.le_trans bound (by decide)) netBuffer
  have header (offset : Nat) (below : offset + 1 < 48) :
      networkWord ((netBuffer.store 0 bytes).store 48 written) offset =
        networkWord (netBuffer.store 0 bytes) offset :=
    networkWord_congr (ByteMemory.store_below _ _ _ (by omega)) (ByteMemory.store_below _ _ _ below)
  have plen := (header 4 (by decide)).trans holds.plen
  have ulen := (header 44 (by decide)).trans holds.ulen
  have size : (bytes.drop 48).length = bytes.length - 48 := List.length_drop
  rw [resize_upToChecksum (by omega) plen ulen, overwritten_upToChecksum long, ByteMemory.slice_store_keeps_iff,
    payload, LeavesPayload, size]

/-- An original frame shows that the failed call left the payload alone. -/
theorem leavesPayload_of_original {dropNonCoap : Bool} {rest : List (List UInt8)} {signals : Nat}
    {reply : NetSendtoReply} (idle : Idle state) (accepted : CoapPacket (packet.take ipv6MaxPacketSize))
    (failed : (payloadConversion library state.oscore ((packet.take ipv6MaxPacketSize).drop 48)).err ≠ .ok)
    (original : SendsOriginal library dropNonCoap state packet rest signals reply) :
    LeavesPayload (payloadConversion library state.oscore ((packet.take ipv6MaxPacketSize).drop 48)).out
      ((packet.take ipv6MaxPacketSize).drop 48) := by
  obtain ⟨result, ran, sent⟩ := schcAlSendDown_failed accepted idle failed dropNonCoap rest signals reply
  obtain ⟨other, frame, again, handed, same⟩ := original
  rw [Option.some.inj (again.symm.trans ran), sent] at handed
  rw [← Option.some.inj handed] at same
  exact (failedFrame_upToChecksum accepted (List.length_take_le _ _) state.netBuffer _).mp same

end Frame

/-- The plain build sends the original packet exactly when the failed call left the payload as it was. -/
theorem plainFallback_original_iff (library : Uoscore Context) (dropNonCoap : Bool) (state : SchcAl Context)
    (packet : List UInt8) (rest : List (List UInt8)) (signals : Nat) (reply : NetSendtoReply) (idle : Idle state)
    (accepted : CoapPacket (packet.take ipv6MaxPacketSize))
    (failed : (payloadConversion library state.oscore ((packet.take ipv6MaxPacketSize).drop 48)).err ≠ .ok) :
    SendsOriginal library dropNonCoap state packet rest signals reply ↔
      LeavesPayload (payloadConversion library state.oscore ((packet.take ipv6MaxPacketSize).drop 48)).out
        ((packet.take ipv6MaxPacketSize).drop 48) := by
  constructor
  · exact leavesPayload_of_original idle accepted failed
  · intro leaves
    obtain ⟨result, ran, sent⟩ := schcAlSendDown_failed accepted idle failed dropNonCoap rest signals reply
    refine ⟨result, _, ran, sent, ?_⟩
    exact (failedFrame_upToChecksum accepted (List.length_take_le _ _) state.netBuffer _).mpr leaves

/-- This library fails after the given output. -/
def failingLibrary (written : List UInt8) : Uoscore Unit where
  oscoreContextInit _ := (.ok, ())
  coap2oscore context _ _ capacity := (⟨.other 1, written.take capacity, List.length_take_le _ _⟩, context)
  oscore2coap context _ _ capacity := (⟨.other 1, written.take capacity, List.length_take_le _ _⟩, context)

/-- A call that fails before any output keeps the packet. -/
theorem emptyOutput_original : SendsOriginal (failingLibrary []) true openLayer minimalPacket [] 0 ⟨.success, none⟩ :=
  (plainFallback_original_iff (failingLibrary []) true openLayer minimalPacket [] 0 ⟨.success, none⟩ openLayer_idle
    minimalPacket_accepted (by decide)).mpr (by decide)

/-- A call that fails after the first byte of an OSCORE message replaces the header of the CoAP message. -/
theorem partialOutput_not_original :
    CoapPacket (minimalPacket.take ipv6MaxPacketSize) ∧ Idle openLayer ∧
      (payloadConversion (failingLibrary [0x44]) openLayer.oscore (minimalPacket.drop 48)).err ≠ .ok ∧
      ¬SendsOriginal (failingLibrary [0x44]) true openLayer minimalPacket [] 0 ⟨.success, none⟩ := by
  refine ⟨minimalPacket_accepted, openLayer_idle, by decide, ?_⟩
  intro original
  have accepted : CoapPacket (minimalPacket.take ipv6MaxPacketSize) := minimalPacket_accepted
  have leaves := leavesPayload_of_original openLayer_idle accepted (by decide) original
  exact absurd leaves (by decide)

end SchcWork.Worker
