import SchcWork.Worker.ForwardUp

namespace SchcWork.Worker

open Net

/-- These are the packets that the proxy is made for. -/
structure CoapPacket (packet : List UInt8) : Prop extends FrameWellFormed packet where
  room : 48 < packet.length
  version : packet.getD 0 0 >>> 4 = 6
  nextHeader : packet.getD 6 0 = 17
  checksum : frameWord packet 46 ≠ 0
  coap : packet.getD 48 0 &&& 0xC0 = 0x40

/-- A memory holds such a packet when its first bytes have these fields. -/
structure HoldsPacket (memory : ByteMemory) (size : Nat) : Prop where
  nonempty : 0 < size
  fits : size ≤ 65527
  version : memory 0 >>> 4 = 6
  nextHeader : memory 6 = 17
  plen : networkWord memory 4 = 8 + size
  ulen : networkWord memory 44 = 8 + size
  verifies : ChecksumVerifies (memory.slice 0 (48 + size))
  nonzero : networkWord memory 46 ≠ 0
  coap : memory 48 &&& 0xC0 = 0x40

theorem getD_slice (memory : ByteMemory) {size index : Nat} (inside : index < size) :
    (memory.slice 0 size).getD index 0 = memory index := by
  rw [List.getD_eq_getElem?_getD, ByteMemory.getElem?_slice memory 0 inside, Nat.zero_add, Option.getD_some]

theorem CoapPacket.holds {memory : ByteMemory} {size : Nat} (accepted : CoapPacket (memory.slice 0 (48 + size)))
    (fits : size ≤ 65527) : HoldsPacket memory size := by
  have room := accepted.room
  have length := accepted.size
  have ulen := accepted.udpLength
  have version := accepted.version
  have next := accepted.nextHeader
  have nonzero := accepted.checksum
  have coap := accepted.coap
  rw [ByteMemory.length_slice] at room length
  rw [frameWord_slice _ (by omega)] at length nonzero
  rw [frameWord_slice _ (by omega), frameWord_slice _ (by omega)] at ulen
  rw [getD_slice _ (by omega)] at version next coap
  exact ⟨by omega, fits, version, next, by omega, by omega, accepted.verifies, nonzero, coap⟩

theorem HoldsPacket.accepted {memory : ByteMemory} {size : Nat} (holds : HoldsPacket memory size) :
    isIpv6UdpPacket memory (48 + size) = true ∧ ipv6UdpPayloadLen memory = size := by
  constructor
  · exact (isIpv6UdpPacket_iff _ _).mpr ⟨by omega, holds.version, holds.nextHeader⟩
  · rw [ipv6UdpPayloadLen_eq, holds.ulen]
    omega

section Conversions

variable {SenderContext ReceiverContext : Type}

/-- The sender converts the payload to the message within its network buffer. -/
def Encrypts (library : Uoscore SenderContext) (integration : Integration SenderContext)
    (payload message : List UInt8) : Prop :=
  let callback := if integration.oscoreInnerSchcEnabled then some PlaintextCb.oscoreMsgInnerCompression else none
  let conversion := (library.coap2oscore integration.oscCtx callback payload 208).1
  conversion.err = .ok ∧ conversion.out = message

/-- The receiver converts the message back within the given capacity. -/
def Decrypts (library : Uoscore ReceiverContext) (integration : Integration ReceiverContext) (capacity : Nat)
    (message payload : List UInt8) : Prop :=
  let callback := if integration.oscoreInnerSchcEnabled then some PlaintextCb.oscoreMsgInnerDecompression else none
  let conversion := (library.oscore2coap integration.oscCtx callback message capacity).1
  conversion.err = .ok ∧ conversion.out = payload

theorem Encrypts.fits {library : Uoscore SenderContext} {integration : Integration SenderContext}
    {payload message : List UInt8} (encrypted : Encrypts library integration payload message) :
    message.length ≤ 208 := by
  obtain ⟨-, rfl⟩ := encrypted
  exact Conversion.fits _

theorem Decrypts.fits {library : Uoscore ReceiverContext} {integration : Integration ReceiverContext} {capacity : Nat}
    {message payload : List UInt8} (decrypted : Decrypts library integration capacity message payload) :
    payload.length ≤ capacity := by
  obtain ⟨-, rfl⟩ := decrypted
  exact Conversion.fits _

/-- The wrapper passes the payload of the buffer to the library. -/
theorem Encrypts.call {library : Uoscore SenderContext} {integration : Integration SenderContext}
    {memory : ByteMemory} {payload message : List UInt8} (encrypted : Encrypts library integration payload message)
    (held : memory.slice 48 (ipv6UdpPayloadLen memory) = payload) :
    (downConversion library integration memory).call.err = .ok ∧
      (downConversion library integration memory).call.out = message := by
  subst held
  rw [← downConversion_input library integration memory] at encrypted
  exact encrypted

theorem Decrypts.call {library : Uoscore ReceiverContext} {state : SchcAl ReceiverContext} {memory : ByteMemory}
    {capacity : Nat} {message payload : List UInt8}
    (decrypted : Decrypts library state.oscore capacity message payload)
    (length : ipv6UdpPayloadLen memory = capacity) (held : memory.slice 48 capacity = message) :
    (upConversion library state.oscore memory).call.err = .ok ∧
      (upConversion library state.oscore memory).call.out = payload := by
  subst length held
  have input : (upConversion library state.oscore memory).call.input = memory.slice 48 (ipv6UdpPayloadLen memory) := by
    show (upConversion library state.oscore memory).call.slice.read memory = _
    rw [upConversion_slice, ByteSpan.read]
  rw [← input] at decrypted
  exact decrypted

/-- The sender puts the message behind the headers of the packet and resizes the packet to it. -/
def sentMemory (netBuffer : ByteMemory) (packet message : List UInt8) : ByteMemory :=
  resize ((netBuffer.store 0 packet).store 48 message) message.length

def sentFrame (netBuffer : ByteMemory) (packet message : List UInt8) : List UInt8 :=
  (sentMemory netBuffer packet message).slice 0 (48 + message.length)

/-- An accepted packet in the buffer passes the tests of the sender. -/
theorem CoapPacket.stored {packet : List UInt8} (accepted : CoapPacket packet) (fits : packet.length ≤ 65575)
    (netBuffer : ByteMemory) : HoldsPacket (netBuffer.store 0 packet) (packet.length - 48) := by
  have room := accepted.room
  have held := ByteMemory.slice_store_self netBuffer 0 packet
  have whole : packet.length = 48 + (packet.length - 48) := by omega
  apply CoapPacket.holds
  · rw [← whole, held]
    exact accepted
  · omega

/-- An accepted packet in the buffer reaches the conversion with its own payload. -/
theorem CoapPacket.reaches {packet : List UInt8} (accepted : CoapPacket packet) (fits : packet.length ≤ 65575)
    (netBuffer : ByteMemory) :
    isIpv6UdpPacket (netBuffer.store 0 packet) packet.length = true ∧
      isCoapPacket (netBuffer.store 0 packet) 48 (ipv6UdpPayloadLen (netBuffer.store 0 packet)) = true ∧
      ipv6UdpPayloadLen (netBuffer.store 0 packet) = packet.length - 48 ∧
      (netBuffer.store 0 packet).slice 48 (packet.length - 48) = packet.drop 48 := by
  have room := accepted.room
  have holds := accepted.stored fits netBuffer
  have size : 48 + (packet.length - 48) = packet.length := by omega
  obtain ⟨udp, length⟩ := holds.accepted
  rw [size] at udp
  have coap : isCoapPacket (netBuffer.store 0 packet) 48 (ipv6UdpPayloadLen (netBuffer.store 0 packet)) = true := by
    rw [isCoapPacket_iff, length]
    exact ⟨holds.nonempty, holds.coap⟩
  have dropped := ByteMemory.drop_slice (netBuffer.store 0 packet) 0 packet.length 48
  rw [ByteMemory.slice_store_self, Nat.zero_add] at dropped
  exact ⟨udp, coap, length, dropped.symm⟩

/-- The sender submits the frame of the message. -/
theorem schcAlSendDown_sent {library : Uoscore SenderContext} {sender : SchcAl SenderContext}
    {packet message : List UInt8} (accepted : CoapPacket packet) (short : packet.length ≤ ipv6MaxPacketSize)
    (idle : Idle sender) (encrypted : Encrypts library sender.oscore (packet.drop 48) message)
    (dropNonCoap oscoreDropOnError : Bool) (rest : List (List UInt8)) (signals : Nat) (reply : NetSendtoReply) :
    ∃ result, schcAlSendDown library (proxyBuild dropNonCoap oscoreDropOnError) sender (packet :: rest)
        (List.replicate signals .eintr) reply = some result ∧
      result.frame = some (sentFrame sender.netBuffer packet message) := by
  have bound : packet.length ≤ 256 := short
  obtain ⟨udp, coap, length, payload⟩ := accepted.reaches (by omega) sender.netBuffer
  have whole : packet.take ipv6MaxPacketSize = packet := List.take_of_length_le short
  have held : (sender.netBuffer.store 0 packet).slice 48 (ipv6UdpPayloadLen (sender.netBuffer.store 0 packet)) =
      packet.drop 48 := by
    rw [length]
    exact payload
  obtain ⟨success, out⟩ := encrypted.call held
  have path : DownPath library (proxyBuild dropNonCoap oscoreDropOnError) sender.oscore
      (sender.netBuffer.store 0 packet) packet.length _ := .converted udp coap rfl success
  have outcome := path.eq
  have same : prepareDown library (proxyBuild dropNonCoap oscoreDropOnError) sender.oscore
      (sender.netBuffer.store 0 packet) packet.length =
        prepared library (proxyBuild dropNonCoap oscoreDropOnError) sender packet := by
    rw [prepared, whole]
  rw [same] at outcome
  refine ⟨_, schcAlSendDown_packet library _ idle packet rest signals reply, ?_⟩
  rw [handlePacket_submits library _ (congrArg Prepared.decision outcome), outcome, sentFrame, sentMemory, ← out]
  rfl

section Received

variable {memory buffer : ByteMemory} {size : Nat} {message : List UInt8}

/-- The header of the frame is the header of the packet with the length of the message. -/
theorem received_accepted (holds : HoldsPacket memory size) (short : message.length ≤ 208)
    (received : ∀ index, index < 48 + message.length →
      buffer index = resize (memory.store 48 message) message.length index) :
    isIpv6UdpPacket buffer (48 + message.length) = true ∧ ipv6UdpPayloadLen buffer = message.length := by
  obtain ⟨-, ulen⟩ := resize_lengths (memory.store 48 message) (show message.length ≤ 65527 by omega)
  have header (index : Nat) (inside : index < 4 ∨ index = 6) : buffer index = memory index := by
    rw [received index (by omega), resize_outside _ _ (by omega) (by omega) (by omega),
      ByteMemory.store_below _ 48 message (by omega)]
  constructor
  · rw [isIpv6UdpPacket_iff, header 0 (by omega), header 6 (by omega)]
    exact ⟨by omega, holds.version, holds.nextHeader⟩
  · rw [ipv6UdpPayloadLen_eq, networkWord_congr (received 44 (by omega)) (received 45 (by omega)), ulen]
    omega

theorem received_payload
    (received : ∀ index, index < 48 + message.length →
      buffer index = resize (memory.store 48 message) message.length index) :
    buffer.slice 48 message.length = message := by
  have same : buffer.slice 48 message.length = (memory.store 48 message).slice 48 message.length := by
    rw [ByteMemory.slice_eq_iff]
    intro index lower upper
    rw [received index upper, resize_outside _ _ (by omega) (by omega) (by omega)]
  rw [same, ByteMemory.slice_store_self]

/-- The receiver restores the packet. -/
theorem netDataReceived_restores {library : Uoscore ReceiverContext} {receiver : SchcAl ReceiverContext}
    (holds : HoldsPacket memory size) (short : message.length ≤ 208) (opened : 0 ≤ receiver.tunFd)
    (coapMessage : message.getD 0 0 &&& 0xC0 = 0x40)
    (decrypted : Decrypts library receiver.oscore message.length message (memory.slice 48 size))
    (received : ∀ index, index < 48 + message.length →
      buffer index = resize (memory.store 48 message) message.length index)
    (dropNonCoap oscoreDropOnError writeFails : Bool) :
    ∃ delivery, netDataReceived library (proxyBuild dropNonCoap oscoreDropOnError) receiver buffer
        (48 + message.length) .success writeFails = some delivery ∧
      delivery.written = some (memory.slice 0 (48 + size)) := by
  have inside : size ≤ message.length := by simpa using decrypted.fits
  have nonempty := holds.nonempty
  obtain ⟨udp, length⟩ := received_accepted holds short received
  have payload := received_payload received
  obtain ⟨success, out⟩ := decrypted.call length payload
  have first : buffer 48 = message.getD 0 0 := by
    rw [← payload, List.getD_eq_getElem?_getD, ByteMemory.getElem?_slice buffer 48 (by omega), Nat.add_zero,
      Option.getD_some]
  have coap : isCoapPacket buffer 48 (48 + message.length) = true := by
    rw [isCoapPacket_iff, first]
    exact ⟨by omega, coapMessage⟩
  have path : UpPath library (proxyBuild dropNonCoap oscoreDropOnError) receiver buffer (48 + message.length)
      writeFails _ := .converted (by omega) udp coap rfl success
  have restored : ∀ index, index < 48 + size →
      resize (buffer.store 48 (memory.slice 48 size)) size index = memory index := by
    intro index below
    have kept := resize_eq_self holds.fits holds.plen holds.ulen holds.verifies holds.nonzero
    rw [← congrFun kept index]
    apply resize_congr holds.fits _ index below
    intro other bound unresized
    unfold IsResized at unresized
    by_cases header : other < 48
    · rw [ByteMemory.store_below _ 48 _ header, received other (by omega),
        resize_outside _ _ (by omega) (by omega) (by omega), ByteMemory.store_below _ 48 message header]
    · obtain ⟨distance, rfl⟩ := Nat.exists_eq_add_of_le (Nat.le_of_not_lt header)
      rw [ByteMemory.store_inside _ 48 _ (by simp; omega), ByteMemory.getElem_slice]
  refine ⟨_, congrArg some path.eq, ?_⟩
  have narrowed : (48 + size) % 2 ^ 16 = 48 + size := Nat.mod_eq_of_lt (by omega)
  show some ((resize (upConversion library receiver.oscore buffer).memory
    (upConversion library receiver.oscore buffer).call.out.length).slice 0
      ((48 + (upConversion library receiver.oscore buffer).call.out.length) % 2 ^ 16)) = _
  rw [upConversion_memory, out, ByteMemory.length_slice, narrowed]
  apply congrArg some
  rw [ByteMemory.slice_eq_iff]
  exact fun index _ upper => restored index (by omega)

end Received

/-- The peer writes the packet when the SDK delivers the frame, and the frame is well formed. -/
def RoundTrips (senderLibrary : Uoscore SenderContext) (receiverLibrary : Uoscore ReceiverContext)
    (senderBuild receiverBuild : Build) (sender : SchcAl SenderContext) (receiver : SchcAl ReceiverContext)
    (packet : List UInt8) : Prop :=
  ∀ rest signals reply, ∃ result frame,
    schcAlSendDown senderLibrary senderBuild sender (packet :: rest) (List.replicate signals .eintr) reply =
      some result ∧
    result.frame = some frame ∧ FrameWellFormed frame ∧
    ∀ buffer writeFails, buffer.slice 0 frame.length = frame → ∃ delivery,
      netDataReceived receiverLibrary receiverBuild receiver buffer frame.length .success writeFails =
        some delivery ∧
      delivery.written = some packet

variable {senderLibrary : Uoscore SenderContext} {receiverLibrary : Uoscore ReceiverContext}
variable {sender : SchcAl SenderContext} {receiver : SchcAl ReceiverContext} {packet message : List UInt8}

/-- A packet passes through both proxies unchanged when its OSCORE message is a CoAP message of version 1. -/
theorem roundTrips_of_coap_message (accepted : CoapPacket packet) (idle : Idle sender) (opened : 0 ≤ receiver.tunFd)
    (encrypted : Encrypts senderLibrary sender.oscore (packet.drop 48) message)
    (decrypted : Decrypts receiverLibrary receiver.oscore message.length message (packet.drop 48))
    (coapMessage : message.getD 0 0 &&& 0xC0 = 0x40)
    (dropBelow failBelow dropAbove failAbove : Bool) :
    RoundTrips senderLibrary receiverLibrary (proxyBuild dropBelow failBelow) (proxyBuild dropAbove failAbove)
      sender receiver packet := by
  have room := accepted.room
  have messageShort := encrypted.fits
  have payloadShort := decrypted.fits
  rw [List.length_drop] at payloadShort
  have short : packet.length ≤ ipv6MaxPacketSize := show packet.length ≤ 256 by omega
  have holds := accepted.stored (by omega) sender.netBuffer
  have payload : (sender.netBuffer.store 0 packet).slice 48 (packet.length - 48) = packet.drop 48 := by
    have dropped := ByteMemory.drop_slice (sender.netBuffer.store 0 packet) 0 packet.length 48
    rw [ByteMemory.slice_store_self, Nat.zero_add] at dropped
    exact dropped.symm
  have whole : (sender.netBuffer.store 0 packet).slice 0 (48 + (packet.length - 48)) = packet := by
    rw [show 48 + (packet.length - 48) = packet.length by omega]
    exact ByteMemory.slice_store_self _ 0 packet
  intro rest signals reply
  obtain ⟨result, ran, frame⟩ :=
    schcAlSendDown_sent accepted short idle encrypted dropBelow failBelow rest signals reply
  have length : (sentFrame sender.netBuffer packet message).length = 48 + message.length :=
    ByteMemory.length_slice _ _ _
  refine ⟨result, _, ran, frame, resize_wellFormed _ (by omega), ?_⟩
  intro buffer writeFails delivered
  rw [length] at delivered ⊢
  have received := (ByteMemory.slice_eq_iff _ _ _ _).mp delivered
  rw [← payload] at decrypted
  obtain ⟨delivery, handled, written⟩ := netDataReceived_restores holds messageShort opened coapMessage decrypted
    (fun index below => received index (Nat.zero_le _) (by omega)) dropAbove failAbove writeFails
  rw [whole] at written
  exact ⟨delivery, handled, written⟩

/-- The peer discards every other message as no CoAP packet. -/
theorem not_roundTrips (accepted : CoapPacket packet) (short : packet.length ≤ ipv6MaxPacketSize) (idle : Idle sender)
    (opened : 0 ≤ receiver.tunFd) (encrypted : Encrypts senderLibrary sender.oscore (packet.drop 48) message)
    (nonempty : 0 < message.length) (otherMessage : message.getD 0 0 &&& 0xC0 ≠ 0x40)
    (dropBelow failBelow failAbove : Bool) :
    ¬RoundTrips senderLibrary receiverLibrary (proxyBuild dropBelow failBelow) (proxyBuild true failAbove)
      sender receiver packet := by
  intro every
  have messageShort := encrypted.fits
  have room := accepted.room
  have bound : packet.length ≤ 256 := short
  have holds := accepted.stored (by omega) sender.netBuffer
  obtain ⟨result, frame, ran, framed, -, delivers⟩ := every [] 0 ⟨.success, none⟩
  obtain ⟨sent, sentRan, sentFramed⟩ :=
    schcAlSendDown_sent accepted short idle encrypted dropBelow failBelow [] 0 ⟨.success, none⟩
  have same : frame = sentFrame sender.netBuffer packet message := by
    rw [ran] at sentRan
    rw [Option.some.inj sentRan, sentFramed] at framed
    exact (Option.some.inj framed).symm
  have length : frame.length = 48 + message.length := by
    rw [same]
    exact ByteMemory.length_slice _ _ _
  obtain ⟨delivery, handled, written⟩ := delivers (sentMemory sender.netBuffer packet message) false (by
    rw [length, same]
    rfl)
  rw [length] at handled
  obtain ⟨udp, -⟩ := received_accepted holds messageShort fun index _ =>
    (rfl : sentMemory sender.netBuffer packet message index = _)
  have first : sentMemory sender.netBuffer packet message 48 = message.getD 0 0 := by
    rw [sentMemory, resize_outside _ _ (by omega) (by omega) (by omega), List.getD_eq_getElem?_getD,
      List.getElem?_eq_getElem nonempty]
    exact ByteMemory.store_inside _ 48 message nonempty
  have other : isCoapPacket (sentMemory sender.netBuffer packet message) 48 (48 + message.length) = false := by
    rw [← Bool.not_eq_true, isCoapPacket_iff, first]
    exact fun coap => otherMessage coap.2
  have path : UpPath receiverLibrary (proxyBuild true failAbove) receiver
      (sentMemory sender.netBuffer packet message) (48 + message.length) false _ :=
    .nonCoapDropped (by omega) udp other rfl
  rw [← Option.some.inj handled, path.eq] at written
  contradiction

end Conversions

/-- This library puts one byte before the payload, and it removes one byte on the way back. -/
def prefixLibrary (first : UInt8) : Uoscore Unit where
  oscoreContextInit _ := (.ok, ())
  coap2oscore context _ input capacity :=
    if fits : (first :: input).length ≤ capacity then (⟨.ok, first :: input, fits⟩, context)
    else (⟨.bufferToSmall, [], Nat.zero_le _⟩, context)
  oscore2coap context _ input capacity := (⟨.ok, input.tail.take capacity, by simp⟩, context)

/-- This packet carries a CoAP payload of one byte and a checksum that verifies. -/
def minimalPacket : List UInt8 :=
  [0x60, 0, 0, 0, 0, 9, 17, 64] ++ List.replicate 36 0 ++ [0, 9, 0xBF, 0xDC, 0x40]

theorem minimalPacket_accepted : CoapPacket minimalPacket :=
  ⟨⟨by decide, by decide, by decide⟩, by decide, by decide, by decide, by decide, by decide⟩

theorem openLayer_idle : Idle openLayer := ⟨by decide, EventWord.has_none _⟩

/-- A message that starts with a CoAP byte brings the packet back. -/
theorem minimalPacket_roundTrips :
    RoundTrips (prefixLibrary 0x40) (prefixLibrary 0x40) (proxyBuild true true) (proxyBuild true true)
      openLayer openLayer minimalPacket :=
  roundTrips_of_coap_message minimalPacket_accepted openLayer_idle (by decide)
    (show Encrypts _ _ _ [0x40, 0x40] from ⟨rfl, rfl⟩) ⟨rfl, rfl⟩ (by decide) true true true true

/-- The same conversion with another first byte is inverted too, and the peer writes nothing. -/
theorem minimalPacket_lost :
    CoapPacket minimalPacket ∧ Idle openLayer ∧ 0 ≤ openLayer.tunFd ∧
      Encrypts (prefixLibrary 0) openLayer.oscore (minimalPacket.drop 48) [0, 0x40] ∧
      Decrypts (prefixLibrary 0) openLayer.oscore 2 [0, 0x40] (minimalPacket.drop 48) ∧
      ¬RoundTrips (prefixLibrary 0) (prefixLibrary 0) (proxyBuild true true) (proxyBuild true true)
        openLayer openLayer minimalPacket := by
  have encrypted : Encrypts (prefixLibrary 0) openLayer.oscore (minimalPacket.drop 48) [0, 0x40] := ⟨rfl, rfl⟩
  refine ⟨minimalPacket_accepted, openLayer_idle, by decide, encrypted, ⟨rfl, rfl⟩, ?_⟩
  exact not_roundTrips minimalPacket_accepted (by decide) openLayer_idle (by decide) encrypted (by decide)
    (by decide) true true true

end SchcWork.Worker
