import SchcWork.Worker.MainLoop

namespace SchcWork.Worker

open Net

variable {Context : Type}

/-- The record belongs to one call of the conversion function. -/
def CalledBy (function : ConversionFunction Context) (call : CallRecord) : Prop :=
  ∃ oscCtx callback capacity, (function oscCtx callback call.input capacity).1.err = call.err ∧
    (function oscCtx callback call.input capacity).1.out = call.out

/-- The UDP payload of a frame is exactly the given payload. -/
structure Carries (frame payload : List UInt8) : Prop where
  length : frame.length = 48 + payload.length
  udpLength : frameWord frame 44 = 8 + payload.length
  payload : frame.drop 48 = payload

/-- The input has the payload length that the UDP header of the packet states, and it holds the payload bytes of the
packet that the buffer holds. -/
structure InputOf (packet input : List UInt8) : Prop where
  length : input.length = ipv6UdpPayloadLen (packetMemory (packet.take ipv6MaxPacketSize))
  bytes : ∀ index, index < input.length → 48 + index < (packet.take ipv6MaxPacketSize).length →
    input[index]? = packet[48 + index]?

/-- A frame that goes down carries the output of a successful conversion of its packet. -/
def ProtectedDown (library : Uoscore Context) (result : SendDown Context) : Prop :=
  ∀ frame, result.frame = some frame → ∃ packet call, result.taken = some packet ∧ result.call = some call ∧
    CalledBy library.coap2oscore call ∧ InputOf packet call.input ∧ call.err = .ok ∧ Carries frame call.out

/-- A frame that goes up carries the output of a successful conversion, or it is a delivery that the library
reported as no OSCORE packet. -/
def AuthenticatedUp (library : Uoscore Context) (action : WorkerAction) (result : ForwardUp Context) : Prop :=
  ∀ frame, result.written = some frame → ∃ buffer dataSize writeFails call,
    action = .dataReceived buffer dataSize .success writeFails ∧ result.call = some call ∧
    CalledBy library.oscore2coap call ∧ call.input = buffer.slice 48 (ipv6UdpPayloadLen buffer) ∧
    (call.err = .ok ∧ Carries frame call.out ∨ call.err = .notOscorePkt ∧ frame = buffer.slice 0 dataSize)

/-- Both directions fail closed in one step. -/
def FailClosed (library : Uoscore Context) (record : WorkerAction × WorkerOutput Context) : Prop :=
  (∀ result, record.2.down = some result → ProtectedDown library result) ∧
    (∀ result, record.2.up = some result → AuthenticatedUp library record.1 result)

/-- A resized frame carries the bytes behind its headers. -/
theorem resize_carries (memory : ByteMemory) {out : List UInt8} (fits : out.length ≤ 65527) :
    Carries ((resize (memory.store 48 out) out.length).slice 0 (48 + out.length)) out := by
  have ulen := (resize_lengths (memory.store 48 out) fits).2
  refine ⟨ByteMemory.length_slice _ _ _, ?_, ?_⟩
  · rw [frameWord_slice _ (by omega), ulen]
  · rw [ByteMemory.drop_slice, Nat.zero_add, Nat.add_sub_cancel_left]
    have same : (resize (memory.store 48 out) out.length).slice 48 out.length =
        (memory.store 48 out).slice 48 out.length := by
      rw [ByteMemory.slice_eq_iff]
      exact fun index lower _ => resize_outside _ _ (by omega) (by omega) (by omega)
    rw [same, ByteMemory.slice_store_self]

section Strict

variable {library : Uoscore Context} {mode : PeerMode}

theorem downConversion_inputOf (integration : Integration Context) (netBuffer : ByteMemory) {packet : List UInt8}
    (udp : isIpv6UdpPacket (netBuffer.store 0 (packet.take ipv6MaxPacketSize))
      (packet.take ipv6MaxPacketSize).length = true) :
    InputOf packet (downConversion library integration
      (netBuffer.store 0 (packet.take ipv6MaxPacketSize))).call.input := by
  have stated : ipv6UdpPayloadLen (netBuffer.store 0 (packet.take ipv6MaxPacketSize)) =
      ipv6UdpPayloadLen (packetMemory (packet.take ipv6MaxPacketSize)) := by
    apply ipv6UdpPayloadLen_agree udp
    intro index inside
    have first := ByteMemory.store_inside netBuffer 0 (packet.take ipv6MaxPacketSize) inside
    have second := ByteMemory.store_inside (fun _ => 0) 0 (packet.take ipv6MaxPacketSize) inside
    rw [Nat.zero_add] at first second
    rw [first, packetMemory, second]
  refine ⟨by rw [downConversion_input, ByteMemory.length_slice, stated], ?_⟩
  intro index inside within
  rw [downConversion_input, ByteMemory.length_slice] at inside
  have stored := ByteMemory.store_inside netBuffer 0 (packet.take ipv6MaxPacketSize) within
  have short : (packet.take ipv6MaxPacketSize).length ≤ 256 := List.length_take_le _ _
  rw [Nat.zero_add] at stored
  rw [downConversion_input, ByteMemory.getElem?_slice _ 48 inside, stored, ← List.getElem?_eq_getElem within]
  exact List.getElem?_take_of_lt (show 48 + index < 256 by omega)

/-- The strict build submits a frame on the converted path only. -/
theorem handlePacket_protected (state : SchcAl Context) (packet : List UInt8) (rest : List (List UInt8))
    (reply : NetSendtoReply) :
    ProtectedDown library (handlePacket library (proxyBuild true true) state packet rest reply) := by
  have path := handlePacket_path library (proxyBuild true true) state packet rest reply
  have fits := downConversion_fits library state.oscore (state.netBuffer.store 0 (packet.take ipv6MaxPacketSize))
  intro frame framed
  generalize handlePacket library (proxyBuild true true) state packet rest reply = result at path framed
  cases path with
  | discarded reason decided => contradiction
  | submitted pktLen decided =>
      have down := prepareDown_path library (proxyBuild true true) state.oscore
        (state.netBuffer.store 0 (packet.take ipv6MaxPacketSize)) (packet.take ipv6MaxPacketSize).length
      rw [← Option.some.inj framed]
      unfold prepared at decided ⊢
      generalize prepareDown library (proxyBuild true true) state.oscore
        (state.netBuffer.store 0 (packet.take ipv6MaxPacketSize)) (packet.take ipv6MaxPacketSize).length = outcome
        at down decided ⊢
      cases down with
      | nonIpv6Udp other => contradiction
      | nonCoapDropped udp other drop => contradiction
      | nonCoapSent udp other keep => contradiction
      | plain udp coap disabled => contradiction
      | failedDropped udp coap enabled failed drop => contradiction
      | failedSent udp coap enabled failed keep => contradiction
      | converted udp coap enabled success =>
          rw [← Decision.submit.inj decided]
          exact ⟨packet, _, rfl, rfl, ⟨_, _, _, rfl, rfl⟩, downConversion_inputOf _ _ udp, success,
            resize_carries _ (Nat.le_trans fits (by decide))⟩

theorem processPath_protected {state : SchcAl Context} {tun : List (List UInt8)} {reply : NetSendtoReply}
    {result : SendDown Context} (path : ProcessPath library (proxyBuild true true) state tun reply result) :
    ProtectedDown library result := by
  rcases path.idle_or_handled with ⟨status, al, rfl, -⟩ | ⟨packet, rest, -, -, rfl⟩
  · exact nofun
  · exact handlePacket_protected state.cleared packet rest reply

/-- The strict build writes a delivery on the converted path or on the path of a plain packet only. -/
theorem schcAlForwardUp_authenticated
    (silent : ∀ oscCtx callback input capacity, (library.oscore2coap oscCtx callback input capacity).1.err =
      .notOscorePkt → (library.oscore2coap oscCtx callback input capacity).1.out = [])
    (bounded : ∀ oscCtx callback input capacity, (library.oscore2coap oscCtx callback input capacity).1.err = .ok →
      48 + (library.oscore2coap oscCtx callback input capacity).1.out.length < 2 ^ 16)
    (state : SchcAl Context) (buffer : ByteMemory) (dataSize : Nat) (writeFails : Bool) :
    AuthenticatedUp library (.dataReceived buffer dataSize .success writeFails)
      (schcAlForwardUp library (proxyBuild true true) state buffer dataSize writeFails) := by
  have path := schcAlForwardUp_path library (proxyBuild true true) state buffer dataSize writeFails
  have called : CalledBy library.oscore2coap (upConversion library state.oscore buffer).call := ⟨_, _, _, rfl, rfl⟩
  have input : (upConversion library state.oscore buffer).call.input =
      buffer.slice 48 (ipv6UdpPayloadLen buffer) := by
    show (upConversion library state.oscore buffer).call.slice.read buffer = _
    rw [upConversion_slice, ByteSpan.read]
  intro frame written
  refine ⟨buffer, dataSize, writeFails, (upConversion library state.oscore buffer).call, rfl, ?_⟩
  generalize schcAlForwardUp library (proxyBuild true true) state buffer dataSize writeFails = result
    at path written ⊢
  cases path with
  | closed closed => contradiction
  | nonIpv6Udp opened other => contradiction
  | nonCoapDropped opened udp other drop => contradiction
  | nonCoapSent opened udp other keep => contradiction
  | plain opened udp coap disabled => contradiction
  | notOscore opened udp coap enabled reported =>
      refine ⟨rfl, called, input, Or.inr ⟨reported, ?_⟩⟩
      have empty : (upConversion library state.oscore buffer).call.out = [] := silent _ _ _ _ reported
      rw [← Option.some.inj written, upConversion_memory, empty, ByteMemory.slice_eq_iff]
      exact fun index _ _ => ByteMemory.store_outside buffer 48 [] (by simp; omega)
  | failed opened udp coap enabled failure other => contradiction
  | converted opened udp coap enabled success =>
      have small : 48 + (upConversion library state.oscore buffer).call.out.length < 2 ^ 16 := bounded _ _ _ _ success
      refine ⟨rfl, called, input, Or.inl ⟨success, ?_⟩⟩
      rw [← Option.some.inj written, upConversion_memory, Nat.mod_eq_of_lt small]
      exact resize_carries buffer (by omega)

/-- Every record of a run of the strict build fails closed. -/
theorem run_failClosed
    (silent : ∀ oscCtx callback input capacity, (library.oscore2coap oscCtx callback input capacity).1.err =
      .notOscorePkt → (library.oscore2coap oscCtx callback input capacity).1.out = [])
    (bounded : ∀ oscCtx callback input capacity, (library.oscore2coap oscCtx callback input capacity).1.err = .ok →
      48 + (library.oscore2coap oscCtx callback input capacity).1.out.length < 2 ^ 16)
    {worker : WorkerState Context} {trace : List (WorkerAction × WorkerOutput Context)}
    (run : (workerSystem library (proxyBuild true true) mode).Run worker trace) :
    ∀ record ∈ trace, FailClosed library record := by
  rintro ⟨action, output⟩ member
  obtain ⟨before, after, -, taken⟩ := run.mem member
  have path : WorkerPath library (proxyBuild true true) before action after output := workerStep_path taken
  cases path with
  | arrive packet => exact ⟨fun _ sent => by contradiction, fun _ sent => by contradiction⟩
  | poll result truthful => exact ⟨fun _ sent => by contradiction, fun _ sent => by contradiction⟩
  | process errors reply result path =>
      refine ⟨?_, fun _ sent => by contradiction⟩
      intro other sent
      rw [← Option.some.inj sent]
      exact processPath_protected path
  | transmissionResult status error pending =>
      exact ⟨fun _ sent => by contradiction, fun _ sent => by contradiction⟩
  | delivered buffer dataSize writeFails =>
      refine ⟨fun _ sent => by contradiction, ?_⟩
      intro result sent
      rw [← Option.some.inj sent]
      exact schcAlForwardUp_authenticated silent bounded before.al buffer dataSize writeFails
  | undelivered => exact ⟨fun _ sent => by contradiction, fun _ sent => by contradiction⟩

end Strict

/-- This library converts every payload down, and it accepts the messages that it marked. -/
def markingLibrary : Uoscore Unit where
  oscoreContextInit _ := (.ok, ())
  coap2oscore context _ input capacity :=
    if fits : (0x41 :: input).length ≤ capacity then (⟨.ok, 0x41 :: input, fits⟩, context)
    else (⟨.bufferToSmall, [], Nat.zero_le _⟩, context)
  oscore2coap context _ input capacity :=
    if input.head? = some 0x41 then (⟨.ok, (input.tail.take 128).take capacity, by simp⟩, context)
    else (⟨.notOscorePkt, [], Nat.zero_le _⟩, context)

theorem markingLibrary_silent (oscCtx : Unit) (callback : Option PlaintextCb) (input : List UInt8) (capacity : Nat)
    (reported : (markingLibrary.oscore2coap oscCtx callback input capacity).1.err = .notOscorePkt) :
    (markingLibrary.oscore2coap oscCtx callback input capacity).1.out = [] := by
  simp only [markingLibrary] at reported ⊢
  split at reported
  · contradiction
  · rename_i unmarked
    rw [if_neg unmarked]

theorem markingLibrary_bounded (oscCtx : Unit) (callback : Option PlaintextCb) (input : List UInt8) (capacity : Nat)
    (_success : (markingLibrary.oscore2coap oscCtx callback input capacity).1.err = .ok) :
    48 + (markingLibrary.oscore2coap oscCtx callback input capacity).1.out.length < 2 ^ 16 := by
  simp only [markingLibrary]
  split
  · have short : ((input.tail.take 128).take capacity).length ≤ 128 :=
      (List.length_take_le' _ _).trans (List.length_take_le _ _)
    show 48 + ((input.tail.take 128).take capacity).length < 65536
    omega
  · show 48 + 0 < 65536
    decide

/-- A run of the strict build that sends a packet and receives a plain one fails closed. -/
theorem markingLibrary_failsClosed :
    ∃ worker trace, (workerSystem markingLibrary (proxyBuild true true) .device).Run worker trace ∧
      (frames trace).length = 1 ∧ ∀ record ∈ trace, FailClosed markingLibrary record := by
  have start : (workerSystem markingLibrary (proxyBuild true true) .device).Run
      (bootedWorker markingLibrary (proxyBuild true true)) [] := .start (bootedWorker_started (by decide))
  have arrived := @LabelledSystem.Run.extend _ _ _ _ _ _ _ (.arrive shortTailPacket) _ start rfl
  have polled := @LabelledSystem.Run.extend _ _ _ _ _ _ _ (.poll (.ready fun _ => true)) _ arrived rfl
  have sent := @LabelledSystem.Run.extend _ _ _ _ _ _ _ (.process [] ⟨.success, none⟩) _ polled rfl
  have received := @LabelledSystem.Run.extend _ _ _ _ _ _ _
    (.dataReceived (packetMemory shortTailPacket) 49 .success false) _ sent rfl
  exact ⟨_, _, received, rfl, run_failClosed markingLibrary_silent markingLibrary_bounded received⟩

end SchcWork.Worker
