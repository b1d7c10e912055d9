import SchcWork.Worker.AdaptationLayer

namespace SchcWork.Worker

open Net

variable {Context : Type}

/-- This is the conversion that the layer makes for the packet in its buffer. -/
def downConversion (library : Uoscore Context) (integration : Integration Context) (netBuffer : ByteMemory) :
    Converted Context :=
  coapToOscore library integration netBuffer 48 (ipv6UdpPayloadLen netBuffer) 48 208

/-- Each constructor is one path of `prepareDown` with its guards and its outcome. -/
inductive DownPath (library : Uoscore Context) (build : Build) (integration : Integration Context)
    (netBuffer : ByteMemory) (pktLen : Nat) : Prepared Context → Prop where
  | nonIpv6Udp (other : isIpv6UdpPacket netBuffer pktLen = false) :
      DownPath library build integration netBuffer pktLen
        ⟨netBuffer, integration.oscCtx, none, .discard .nonIpv6Udp⟩
  | nonCoapDropped (udp : isIpv6UdpPacket netBuffer pktLen = true)
      (other : isCoapPacket netBuffer 48 (ipv6UdpPayloadLen netBuffer) = false) (drop : build.dropNonCoap = true) :
      DownPath library build integration netBuffer pktLen
        ⟨netBuffer, integration.oscCtx, none, .discard .nonCoap⟩
  | nonCoapSent (udp : isIpv6UdpPacket netBuffer pktLen = true)
      (other : isCoapPacket netBuffer 48 (ipv6UdpPayloadLen netBuffer) = false) (keep : build.dropNonCoap = false) :
      DownPath library build integration netBuffer pktLen
        ⟨netBuffer, integration.oscCtx, none, .submit pktLen⟩
  | plain (udp : isIpv6UdpPacket netBuffer pktLen = true)
      (coap : isCoapPacket netBuffer 48 (ipv6UdpPayloadLen netBuffer) = true)
      (disabled : build.oscoreProxyEnabled = false) :
      DownPath library build integration netBuffer pktLen
        ⟨netBuffer, integration.oscCtx, none, .submit pktLen⟩
  | failedDropped (udp : isIpv6UdpPacket netBuffer pktLen = true)
      (coap : isCoapPacket netBuffer 48 (ipv6UdpPayloadLen netBuffer) = true)
      (enabled : build.oscoreProxyEnabled = true)
      (failed : (downConversion library integration netBuffer).call.err ≠ .ok)
      (drop : build.oscoreDropOnError = true) :
      DownPath library build integration netBuffer pktLen
        ⟨(downConversion library integration netBuffer).memory, (downConversion library integration netBuffer).oscCtx,
          some (downConversion library integration netBuffer).call, .discard .oscoreEncryptionFailed⟩
  | failedSent (udp : isIpv6UdpPacket netBuffer pktLen = true)
      (coap : isCoapPacket netBuffer 48 (ipv6UdpPayloadLen netBuffer) = true)
      (enabled : build.oscoreProxyEnabled = true)
      (failed : (downConversion library integration netBuffer).call.err ≠ .ok)
      (keep : build.oscoreDropOnError = false) :
      DownPath library build integration netBuffer pktLen
        ⟨resize (downConversion library integration netBuffer).memory (ipv6UdpPayloadLen netBuffer),
          (downConversion library integration netBuffer).oscCtx,
          some (downConversion library integration netBuffer).call, .submit (48 + ipv6UdpPayloadLen netBuffer)⟩
  | converted (udp : isIpv6UdpPacket netBuffer pktLen = true)
      (coap : isCoapPacket netBuffer 48 (ipv6UdpPayloadLen netBuffer) = true)
      (enabled : build.oscoreProxyEnabled = true)
      (success : (downConversion library integration netBuffer).call.err = .ok) :
      DownPath library build integration netBuffer pktLen
        ⟨resize (downConversion library integration netBuffer).memory
            (downConversion library integration netBuffer).call.out.length,
          (downConversion library integration netBuffer).oscCtx,
          some (downConversion library integration netBuffer).call,
          .submit (48 + (downConversion library integration netBuffer).call.out.length)⟩

section Paths

variable (library : Uoscore Context) (build : Build) (integration : Integration Context)
variable (netBuffer : ByteMemory) (pktLen : Nat)

theorem downConversion_res :
    (downConversion library integration netBuffer).res =
      uoscoreErrToRes (downConversion library integration netBuffer).call.err :=
  convert_res _ _ _ _ _ _ _ _

theorem downConversion_fits : (downConversion library integration netBuffer).call.out.length ≤ 208 :=
  convert_fits _ _ _ _ _ _ _ _

theorem downConversion_memory :
    (downConversion library integration netBuffer).memory =
      netBuffer.store 48 (downConversion library integration netBuffer).call.out :=
  rfl

/-- The payload length has 16 bits, so the narrowing of the wrapper keeps it. -/
theorem downConversion_slice :
    (downConversion library integration netBuffer).call.slice = ⟨48, ipv6UdpPayloadLen netBuffer⟩ := by
  have bound := ipv6UdpPayloadLen_le netBuffer
  have narrowed : ipv6UdpPayloadLen netBuffer % 2 ^ 16 = ipv6UdpPayloadLen netBuffer := Nat.mod_eq_of_lt (by omega)
  show ByteSpan.mk 48 (ipv6UdpPayloadLen netBuffer % 2 ^ 16) = _
  rw [narrowed]

theorem downConversion_input :
    (downConversion library integration netBuffer).call.input = netBuffer.slice 48 (ipv6UdpPayloadLen netBuffer) := by
  have slice := downConversion_slice library integration netBuffer
  show (downConversion library integration netBuffer).call.slice.read netBuffer = _
  rw [slice, ByteSpan.read]

private theorem prepareDown_unfolded :
    prepareDown library build integration netBuffer pktLen =
      if ¬isIpv6UdpPacket netBuffer pktLen then ⟨netBuffer, integration.oscCtx, none, .discard .nonIpv6Udp⟩
      else if ¬isCoapPacket netBuffer 48 (ipv6UdpPayloadLen netBuffer) then
        if build.dropNonCoap then ⟨netBuffer, integration.oscCtx, none, .discard .nonCoap⟩
        else ⟨netBuffer, integration.oscCtx, none, .submit pktLen⟩
      else if build.oscoreProxyEnabled then
        let converted := downConversion library integration netBuffer
        if converted.res ≠ .coSuccess ∧ build.oscoreDropOnError then
          ⟨converted.memory, converted.oscCtx, some converted.call, .discard .oscoreEncryptionFailed⟩
        else
          let oscoreLen :=
            if converted.res ≠ .coSuccess then ipv6UdpPayloadLen netBuffer else converted.call.out.length
          ⟨resize converted.memory oscoreLen, converted.oscCtx, some converted.call, .submit (48 + oscoreLen)⟩
      else ⟨netBuffer, integration.oscCtx, none, .submit pktLen⟩ :=
  rfl

/-- The guards of a path determine its outcome. -/
theorem DownPath.eq {prepared : Prepared Context}
    (path : DownPath library build integration netBuffer pktLen prepared) :
    prepareDown library build integration netBuffer pktLen = prepared := by
  have res := downConversion_res library integration netBuffer
  have success := uoscoreErrToRes_success (downConversion library integration netBuffer).call.err
  rw [← res] at success
  rw [prepareDown_unfolded]
  cases path with
  | nonIpv6Udp other => simp [other]
  | nonCoapDropped udp other drop => simp [udp, other, drop]
  | nonCoapSent udp other keep => simp [udp, other, keep]
  | plain udp coap disabled => simp [udp, coap, disabled]
  | failedDropped udp coap enabled failed drop => simp [udp, coap, enabled, drop, mt success.mp failed]
  | failedSent udp coap enabled failed keep => simp [udp, coap, enabled, keep, mt success.mp failed]
  | converted udp coap enabled ok => simp [udp, coap, enabled, success.mpr ok]

/-- Every packet takes one of the paths. -/
theorem prepareDown_path :
    DownPath library build integration netBuffer pktLen
      (prepareDown library build integration netBuffer pktLen) := by
  have some_path : ∃ prepared, DownPath library build integration netBuffer pktLen prepared := by
    by_cases udp : isIpv6UdpPacket netBuffer pktLen = true
    · by_cases coap : isCoapPacket netBuffer 48 (ipv6UdpPayloadLen netBuffer) = true
      · by_cases enabled : build.oscoreProxyEnabled = true
        · by_cases success : (downConversion library integration netBuffer).call.err = .ok
          · exact ⟨_, .converted udp coap enabled success⟩
          · by_cases drop : build.oscoreDropOnError = true
            · exact ⟨_, .failedDropped udp coap enabled success drop⟩
            · exact ⟨_, .failedSent udp coap enabled success (Bool.eq_false_iff.mpr drop)⟩
        · exact ⟨_, .plain udp coap (Bool.eq_false_iff.mpr enabled)⟩
      · by_cases drop : build.dropNonCoap = true
        · exact ⟨_, .nonCoapDropped udp (Bool.eq_false_iff.mpr coap) drop⟩
        · exact ⟨_, .nonCoapSent udp (Bool.eq_false_iff.mpr coap) (Bool.eq_false_iff.mpr drop)⟩
    · exact ⟨_, .nonIpv6Udp (Bool.eq_false_iff.mpr udp)⟩
  obtain ⟨prepared, path⟩ := some_path
  rw [path.eq]
  exact path

end Paths

/-- The layer converts no byte after the packet, and its CoAP test reads a byte of the packet. -/
def TailInside (packet : ByteMemory) (pktLen : Nat) : Prop :=
  isIpv6UdpPacket packet pktLen = false ∨ 48 + ipv6UdpPayloadLen packet ≤ pktLen ∨
    (48 < pktLen ∧ packet 48 &&& 0xC0 ≠ 0x40)

instance (packet : ByteMemory) (pktLen : Nat) : Decidable (TailInside packet pktLen) :=
  inferInstanceAs (Decidable (_ ∨ _ ∨ _))

section Agreement

variable {library : Uoscore Context} {build : Build} {integration : Integration Context}
variable {first second : ByteMemory} {pktLen : Nat}

theorem isIpv6UdpPacket_agree (same : ∀ index, index < pktLen → first index = second index) :
    isIpv6UdpPacket first pktLen = isIpv6UdpPacket second pktLen := by
  by_cases long : 48 ≤ pktLen
  · exact isIpv6UdpPacket_congr pktLen (same 0 (by omega)) (same 6 (by omega))
  · have short : pktLen < sizeofIp6Hdr + sizeofUdphdr := Nat.lt_of_not_le long
    simp only [isIpv6UdpPacket, short, if_true]

theorem isIpv6UdpPacket_long (udp : isIpv6UdpPacket first pktLen = true) : 48 ≤ pktLen :=
  ((isIpv6UdpPacket_iff first pktLen).mp udp).1

theorem ipv6UdpPayloadLen_agree (udp : isIpv6UdpPacket first pktLen = true)
    (same : ∀ index, index < pktLen → first index = second index) :
    ipv6UdpPayloadLen first = ipv6UdpPayloadLen second := by
  have long := isIpv6UdpPacket_long udp
  exact ipv6UdpPayloadLen_congr (same 44 (by omega)) (same 45 (by omega))

/-- A contained tail keeps the CoAP test inside the packet. -/
theorem isCoapPacket_agree (udp : isIpv6UdpPacket first pktLen = true) (tail : TailInside first pktLen)
    (same : ∀ index, index < pktLen → first index = second index) :
    isCoapPacket first 48 (ipv6UdpPayloadLen first) = isCoapPacket second 48 (ipv6UdpPayloadLen second) := by
  rw [← ipv6UdpPayloadLen_agree udp same]
  by_cases empty : ipv6UdpPayloadLen first < 1
  · simp only [isCoapPacket, empty, if_true]
  · have inside : 48 < pktLen := by
      rcases tail with other | contained | ⟨room, _⟩
      · rw [udp] at other
        contradiction
      · omega
      · exact room
    simp only [isCoapPacket, same 48 inside]

theorem TailInside.contained (tail : TailInside first pktLen) (udp : isIpv6UdpPacket first pktLen = true)
    (coap : isCoapPacket first 48 (ipv6UdpPayloadLen first) = true) : 48 + ipv6UdpPayloadLen first ≤ pktLen := by
  rcases tail with other | contained | ⟨_, other⟩
  · rw [udp] at other
    contradiction
  · exact contained
  · exact absurd ((isCoapPacket_iff _ _ _).mp coap).2 other

theorem downConversion_congr (length : ipv6UdpPayloadLen first = ipv6UdpPayloadLen second)
    (same : first.slice 48 (ipv6UdpPayloadLen first) = second.slice 48 (ipv6UdpPayloadLen first)) :
    (downConversion library integration first).call = (downConversion library integration second).call ∧
      (downConversion library integration first).oscCtx = (downConversion library integration second).oscCtx := by
  have bound := ipv6UdpPayloadLen_le first
  unfold downConversion
  rw [← length]
  apply convert_congr
  rw [Nat.mod_eq_of_lt (by omega)]
  exact same

theorem downConversion_agree (tail : TailInside first pktLen)
    (same : ∀ index, index < pktLen → first index = second index) (udp : isIpv6UdpPacket first pktLen = true)
    (coap : isCoapPacket first 48 (ipv6UdpPayloadLen first) = true) :
    (downConversion library integration first).call = (downConversion library integration second).call ∧
      (downConversion library integration first).oscCtx = (downConversion library integration second).oscCtx := by
  have contained := tail.contained udp coap
  apply downConversion_congr (ipv6UdpPayloadLen_agree udp same)
  rw [ByteMemory.slice_eq_iff]
  exact fun index _ upper => same index (by omega)

/-- The frame holds the headers of the packet, the bytes that the conversion wrote, and bytes of the packet. -/
theorem resized_agree {size : Nat} (fits : size ≤ 65527) (out : List UInt8)
    (same : ∀ index, index < 48 + size → index < 48 ∨ 48 + out.length ≤ index → first index = second index) :
    (resize (first.store 48 out) size).slice 0 (48 + size) =
      (resize (second.store 48 out) size).slice 0 (48 + size) := by
  rw [ByteMemory.slice_eq_iff]
  intro index _ upper
  have stored (index : Nat) (inside : index < 48 + size) : first.store 48 out index = second.store 48 out index :=
    ByteMemory.store_congr 48 out fun outside => same index inside outside
  exact resize_congr fits (fun index inside _ => stored index inside) index (by omega)

/-- Two outcomes agree on everything that leaves the layer. -/
structure SameOutcome (first second : Prepared Context) : Prop where
  decision : first.decision = second.decision
  call : first.call = second.call
  oscCtx : first.oscCtx = second.oscCtx
  frame : ∀ pktLen, first.decision = .submit pktLen →
    first.netBuffer.slice 0 pktLen = second.netBuffer.slice 0 pktLen

/-- Buffers that agree on a packet with a contained tail give one outcome. -/
theorem prepareDown_agree (tail : TailInside first pktLen)
    (same : ∀ index, index < pktLen → first index = second index) :
    SameOutcome (prepareDown library build integration first pktLen)
      (prepareDown library build integration second pktLen) := by
  have path := prepareDown_path library build integration first pktLen
  have udpSame := isIpv6UdpPacket_agree same
  have unmodified (length : Nat) (submitted : Decision.submit pktLen = .submit length) :
      first.slice 0 length = second.slice 0 length := by
    rw [← Decision.submit.inj submitted, ByteMemory.slice_eq_iff]
    exact fun index _ upper => same index (by omega)
  have coapSame (udp : isIpv6UdpPacket first pktLen = true) := (isCoapPacket_agree udp tail same).symm
  generalize prepareDown library build integration first pktLen = prepared at path
  cases path with
  | nonIpv6Udp other =>
      have path : DownPath library build integration second pktLen _ := .nonIpv6Udp (udpSame.symm.trans other)
      rw [path.eq]
      exact ⟨rfl, rfl, rfl, nofun⟩
  | nonCoapDropped udp other drop =>
      have path : DownPath library build integration second pktLen _ :=
        .nonCoapDropped (udpSame.symm.trans udp) ((coapSame udp).trans other) drop
      rw [path.eq]
      exact ⟨rfl, rfl, rfl, nofun⟩
  | nonCoapSent udp other keep =>
      have path : DownPath library build integration second pktLen _ :=
        .nonCoapSent (udpSame.symm.trans udp) ((coapSame udp).trans other) keep
      rw [path.eq]
      exact ⟨rfl, rfl, rfl, unmodified⟩
  | plain udp coap disabled =>
      have path : DownPath library build integration second pktLen _ :=
        .plain (udpSame.symm.trans udp) ((coapSame udp).trans coap) disabled
      rw [path.eq]
      exact ⟨rfl, rfl, rfl, unmodified⟩
  | failedDropped udp coap enabled failed drop =>
      obtain ⟨call, oscCtx⟩ := downConversion_agree tail same udp coap
      have path : DownPath library build integration second pktLen _ :=
        .failedDropped (udpSame.symm.trans udp) ((coapSame udp).trans coap) enabled (by rwa [← call]) drop
      rw [path.eq]
      exact ⟨rfl, congrArg some call, oscCtx, nofun⟩
  | failedSent udp coap enabled failed keep =>
      obtain ⟨call, oscCtx⟩ := downConversion_agree tail same udp coap
      have contained := tail.contained udp coap
      have bound := ipv6UdpPayloadLen_le first
      have length := ipv6UdpPayloadLen_agree udp same
      have path : DownPath library build integration second pktLen _ :=
        .failedSent (udpSame.symm.trans udp) ((coapSame udp).trans coap) enabled (by rwa [← call]) keep
      rw [path.eq, ← length]
      refine ⟨rfl, congrArg some call, oscCtx, ?_⟩
      intro pktLen submitted
      rw [← Decision.submit.inj submitted, downConversion_memory, downConversion_memory, call]
      exact resized_agree bound _ fun index inside _ => same index (by omega)
  | converted udp coap enabled success =>
      obtain ⟨call, oscCtx⟩ := downConversion_agree tail same udp coap
      have long := isIpv6UdpPacket_long udp
      have fits := downConversion_fits library integration second
      have path : DownPath library build integration second pktLen _ :=
        .converted (udpSame.symm.trans udp) ((coapSame udp).trans coap) enabled (by rwa [← call])
      rw [path.eq]
      refine ⟨by rw [call], congrArg some call, oscCtx, ?_⟩
      intro pktLen submitted
      rw [← Decision.submit.inj submitted, downConversion_memory, downConversion_memory, call]
      exact resized_agree (by omega) _ fun index inside outside => same index (by omega)

end Agreement

/-- The layer reads a packet when its TUN is open and no transmission is outstanding. -/
structure Idle (state : SchcAl Context) : Prop where
  tunOpen : 0 ≤ state.tunFd
  free : state.event.has ongoingTransmission = false

/-- Interruptions do not change what the read loop takes. -/
theorem readTun_interrupted (packet : List UInt8) (rest : List (List UInt8)) (signals : Nat) :
    readTun (packet :: rest) (List.replicate signals .eintr) = some (.packet packet, rest) := by
  induction signals with
  | zero => rfl
  | succ signals ih =>
      rw [List.replicate_succ]
      exact ih

theorem schcAlSendDown_packet (library : Uoscore Context) (build : Build) {state : SchcAl Context}
    (idle : Idle state) (packet : List UInt8) (rest : List (List UInt8)) (signals : Nat) (reply : NetSendtoReply) :
    schcAlSendDown library build state (packet :: rest) (List.replicate signals .eintr) reply =
      some (handlePacket library build state packet rest reply) := by
  have opened : ¬state.tunFd < 0 := Int.not_lt.mpr idle.tunOpen
  simp only [schcAlSendDown, opened, idle.free, if_false, Bool.false_eq_true, readTun_interrupted]

/-- This is everything that a call reports to its caller and to the SDK. -/
def SendDown.outcome (result : SendDown Context) : SchcAlProcessStatus × Option DiscardReason × Option (List UInt8) :=
  (result.status, result.discarded, result.frame)

/-- The SDK reply alone determines the status of a submission. -/
theorem callNetSendto_status (state : SchcAl Context) (reply : NetSendtoReply) :
    (callNetSendto state reply).1 =
      if reply.status ≠ .success then .sendDownInternalError else .sendDownOk := by
  unfold callNetSendto
  dsimp only
  split
  · rfl
  · rfl

theorem callNetSendto_netBuffer (state : SchcAl Context) (reply : NetSendtoReply) :
    (callNetSendto state reply).2.netBuffer = state.netBuffer := by
  unfold callNetSendto netTransmissionResult
  dsimp only
  cases reply.reported with
  | none => split <;> rfl
  | some result => split <;> rfl

section Transmission

variable (library : Uoscore Context) (build : Build)

/-- This is the buffer outcome of a packet in one state. -/
def prepared (state : SchcAl Context) (packet : List UInt8) : Prepared Context :=
  prepareDown library build state.oscore (state.netBuffer.store 0 (packet.take ipv6MaxPacketSize))
    (packet.take ipv6MaxPacketSize).length

theorem handlePacket_call (state : SchcAl Context) (packet : List UInt8) (rest : List (List UInt8))
    (reply : NetSendtoReply) :
    (handlePacket library build state packet rest reply).call = (prepared library build state packet).call := by
  simp only [handlePacket, prepared]
  split
  · rfl
  · rfl

theorem handlePacket_netBuffer (state : SchcAl Context) (packet : List UInt8) (rest : List (List UInt8))
    (reply : NetSendtoReply) :
    (handlePacket library build state packet rest reply).state.netBuffer =
      (prepared library build state packet).netBuffer := by
  simp only [handlePacket, prepared]
  split
  · rfl
  · exact callNetSendto_netBuffer _ reply

theorem handlePacket_submits {state : SchcAl Context} {packet : List UInt8} {pktLen : Nat}
    (decided : (prepared library build state packet).decision = .submit pktLen) (rest : List (List UInt8))
    (reply : NetSendtoReply) :
    (handlePacket library build state packet rest reply).frame =
      some ((prepared library build state packet).netBuffer.slice 0 pktLen) := by
  simp only [prepared] at decided
  simp only [handlePacket, decided, prepared]

/-- Equal buffer outcomes give equal outcomes. -/
theorem handlePacket_outcome {first second : SchcAl Context} {packet : List UInt8}
    (same : SameOutcome (prepared library build first packet) (prepared library build second packet))
    (rest : List (List UInt8)) (reply : NetSendtoReply) :
    (handlePacket library build first packet rest reply).outcome =
      (handlePacket library build second packet rest reply).outcome := by
  obtain ⟨decision, -, -, frame⟩ := same
  simp only [prepared] at decision frame
  simp only [handlePacket]
  rw [← decision]
  cases decided : (prepareDown library build first.oscore
      (first.netBuffer.store 0 (packet.take ipv6MaxPacketSize)) (packet.take ipv6MaxPacketSize).length).decision with
  | discard reason => rfl
  | submit pktLen =>
      simp only [SendDown.outcome, callNetSendto_status, frame pktLen decided]

/-- This is the state after a history of packets, each with the reply of the SDK. -/
def afterHistory (state : SchcAl Context) (history : List (List UInt8 × NetSendtoReply)) : SchcAl Context :=
  history.foldl (fun state step => (handlePacket library build state step.1 [] step.2).state) state

/-- A state precedes the next packet when some history left its buffer, which started as zeros. -/
structure Precedes (integration : Integration Context) (state : SchcAl Context) : Prop where
  idle : Idle state
  context : state.oscore = integration
  history : ∃ start history, (∀ index, index < ipv6MaxPacketSize → start.netBuffer index = 0) ∧
    state.netBuffer = (afterHistory library build start history).netBuffer

/-- The transmission of a packet does not depend on earlier packets, and the converted slice is inside it. -/
structure PacketDetermines (integration : Integration Context) (packet : List UInt8) : Prop where
  transmission : ∀ first second rest signals reply, Precedes library build integration first →
    Precedes library build integration second →
    (schcAlSendDown library build first (packet :: rest) (List.replicate signals .eintr) reply).map
        SendDown.outcome =
      (schcAlSendDown library build second (packet :: rest) (List.replicate signals .eintr) reply).map
        SendDown.outcome
  slice : ∀ state rest signals reply result call, Precedes library build integration state →
    schcAlSendDown library build state (packet :: rest) (List.replicate signals .eintr) reply = some result →
    result.call = some call → call.slice.Within (packet.take ipv6MaxPacketSize).length

end Transmission

/-- This memory holds the given bytes and zeros after them. -/
def packetMemory (bytes : List UInt8) : ByteMemory := ByteMemory.store (fun _ => 0) 0 bytes

/-- The tail condition looks only at the bytes that the read stores. -/
def PacketTailInside (packet : List UInt8) : Prop :=
  TailInside (packetMemory (packet.take ipv6MaxPacketSize)) (packet.take ipv6MaxPacketSize).length

instance (packet : List UInt8) : Decidable (PacketTailInside packet) :=
  inferInstanceAs (Decidable (TailInside _ _))

/-- The buffer holds the packet whatever it held before. -/
theorem packetMemory_agree (netBuffer : ByteMemory) (bytes : List UInt8) :
    ∀ index, index < bytes.length → packetMemory bytes index = netBuffer.store 0 bytes index :=
  fun _ inside => ByteMemory.store_congr 0 bytes fun outside => by omega

/-- A call happens exactly for a CoAP packet in the proxy build. -/
theorem prepareDown_call {library : Uoscore Context} {build : Build} {integration : Integration Context}
    {netBuffer : ByteMemory} {pktLen : Nat} (udp : isIpv6UdpPacket netBuffer pktLen = true)
    (coap : isCoapPacket netBuffer 48 (ipv6UdpPayloadLen netBuffer) = true)
    (enabled : build.oscoreProxyEnabled = true) :
    (prepareDown library build integration netBuffer pktLen).call =
      some (downConversion library integration netBuffer).call := by
  have path := prepareDown_path library build integration netBuffer pktLen
  generalize prepareDown library build integration netBuffer pktLen = prepared at path
  cases path with
  | nonIpv6Udp other => simp [udp] at other
  | nonCoapDropped _ other => simp [coap] at other
  | nonCoapSent _ other => simp [coap] at other
  | plain _ _ disabled => simp [enabled] at disabled
  | failedDropped => rfl
  | failedSent => rfl
  | converted => rfl

/-- A contained tail keeps the converted slice inside the packet. -/
theorem prepareDown_slice {library : Uoscore Context} {build : Build} {integration : Integration Context}
    {netBuffer : ByteMemory} {pktLen : Nat} (tail : TailInside netBuffer pktLen) {call : CallRecord}
    (called : (prepareDown library build integration netBuffer pktLen).call = some call) :
    call.slice.Within pktLen := by
  have slice := downConversion_slice library integration netBuffer
  have contained (udp : isIpv6UdpPacket netBuffer pktLen = true)
      (coap : isCoapPacket netBuffer 48 (ipv6UdpPayloadLen netBuffer) = true)
      (same : some (downConversion library integration netBuffer).call = some call) : call.slice.Within pktLen := by
    rw [← Option.some.inj same, slice]
    exact tail.contained udp coap
  have path := prepareDown_path library build integration netBuffer pktLen
  generalize prepareDown library build integration netBuffer pktLen = prepared at path called
  cases path with
  | nonIpv6Udp other => contradiction
  | nonCoapDropped _ other => contradiction
  | nonCoapSent _ other => contradiction
  | plain _ _ disabled => contradiction
  | failedDropped udp coap => exact contained udp coap called
  | failedSent udp coap => exact contained udp coap called
  | converted udp coap => exact contained udp coap called

section Determination

variable (library : Uoscore Context) (dropNonCoap oscoreDropOnError : Bool) (integration : Integration Context)

/-- These are the builds with the OSCORE proxy. -/
def proxyBuild (dropNonCoap oscoreDropOnError : Bool) : Build := ⟨true, dropNonCoap, oscoreDropOnError⟩

/-- A contained tail makes the packet alone decide. -/
theorem determines_of_tail (build : Build) {packet : List UInt8} (tail : PacketTailInside packet) :
    PacketDetermines library build integration packet := by
  have agree (state : SchcAl Context) (context : state.oscore = integration) :
      SameOutcome (prepareDown library build integration (packetMemory (packet.take ipv6MaxPacketSize))
        (packet.take ipv6MaxPacketSize).length) (prepared library build state packet) := by
    rw [prepared, context]
    exact prepareDown_agree tail (packetMemory_agree state.netBuffer _)
  constructor
  · intro first second rest signals reply firstPrecedes secondPrecedes
    rw [schcAlSendDown_packet library build firstPrecedes.idle, schcAlSendDown_packet library build secondPrecedes.idle,
      Option.map_some, Option.map_some]
    have left := agree first firstPrecedes.context
    have right := agree second secondPrecedes.context
    apply congrArg some
    apply handlePacket_outcome library build _ rest reply
    exact ⟨left.decision.symm.trans right.decision, left.call.symm.trans right.call,
      left.oscCtx.symm.trans right.oscCtx, fun pktLen submitted =>
        have decided := left.decision.trans submitted
        (left.frame pktLen decided).symm.trans (right.frame pktLen decided)⟩
  · intro state rest signals reply result call precedes ran called
    rw [schcAlSendDown_packet library build precedes.idle] at ran
    rw [← Option.some.inj ran, handlePacket_call, ← (agree state precedes.context).call] at called
    exact prepareDown_slice tail called

/-- This packet is no IPv6 packet, and it leaves a CoAP byte after the headers of the next packet. -/
def stalePacket : List UInt8 := List.replicate 48 0 ++ [0x40]

/-- Some history leaves a CoAP byte where a packet without payload ends. -/
theorem stale_precedes (build : Build) :
    ∃ state, Precedes library build integration state ∧ state.netBuffer 48 = 0x40 := by
  let start : SchcAl Context := ⟨false, EventWord.none, 0, fun _ => 0, integration⟩
  let history : List (List UInt8 × NetSendtoReply) := [(stalePacket, ⟨.success, none⟩)]
  refine ⟨{ start with netBuffer := (afterHistory library build start history).netBuffer }, ⟨⟨?_, ?_⟩, rfl, ?_⟩, ?_⟩
  · exact Int.le_refl 0
  · exact EventWord.has_none _
  · exact ⟨start, history, fun _ _ => rfl, rfl⟩
  · have other : isIpv6UdpPacket (packetMemory stalePacket) stalePacket.length = false := by decide
    have path : DownPath library build integration (packetMemory stalePacket) stalePacket.length _ :=
      .nonIpv6Udp other
    show (handlePacket library build start stalePacket [] ⟨.success, none⟩).state.netBuffer 48 = 0x40
    have whole : stalePacket.take ipv6MaxPacketSize = stalePacket := by decide
    have stored : start.netBuffer.store 0 stalePacket = packetMemory stalePacket := rfl
    have last : packetMemory stalePacket 48 = 0x40 := by decide
    rw [handlePacket_netBuffer, prepared, whole, stored, path.eq]
    exact last

/-- A tail outside the packet reaches the conversion after some history. -/
theorem tail_of_determines {packet : List UInt8}
    (determines : PacketDetermines library (proxyBuild dropNonCoap oscoreDropOnError) integration packet) :
    PacketTailInside packet := by
  by_contra outside
  let bytes := packet.take ipv6MaxPacketSize
  obtain ⟨udp, tail, head⟩ : isIpv6UdpPacket (packetMemory bytes) bytes.length = true ∧
      bytes.length < 48 + ipv6UdpPayloadLen (packetMemory bytes) ∧
      (48 < bytes.length → packetMemory bytes 48 &&& 0xC0 = 0x40) := by
    simpa only [PacketTailInside, TailInside, not_or, Bool.not_eq_false, not_le, not_and, not_not] using outside
  obtain ⟨state, precedes, stale⟩ :=
    stale_precedes library integration (proxyBuild dropNonCoap oscoreDropOnError)
  have agree := packetMemory_agree state.netBuffer bytes
  have long := isIpv6UdpPacket_long udp
  have length := ipv6UdpPayloadLen_agree udp agree
  have udpState : isIpv6UdpPacket (state.netBuffer.store 0 bytes) bytes.length = true :=
    (isIpv6UdpPacket_agree agree).symm.trans udp
  have first : state.netBuffer.store 0 bytes 48 &&& 0xC0 = 0x40 := by
    by_cases inside : 48 < bytes.length
    · rw [← agree 48 inside]
      exact head inside
    · rw [ByteMemory.store_above _ 0 bytes (by omega), stale]
      rfl
  have coapState : isCoapPacket (state.netBuffer.store 0 bytes) 48
      (ipv6UdpPayloadLen (state.netBuffer.store 0 bytes)) = true := by
    rw [isCoapPacket_iff]
    exact ⟨by omega, first⟩
  have called : (handlePacket library (proxyBuild dropNonCoap oscoreDropOnError) state packet []
      ⟨.success, none⟩).call = some (downConversion library state.oscore (state.netBuffer.store 0 bytes)).call := by
    rw [handlePacket_call]
    exact prepareDown_call udpState coapState rfl
  have within := determines.slice state [] 0 ⟨.success, none⟩ _ _ precedes
    (schcAlSendDown_packet library _ precedes.idle packet [] 0 _) called
  rw [downConversion_slice, ← length] at within
  change 48 + ipv6UdpPayloadLen (packetMemory bytes) ≤ bytes.length at within
  omega

/-- A packet alone decides what the proxy transmits exactly when its UDP length stays inside the bytes read,
or when those bytes show no CoAP payload. -/
theorem packetDetermines_iff (packet : List UInt8) :
    PacketDetermines library (proxyBuild dropNonCoap oscoreDropOnError) integration packet ↔
      PacketTailInside packet := by
  constructor
  · exact tail_of_determines library dropNonCoap oscoreDropOnError integration
  · exact determines_of_tail library integration _

end Determination

/-- This library returns its input unchanged within the capacity. -/
def copyLibrary : Uoscore Unit where
  oscoreContextInit _ := (.ok, ())
  coap2oscore context _ input capacity := (⟨.ok, input.take capacity, by simp⟩, context)
  oscore2coap context _ input capacity := (⟨.ok, input.take capacity, by simp⟩, context)

/-- This packet has 49 bytes, and its UDP length states a payload of two bytes. -/
def shortTailPacket : List UInt8 :=
  [0x60, 0, 0, 0, 0, 10, 17, 64] ++ List.replicate 36 0 ++ [0, 10, 0, 0, 0x40]

/-- The proxy converts one byte that the packet does not have. -/
theorem shortTailPacket_undetermined :
    ¬PacketDetermines copyLibrary (proxyBuild true true) ⟨(), true⟩ shortTailPacket := by
  intro determines
  have tail := tail_of_determines copyLibrary true true ⟨(), true⟩ determines
  revert tail
  decide

end SchcWork.Worker
