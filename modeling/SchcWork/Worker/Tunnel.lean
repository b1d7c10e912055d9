import SchcWork.Library.LossyNetwork
import SchcWork.Net.HopFields
import SchcWork.Worker.FailClosed
import SchcWork.Worker.Progress
import SchcWork.Worker.RoundTrip

namespace SchcWork.Worker

open Net Platform

section Contexts

variable {Context : Type}

/-- The security context after one conversion for the network. -/
def Uoscore.afterSending (library : Uoscore Context) (context : Context) (payload : List UInt8) : Context :=
  (library.coap2oscore context (some .oscoreMsgInnerCompression) payload 208).2

/-- The security context after one conversion for the application. -/
def Uoscore.afterReceiving (library : Uoscore Context) (context : Context) (message : List UInt8)
    (capacity : Nat) : Context :=
  (library.oscore2coap context (some .oscoreMsgInnerDecompression) message capacity).2

/-- A node reaches these contexts from the compiled-in parameters. -/
inductive Reaches (library : Uoscore Context) (mode : PeerMode) : Context → Prop where
  | initialised : Reaches library mode (library.oscoreContextInit (compiledParams mode)).2
  | sending {context : Context} (reached : Reaches library mode context) (payload : List UInt8) :
      Reaches library mode (library.afterSending context payload)
  | receiving {context : Context} (reached : Reaches library mode context) (message : List UInt8) (capacity : Nat) :
      Reaches library mode (library.afterReceiving context message capacity)

/-- The library of the receiver accepts a message of the sender only for the payload that was protected, up to what
OSCORE rewrites. It reports only an unprotected message as no OSCORE packet, and it writes nothing then. -/
structure Conveys {SenderContext ReceiverContext : Type} (sender : Uoscore SenderContext)
    (receiver : Uoscore ReceiverContext) (senderMode receiverMode : PeerMode)
    (rewrites : List UInt8 → List UInt8 → Prop) : Prop where
  restored : ∀ senderCtx receiverCtx capacity payload message restored, Reaches sender senderMode senderCtx →
    Reaches receiver receiverMode receiverCtx → Encrypts sender ⟨senderCtx, true⟩ payload message →
    Decrypts receiver ⟨receiverCtx, true⟩ capacity message restored → rewrites payload restored
  passed : ∀ senderCtx receiverCtx capacity payload message, Reaches sender senderMode senderCtx →
    Reaches receiver receiverMode receiverCtx → Encrypts sender ⟨senderCtx, true⟩ payload message →
    (receiver.oscore2coap receiverCtx (some .oscoreMsgInnerDecompression) message capacity).1.err = .notOscorePkt →
    (receiver.oscore2coap receiverCtx (some .oscoreMsgInnerDecompression) message capacity).1.out = [] ∧
      message = payload

/-- The inner compression is on, and the node reached its context from the compiled-in parameters. -/
structure Keyed (library : Uoscore Context) (mode : PeerMode) (integration : Integration Context) : Prop where
  inner : integration.oscoreInnerSchcEnabled = true
  reached : Reaches library mode integration.oscCtx

variable {library : Uoscore Context} {mode : PeerMode} {integration : Integration Context}

theorem Keyed.eq (keyed : Keyed library mode integration) :
    (⟨integration.oscCtx, true⟩ : Integration Context) = integration := by rw [← keyed.inner]

theorem downConversion_context (keyed : Keyed library mode integration) (netBuffer : ByteMemory) :
    (downConversion library integration netBuffer).oscCtx =
      library.afterSending integration.oscCtx (netBuffer.slice 48 (ipv6UdpPayloadLen netBuffer)) := by
  rw [← downConversion_input library integration netBuffer]
  show (library.coap2oscore _ (if integration.oscoreInnerSchcEnabled then _ else none) _ 208).2 = _
  rw [keyed.inner]
  rfl

theorem upConversion_context (keyed : Keyed library mode integration) (buffer : ByteMemory) :
    (upConversion library integration buffer).oscCtx =
      library.afterReceiving integration.oscCtx (upConversion library integration buffer).call.input
        (ipv6UdpPayloadLen buffer) := by
  show (library.oscore2coap _ (if integration.oscoreInnerSchcEnabled then _ else none) _ _).2 = _
  rw [keyed.inner]
  rfl

/-- A packet changes the context only through its conversion. -/
theorem prepared_context {state : SchcAl Context} (keyed : Keyed library mode state.oscore) (packet : List UInt8) :
    (prepared library (proxyBuild true true) state packet).oscCtx = state.oscore.oscCtx ∨
      ∃ payload, (prepared library (proxyBuild true true) state packet).oscCtx =
        library.afterSending state.oscore.oscCtx payload := by
  have down := prepareDown_path library (proxyBuild true true) state.oscore
    (state.netBuffer.store 0 (packet.take ipv6MaxPacketSize)) (packet.take ipv6MaxPacketSize).length
  have context := downConversion_context keyed (state.netBuffer.store 0 (packet.take ipv6MaxPacketSize))
  unfold prepared
  generalize prepareDown library (proxyBuild true true) state.oscore
    (state.netBuffer.store 0 (packet.take ipv6MaxPacketSize)) (packet.take ipv6MaxPacketSize).length = outcome
    at down ⊢
  cases down with
  | nonIpv6Udp other => exact Or.inl rfl
  | nonCoapDropped udp other drop => exact Or.inl rfl
  | nonCoapSent udp other keep => exact Or.inl rfl
  | plain udp coap disabled => exact Or.inl rfl
  | failedDropped udp coap enabled failed drop => exact Or.inr ⟨_, context⟩
  | failedSent udp coap enabled failed keep => exact Or.inr ⟨_, context⟩
  | converted udp coap enabled success => exact Or.inr ⟨_, context⟩

/-- A packet leaves the context that its preparation made. -/
theorem handlePacket_oscore (state : SchcAl Context) (packet : List UInt8) (rest : List (List UInt8))
    (reply : NetSendtoReply) :
    (handlePacket library (proxyBuild true true) state packet rest reply).state.oscore =
      ⟨(prepared library (proxyBuild true true) state packet).oscCtx, state.oscore.oscoreInnerSchcEnabled⟩ := by
  have path := handlePacket_path library (proxyBuild true true) state packet rest reply
  generalize handlePacket library (proxyBuild true true) state packet rest reply = result at path
  cases path with
  | discarded reason decided => rfl
  | submitted pktLen decided => exact callNetSendto_oscore _ reply

theorem handlePacket_keyed {state : SchcAl Context} (keyed : Keyed library mode state.oscore) (packet : List UInt8)
    (rest : List (List UInt8)) (reply : NetSendtoReply) :
    Keyed library mode (handlePacket library (proxyBuild true true) state packet rest reply).state.oscore := by
  rw [handlePacket_oscore]
  refine ⟨keyed.inner, ?_⟩
  rcases prepared_context keyed packet with same | ⟨payload, same⟩
  · rw [same]
    exact keyed.reached
  · rw [same]
    exact keyed.reached.sending payload

/-- Every step keeps the context among those that the node reaches. -/
theorem workerStep_keyed {worker next : WorkerState Context} {action : WorkerAction} {output : WorkerOutput Context}
    (keyed : Keyed library mode worker.al.oscore)
    (taken : workerStep library (proxyBuild true true) worker action = some (next, output)) :
    Keyed library mode next.al.oscore := by
  cases workerStep_path taken with
  | arrive packet => exact keyed
  | poll result truthful =>
      rw [(poll_layer worker result).oscore]
      exact keyed
  | process errors reply result path =>
      rcases path.idle_or_handled with ⟨status, al, rfl, same⟩ | ⟨packet, rest, -, -, rfl⟩
      · rcases same with rfl | rfl
        · exact keyed
        · exact keyed
      · have cleared : Keyed library mode worker.al.cleared.oscore := keyed
        exact handlePacket_keyed cleared packet rest reply
  | transmissionResult status error pending => exact keyed
  | delivered buffer dataSize writeFails =>
      obtain ⟨oscCtx, state, same⟩ :=
        schcAlForwardUp_state library (proxyBuild true true) worker.al buffer dataSize writeFails
      dsimp only
      rw [state]
      rcases same with rfl | rfl
      · exact keyed
      · refine ⟨keyed.inner, ?_⟩
        rw [SchcAl.withContext, upConversion_context keyed]
        exact keyed.reached.receiving _ _
  | undelivered => exact keyed

end Contexts

section Sender

variable {Context : Type} {library : Uoscore Context} {mode : PeerMode}

/-- The strict sender puts the message for the payload of its buffer behind the headers of the packet. -/
structure Sealed (library : Uoscore Context) (mode : PeerMode) (packet frame : List UInt8) (netBuffer : ByteMemory)
    (payload message : List UInt8) : Prop where
  udp : isIpv6UdpPacket (netBuffer.store 0 (packet.take ipv6MaxPacketSize))
    (packet.take ipv6MaxPacketSize).length = true
  held : payload = (netBuffer.store 0 (packet.take ipv6MaxPacketSize)).slice 48
    (ipv6UdpPayloadLen (netBuffer.store 0 (packet.take ipv6MaxPacketSize)))
  input : InputOf packet payload
  coap : payload.getD 0 0 &&& 0xC0 = 0x40
  encrypted : ∃ oscCtx, Reaches library mode oscCtx ∧ Encrypts library ⟨oscCtx, true⟩ payload message
  frame : frame = sentFrame netBuffer (packet.take ipv6MaxPacketSize) message

/-- The payload behind the headers starts with the byte that the CoAP test looks at. -/
theorem payload_first {memory : ByteMemory} {size : Nat} (coap : isCoapPacket memory 48 size = true) :
    (memory.slice 48 size).getD 0 0 &&& 0xC0 = 0x40 := by
  obtain ⟨nonempty, version⟩ := (isCoapPacket_iff _ _ _).mp coap
  rw [List.getD_eq_getElem?_getD, ByteMemory.getElem?_slice memory 48 nonempty, Nat.add_zero, Option.getD_some]
  exact version

/-- The strict build submits only sealed frames. -/
theorem handlePacket_sealed {state : SchcAl Context} (keyed : Keyed library mode state.oscore)
    {packet frame : List UInt8} {rest : List (List UInt8)} {reply : NetSendtoReply}
    (framed : (handlePacket library (proxyBuild true true) state packet rest reply).frame = some frame) :
    ∃ payload message, Sealed library mode packet frame state.netBuffer payload message := by
  have path := handlePacket_path library (proxyBuild true true) state packet rest reply
  generalize handlePacket library (proxyBuild true true) state packet rest reply = result at path framed
  cases path with
  | discarded reason decided => contradiction
  | submitted pktLen decided =>
      have down := prepareDown_path library (proxyBuild true true) state.oscore
        (state.netBuffer.store 0 (packet.take ipv6MaxPacketSize)) (packet.take ipv6MaxPacketSize).length
      rw [← Option.some.inj framed]
      unfold prepared at decided ⊢
      generalize prepareDown library (proxyBuild true true) state.oscore
        (state.netBuffer.store 0 (packet.take ipv6MaxPacketSize)) (packet.take ipv6MaxPacketSize).length = outcome
        at down decided ⊢
      cases down with
      | nonIpv6Udp other => contradiction
      | nonCoapDropped udp other drop => contradiction
      | nonCoapSent udp other keep => contradiction
      | plain udp coap disabled => contradiction
      | failedDropped udp coap enabled failed drop => contradiction
      | failedSent udp coap enabled failed keep => contradiction
      | converted udp coap enabled success =>
          have input := @downConversion_inputOf _ library state.oscore state.netBuffer packet udp
          rw [downConversion_input] at input
          rw [← Decision.submit.inj decided]
          refine ⟨_, _, udp, rfl, input, payload_first coap, ⟨state.oscore.oscCtx, keyed.reached, ?_⟩, rfl⟩
          rw [← downConversion_input library state.oscore, keyed.eq]
          exact ⟨success, rfl⟩

end Sender

section Frames

theorem HoldsPacket.complete {memory : ByteMemory} {size : Nat} (holds : HoldsPacket memory size) :
    Complete memory size := ⟨holds.fits, holds.plen, holds.ulen, holds.verifies, holds.nonzero⟩

/-- The received packet has the headers of a packet that the other node took, and its payload is the one that was
protected there, up to what OSCORE rewrites. -/
structure StemsFrom (rewrites : List UInt8 → List UInt8 → Prop) (packet received : List UInt8) : Prop where
  wellFormed : FrameWellFormed received
  headers : ∀ index, index < 48 → index < (packet.take ipv6MaxPacketSize).length → ¬IsResized index →
    received.getD index 0 &&& hopMask index = packet.getD index 0 &&& hopMask index
  payload : ∃ payload, InputOf packet payload ∧ (rewrites payload (received.drop 48) ∨ received.drop 48 = payload)
  whole : CoapPacket packet → packet.length ≤ ipv6MaxPacketSize → received.drop 48 = packet.drop 48 →
    SameExceptHop packet received

/-- The delivered bytes hold the headers of the packet and the message, and their lengths and checksum are right. -/
structure DeliveredFor (memory buffer : ByteMemory) (message : List UInt8) : Prop where
  headers : ∀ index, index < 48 → ¬IsResized index → buffer index &&& hopMask index = memory index &&& hopMask index
  length : ipv6UdpPayloadLen buffer = message.length
  held : buffer.slice 48 message.length = message
  resized : (resize buffer message.length).slice 0 (48 + message.length) = buffer.slice 0 (48 + message.length)

end Frames

section Receiver

variable {SenderContext Context : Type} {sender : Uoscore SenderContext} {library : Uoscore Context}
variable {senderMode mode : PeerMode} {rewrites : List UInt8 → List UInt8 → Prop}
variable {packet frame payload message : List UInt8} {netBuffer buffer : ByteMemory} {dataSize : Nat}

theorem Sealed.short (sealed : Sealed sender senderMode packet frame netBuffer payload message) :
    message.length ≤ 208 := by
  obtain ⟨oscCtx, -, encrypted⟩ := sealed.encrypted
  exact encrypted.fits

theorem Sealed.size (sealed : Sealed sender senderMode packet frame netBuffer payload message)
    (relayed : SameExceptHop frame (buffer.slice 0 dataSize)) : dataSize = 48 + message.length := by
  have lengths := relayed.length
  simpa [sealed.frame, sentFrame] using lengths.symm

theorem Sealed.delivered (sealed : Sealed sender senderMode packet frame netBuffer payload message)
    (relayed : SameExceptHop frame (buffer.slice 0 dataSize)) :
    DeliveredFor (netBuffer.store 0 (packet.take ipv6MaxPacketSize)) buffer message := by
  have short := sealed.short
  obtain rfl := sealed.size relayed
  rw [sealed.frame] at relayed
  have agree := sameExceptHop_slices.mp relayed
  have kept (index : Nat) (inside : index < 48 + message.length) (full : index = 0 ∨ 4 ≤ index ∧ index ≠ 7) :
      buffer index = sentMemory netBuffer (packet.take ipv6MaxPacketSize) message index := by
    have bytes := agree index inside
    rw [hopMask_eq full, and_allOnes, and_allOnes] at bytes
    exact bytes.symm
  obtain ⟨-, ulen⟩ := resize_lengths ((netBuffer.store 0 (packet.take ipv6MaxPacketSize)).store 48 message)
    (show message.length ≤ 65527 by omega)
  constructor
  · intro index inside unresized
    unfold IsResized at unresized
    rw [← agree index (by omega), sentMemory, resize_outside _ _ (by omega) (by omega) (by omega),
      ByteMemory.store_below _ 48 message inside]
  · rw [ipv6UdpPayloadLen_eq, networkWord_congr (kept 44 (by omega) (by omega)) (kept 45 (by omega) (by omega)),
      sentMemory, ulen]
    omega
  · have same : buffer.slice 48 message.length =
        ((netBuffer.store 0 (packet.take ipv6MaxPacketSize)).store 48 message).slice 48 message.length := by
      rw [ByteMemory.slice_eq_iff]
      intro index lower upper
      rw [kept index (by omega) (by omega), sentMemory, resize_outside _ _ (by omega) (by omega) (by omega)]
    rw [same, ByteMemory.slice_store_self]
  · have whole := complete_resize ((netBuffer.store 0 (packet.take ipv6MaxPacketSize)).store 48 message)
      (show message.length ≤ 65527 by omega)
    exact whole.resize_relayed fun index inside => (agree index inside).symm

/-- Bytes behind the delivered headers give a packet that stems from the packet of the sender. -/
theorem Sealed.stems (sealed : Sealed sender senderMode packet frame netBuffer payload message)
    (delivered : DeliveredFor (netBuffer.store 0 (packet.take ipv6MaxPacketSize)) buffer message)
    {restored : List UInt8} (fits : restored.length ≤ 65527) (same : rewrites payload restored ∨ restored = payload) :
    StemsFrom rewrites packet ((resize (buffer.store 48 restored) restored.length).slice 0 (48 + restored.length)) := by
  generalize stored : netBuffer.store 0 (packet.take ipv6MaxPacketSize) = memory at delivered
  have held := sealed.held
  rw [stored] at held
  have header (index : Nat) (inside : index < 48) (unresized : ¬IsResized index) :
      buffer.store 48 restored index &&& hopMask index = memory index &&& hopMask index := by
    rw [ByteMemory.store_below _ 48 restored inside]
    exact delivered.headers index inside unresized
  have behind := (resize_carries buffer fits).payload
  constructor
  · exact resize_wellFormed _ fits
  · intro index inside within unresized
    have original := ByteMemory.store_inside netBuffer 0 (packet.take ipv6MaxPacketSize) within
    rw [stored, Nat.zero_add, List.getElem_take] at original
    rw [List.length_take] at within
    have untouched := unresized
    unfold IsResized at untouched
    rw [getD_slice _ (by omega), resize_outside _ _ (by omega) (by omega) (by omega), header index inside unresized,
      original, List.getD_eq_getElem?_getD, List.getElem?_eq_getElem (by omega), Option.getD_some]
  · rw [behind]
    exact ⟨payload, sealed.input, same⟩
  · intro accepted short unchanged
    rw [behind] at unchanged
    have room := accepted.room
    have size : restored.length = packet.length - 48 := by rw [unchanged, List.length_drop]
    rw [List.take_of_length_le short] at stored
    have holds := accepted.stored (Nat.le_trans short (by decide)) netBuffer
    rw [stored, ← size] at holds
    have original : packet = memory.slice 0 (48 + restored.length) := by
      rw [size, show 48 + (packet.length - 48) = packet.length by omega, ← stored, ByteMemory.slice_store_self]
    rw [original]
    apply holds.complete.restored
    intro index inside unresized
    by_cases front : index < 48
    · exact header index front unresized
    · obtain ⟨distance, rfl⟩ := Nat.exists_eq_add_of_le (Nat.le_of_not_lt front)
      have position : distance < restored.length := by omega
      have byte : restored[distance]? = packet[48 + distance]? := by rw [unchanged, List.getElem?_drop]
      rw [original, ByteMemory.getElem?_slice memory 0 (by omega), Nat.zero_add, List.getElem?_eq_getElem position]
        at byte
      rw [ByteMemory.store_inside _ 48 restored position, Option.some.inj byte]

/-- The receiver passes the message of a relayed frame to its library. -/
theorem DeliveredFor.conversion {memory : ByteMemory} (delivered : DeliveredFor memory buffer message)
    {state : SchcAl Context} (keyed : Keyed library mode state.oscore) :
    (upConversion library state.oscore buffer).call.input = message ∧
      (upConversion library state.oscore buffer).call.err =
        (library.oscore2coap state.oscore.oscCtx (some .oscoreMsgInnerDecompression) message message.length).1.err ∧
      (upConversion library state.oscore buffer).call.out =
        (library.oscore2coap state.oscore.oscCtx (some .oscoreMsgInnerDecompression) message message.length).1.out := by
  have input : (upConversion library state.oscore buffer).call.input = message := by
    show (upConversion library state.oscore buffer).call.slice.read buffer = _
    rw [upConversion_slice, ByteSpan.read, delivered.length, delivered.held]
  have callback : upConversion library state.oscore buffer =
      upConversion library ⟨state.oscore.oscCtx, true⟩ buffer := by
    rw [keyed.eq]
  have err : (upConversion library state.oscore buffer).call.err = (library.oscore2coap state.oscore.oscCtx
      (some .oscoreMsgInnerDecompression) (upConversion library state.oscore buffer).call.input
      (ipv6UdpPayloadLen buffer)).1.err := by
    rw [callback]
    rfl
  have out : (upConversion library state.oscore buffer).call.out = (library.oscore2coap state.oscore.oscCtx
      (some .oscoreMsgInnerDecompression) (upConversion library state.oscore buffer).call.input
      (ipv6UdpPayloadLen buffer)).1.out := by
    rw [callback]
    rfl
  rw [input, delivered.length] at err out
  exact ⟨input, err, out⟩

/-- The strict receiver writes a relayed frame only as a packet that stems from the packet of the sender. -/
theorem Sealed.received (sealed : Sealed sender senderMode packet frame netBuffer payload message)
    (conveys : Conveys sender library senderMode mode rewrites) {state : SchcAl Context}
    (keyed : Keyed library mode state.oscore) (relayed : SameExceptHop frame (buffer.slice 0 dataSize))
    {writeFails : Bool} {written : List UInt8}
    (forwarded : (schcAlForwardUp library (proxyBuild true true) state buffer dataSize writeFails).written =
      some written) : StemsFrom rewrites packet written := by
  have delivered := sealed.delivered relayed
  obtain ⟨oscCtx, reached, encrypted⟩ := sealed.encrypted
  have short := encrypted.fits
  have fits := upConversion_fits library state buffer
  rw [delivered.length] at fits
  obtain ⟨-, err, out⟩ := delivered.conversion keyed
  have path := schcAlForwardUp_path library (proxyBuild true true) state buffer dataSize writeFails
  generalize schcAlForwardUp library (proxyBuild true true) state buffer dataSize writeFails = result
    at path forwarded
  cases path with
  | closed closed => contradiction
  | nonIpv6Udp opened other => contradiction
  | nonCoapDropped opened udp other drop => contradiction
  | nonCoapSent opened udp other keep => contradiction
  | plain opened udp coap disabled => contradiction
  | failed opened udp coap enabled failure other => contradiction
  | notOscore opened udp coap enabled reported =>
      obtain ⟨empty, unprotected⟩ :=
        conveys.passed _ _ _ _ _ reached keyed.reached encrypted (err.symm.trans reported)
      have stems : StemsFrom rewrites packet _ := sealed.stems delivered (show message.length ≤ 65527 by omega)
        (.inr unprotected)
      rw [ByteMemory.store_slice buffer 48 delivered.held, delivered.resized] at stems
      rw [← Option.some.inj forwarded, upConversion_memory, out, empty, ByteMemory.store_nil, sealed.size relayed]
      exact stems
  | converted opened udp coap enabled success =>
      have restored : rewrites payload (upConversion library state.oscore buffer).call.out :=
        conveys.restored _ _ _ _ _ _ reached keyed.reached encrypted ⟨err.symm.trans success, out.symm⟩
      rw [← Option.some.inj forwarded, upConversion_memory, Nat.mod_eq_of_lt (by omega)]
      exact sealed.stems delivered (by omega) (.inl restored)

end Receiver

section Tunnel

variable {Context : PeerMode → Type}

/-- A worker submits frames to the SDK, and the SDK delivers frames to it. -/
def workerNode {Context : Type} (library : Uoscore Context) (mode : PeerMode) :
    NetworkNode (WorkerState Context) WorkerAction (WorkerOutput Context) (List UInt8) where
  system := (workerSystem library (proxyBuild true true) mode).startingIn fun worker =>
    worker.al.oscore.oscoreInnerSchcEnabled = true
  emits output := output.down.bind SendDown.frame
  absorbs
    | .dataReceived buffer dataSize .success _ => some (buffer.slice 0 dataSize)
    | _ => none

/-- The two workers exchange frames through their SDKs and the links. -/
def tunnel (library : ∀ mode, Uoscore (Context mode)) :
    LossyNetwork PeerMode (fun mode => WorkerState (Context mode)) (fun mode => WorkerOutput (Context mode))
      WorkerAction (List UInt8) where
  nodes mode := workerNode (library mode) mode
  peer := PeerMode.other
  relays sent delivered := decide (SameExceptHop sent delivered)

/-- The records of both workers, oldest first. -/
abbrev TunnelTrace (Context : PeerMode → Type) : Type :=
  List ((PeerMode × WorkerAction) × Σ mode, WorkerOutput (Context mode))

/-- Every packet that a worker writes to its TUN stems from a packet that arrived earlier in the other TUN. -/
def Authentic (rewrites : List UInt8 → List UInt8 → Prop) (trace : TunnelTrace Context) : Prop :=
  ∀ earlier mode action output later written,
    trace = earlier ++ ((mode, action), ⟨mode, output⟩) :: later →
    output.up.bind ForwardUp.written = some written →
      ∃ packet ∈ arrivals (LossyNetwork.localTrace mode.other earlier), StemsFrom rewrites packet written

section Node

variable {Context : Type} {library : Uoscore Context} {mode : PeerMode}

theorem workerNode_keyed {worker : WorkerState Context} {trace : List (WorkerAction × WorkerOutput Context)}
    (run : (workerNode library mode).system.Run worker trace) : Keyed library mode worker.al.oscore := by
  induction run with
  | start initial =>
      obtain ⟨⟨before, host, setup, after, -, -, init, -⟩, inner⟩ := initial
      have started := @schcAlInit_context _ library (proxyBuild true true) mode rfl before host setup (by rw [init])
      rw [init] at started
      refine ⟨inner, ?_⟩
      rw [started.2]
      exact .initialised
  | extend previous taken ih => exact workerStep_keyed ih taken

/-- The step of a worker submits only sealed frames of the packet that it takes. -/
theorem workerStep_sealed {worker next : WorkerState Context} {action : WorkerAction} {output : WorkerOutput Context}
    (keyed : Keyed library mode worker.al.oscore)
    (taken : workerStep library (proxyBuild true true) worker action = some (next, output)) {packet frame : List UInt8}
    (submitted : output.down.bind SendDown.submission = some (packet, frame)) :
    ∃ netBuffer payload message, Sealed library mode packet frame netBuffer payload message := by
  cases workerStep_path taken with
  | arrive packet => contradiction
  | poll result truthful => contradiction
  | transmissionResult status error pending => contradiction
  | delivered buffer dataSize writeFails => contradiction
  | undelivered => contradiction
  | process errors reply result path =>
      rw [Option.bind_some] at submitted
      rcases path.idle_or_handled with ⟨status, al, rfl, -⟩ | ⟨oldest, rest, -, -, rfl⟩
      · contradiction
      · have cleared : Keyed library mode worker.al.cleared.oscore := keyed
        have took := (handlePacket_taken library (proxyBuild true true) worker.al.cleared oldest rest reply).1
        rw [SendDown.submission, took, Option.bind_some] at submitted
        obtain ⟨sent, framed, same⟩ := Option.map_eq_some_iff.mp submitted
        obtain ⟨rfl, rfl⟩ := Prod.mk.inj same
        exact ⟨_, handlePacket_sealed cleared framed⟩

/-- Every submitted frame is sealed for its packet. -/
theorem submissions_sealed {worker : WorkerState Context} {trace : List (WorkerAction × WorkerOutput Context)}
    (run : (workerNode library mode).system.Run worker trace) :
    ∀ submission ∈ submissions trace,
      ∃ netBuffer payload message, Sealed library mode submission.1 submission.2 netBuffer payload message := by
  induction run with
  | start initial => exact nofun
  | extend previous taken ih =>
      intro submission member
      rw [submissions, filterMap_concat, List.mem_append] at member
      rcases member with earlier | last
      · exact ih submission earlier
      · exact workerStep_sealed (workerNode_keyed previous) taken (Option.mem_toList.mp last)

/-- Every frame that a worker emitted is sealed for a packet that arrived in its TUN. -/
theorem emitted_sealed {worker : WorkerState Context} {trace : List (WorkerAction × WorkerOutput Context)}
    (run : (workerNode library mode).system.Run worker trace) :
    ∀ frame ∈ (workerNode library mode).emitted trace,
      ∃ packet ∈ arrivals trace, ∃ netBuffer payload message,
        Sealed library mode packet frame netBuffer payload message := by
  intro frame emitted
  have sound : ∀ record ∈ trace, RecordSound record := by
    intro record member
    obtain ⟨before, after, -, taken⟩ := run.mem member
    exact workerStep_sound (show workerStep library (proxyBuild true true) before record.1 = _ from taken)
  obtain ⟨sameFrames, inOrder⟩ := submissions_of_sound sound
  have listed : frame ∈ (submissions trace).map Prod.snd := by
    rw [sameFrames]
    exact emitted
  obtain ⟨⟨packet, sent⟩, member, rfl⟩ := List.mem_map.mp listed
  refine ⟨packet, ?_, submissions_sealed run _ member⟩
  rw [← run_conserved run.of_startingIn]
  exact List.mem_append_left _ (inOrder.subset (List.mem_map_of_mem member))

/-- The packet that a delivery writes stems from a packet of the sender, when the delivered frame is one that the
sender emitted up to the flow label and the hop limit. -/
theorem delivery_stems {SenderContext : Type} {sender : Uoscore SenderContext} {senderMode : PeerMode}
    {rewrites : List UInt8 → List UInt8 → Prop} (conveys : Conveys sender library senderMode mode rewrites)
    {worker : WorkerState SenderContext} {sent : List (WorkerAction × WorkerOutput SenderContext)}
    (there : (workerNode sender senderMode).system.Run worker sent) {before after : WorkerState Context}
    {trace : List (WorkerAction × WorkerOutput Context)}
    (here : (workerNode library mode).system.Run before trace)
    {action : WorkerAction} {output : WorkerOutput Context}
    (taken : (workerNode library mode).system.step before action = some (after, output))
    (explained : ∀ delivered, (workerNode library mode).absorbs action = some delivered →
      ∃ frame ∈ (workerNode sender senderMode).emitted sent, SameExceptHop frame delivered)
    {written : List UInt8} (forwarded : output.up.bind ForwardUp.written = some written) :
    ∃ packet ∈ arrivals sent, StemsFrom rewrites packet written := by
  have path : WorkerPath library (proxyBuild true true) before action after output := workerStep_path taken
  cases path with
  | arrive packet => contradiction
  | poll result truthful => contradiction
  | process errors reply result path => contradiction
  | transmissionResult status error pending => contradiction
  | undelivered => contradiction
  | delivered buffer dataSize writeFails =>
      obtain ⟨frame, emitted, relayed⟩ := explained _ rfl
      obtain ⟨packet, arrived, netBuffer, payload, message, sealed⟩ := emitted_sealed there frame emitted
      exact ⟨packet, arrived, sealed.received conveys (workerNode_keyed here) relayed forwarded⟩

end Node

variable {library : ∀ mode, Uoscore (Context mode)} {rewrites : List UInt8 → List UInt8 → Prop}

/-- No run of both workers writes a packet that the other worker did not take, whatever the links lose, repeat or
reorder. -/
theorem tunnel_authentic (conveys : ∀ mode, Conveys (library mode.other) (library mode) mode.other mode rewrites)
    {configuration : LossyNetwork.Configuration (fun mode => WorkerState (Context mode)) (List UInt8)}
    {trace : TunnelTrace Context} (run : (tunnel library).system.Run configuration trace) :
    Authentic rewrites trace := by
  rintro earlier mode action output later written rfl forwarded
  obtain ⟨before, after, previous, taken, explained⟩ := LossyNetwork.run_explained run
  have here := (LossyNetwork.run_faithful previous mode).run
  have there := (LossyNetwork.run_faithful previous mode.other).run
  refine delivery_stems (conveys mode) there here taken ?_ forwarded
  intro delivered absorbed
  obtain ⟨frame, emitted, relayed⟩ := explained delivered absorbed
  exact ⟨frame, emitted, of_decide_eq_true relayed⟩

end Tunnel

/-- This function empties the value of the Observe option of a message that has it as its first option. -/
def blankObserve (message : List UInt8) : List UInt8 :=
  let front := 4 + (message.getD 0 0 &&& 0x0F).toNat
  let option := message.getD front 0
  if option >>> 4 = 6 then message.take front ++ 0x60 :: message.drop (front + 1 + (option &&& 0x0F).toNat)
  else message

/-- OSCORE restores a payload as it was or with an empty Observe value. -/
def RewritesObserve (payload restored : List UInt8) : Prop := restored = payload ∨ restored = blankObserve payload

instance (payload restored : List UInt8) : Decidable (RewritesObserve payload restored) :=
  inferInstanceAs (Decidable (_ ∨ _))

/-- A log records what one library made of a payload and what the other library restored. -/
structure RecordedMessage where
  payload : List UInt8
  message : List UInt8
  restored : List UInt8
  deriving Repr, DecidableEq

/-- The device asks for the resource `observe`. -/
def recordedRequest : RecordedMessage where
  payload := [0x42, 0x01, 0x1B, 0x70, 0x64, 0x50, 0x60, 0x57, 0x6F, 0x62, 0x73, 0x65, 0x72, 0x76, 0x65]
  message := [0x42, 0x05, 0x1B, 0x70, 0x64, 0x50, 0x60, 0x32, 0x09, 0x00, 0xFF, 0x84, 0xD4, 0x5A, 0x0B, 0xCE, 0xC3,
    0xB4, 0xB5, 0x8A, 0xF6, 0x8E, 0xBF, 0xD4, 0x28, 0x3A]
  restored := [0x42, 0x01, 0x1B, 0x70, 0x64, 0x50, 0x60, 0x57, 0x6F, 0x62, 0x73, 0x65, 0x72, 0x76, 0x65]

/-- The first notification answers the request. -/
def recordedResponse : RecordedMessage where
  payload := [0x62, 0x45, 0x1B, 0x70, 0x64, 0x50, 0x60, 0xFF, 0x06, 0x5B]
  message := [0x62, 0x45, 0x1B, 0x70, 0x64, 0x50, 0x60, 0x33, 0x09, 0x00, 0x01, 0xFF, 0xB7, 0xD0, 0x83, 0x2D, 0x04,
    0x30, 0xFD, 0x7A, 0x5B, 0xD3]
  restored := [0x62, 0x45, 0x1B, 0x70, 0x64, 0x50, 0x60, 0xFF, 0x06, 0x5B]

/-- The peer notifies the device again, and the Observe value is not restored. -/
def recordedNotification : RecordedMessage where
  payload := [0x42, 0x45, 0x9E, 0x1B, 0x64, 0x50, 0x61, 0x01, 0xFF, 0xBD, 0xF3]
  message := [0x42, 0x45, 0x9E, 0x1B, 0x64, 0x50, 0x61, 0x01, 0x33, 0x09, 0x01, 0x01, 0xFF, 0x3D, 0x9F, 0x7C, 0xCE,
    0xBD, 0xAB, 0x69, 0x57, 0x0B, 0x23]
  restored := [0x42, 0x45, 0x9E, 0x1B, 0x64, 0x50, 0x60, 0xFF, 0xBD, 0xF3]

/-- The device acknowledges the notification with an empty message. -/
def recordedAck : List UInt8 := [0x60, 0x00, 0x9E, 0x1B]

def recordedMessages : List RecordedMessage := [recordedRequest, recordedResponse, recordedNotification]

/-- OSCORE dismisses a message with the code of an empty message. -/
def isDismissed (message : List UInt8) : Bool := message.getD 1 0 = 0

def recordedProtection (payload : List UInt8) : Option (List UInt8) :=
  if isDismissed payload then some payload
  else (recordedMessages.find? fun record => record.payload = payload).map RecordedMessage.message

def recordedRestoration (message : List UInt8) : Option (List UInt8) :=
  (recordedMessages.find? fun record => record.message = message).map RecordedMessage.restored

/-- A result that does not fit is no output. -/
def boundedConversion (result : Option (List UInt8)) (capacity : Nat) : Conversion capacity :=
  match result with
  | none => ⟨.other 0, [], Nat.zero_le _⟩
  | some out => if fits : out.length ≤ capacity then ⟨.ok, out, fits⟩ else ⟨.bufferToSmall, [], Nat.zero_le _⟩

/-- This library makes the recorded conversions. An empty message passes unprotected, and the other end reports it. -/
def recordedLibrary : Uoscore Unit where
  oscoreContextInit _ := (.ok, ())
  coap2oscore context _ input capacity := (boundedConversion (recordedProtection input) capacity, context)
  oscore2coap context _ input capacity :=
    if isDismissed input then (⟨.notOscorePkt, [], Nat.zero_le _⟩, context)
    else (boundedConversion (recordedRestoration input) capacity, context)

theorem boundedConversion_ok {result : Option (List UInt8)} {capacity : Nat} {out : List UInt8}
    (success : (boundedConversion result capacity).err = .ok)
    (written : (boundedConversion result capacity).out = out) :
    result = some out := by
  unfold boundedConversion at success written
  cases result with
  | none => contradiction
  | some bytes =>
      simp only at success written
      split at success
      · rename_i fits
        rw [dif_pos fits] at written
        exact congrArg some written
      · contradiction

theorem boundedConversion_reports (result : Option (List UInt8)) (capacity : Nat) :
    (boundedConversion result capacity).err ≠ .notOscorePkt := by
  unfold boundedConversion
  cases result with
  | none => simp
  | some bytes =>
      simp only
      split
      · simp
      · simp

/-- A payload passes unprotected, or the log has a record for it. -/
theorem recordedProtection_cases {payload message : List UInt8}
    (protection : recordedProtection payload = some message) :
    (isDismissed message = true ∧ message = payload) ∨
      ∃ record ∈ recordedMessages, record.payload = payload ∧ record.message = message := by
  unfold recordedProtection at protection
  split at protection
  · rename_i empty
    obtain rfl := Option.some.inj protection
    exact Or.inl ⟨empty, rfl⟩
  · obtain ⟨record, found, rfl⟩ := Option.map_eq_some_iff.mp protection
    exact Or.inr ⟨record, List.mem_of_find?_eq_some found, by simpa using List.find?_some found, rfl⟩

theorem recordedRestoration_cases {message restored : List UInt8}
    (restoration : recordedRestoration message = some restored) :
    ∃ record ∈ recordedMessages, record.message = message ∧ record.restored = restored := by
  obtain ⟨record, found, rfl⟩ := Option.map_eq_some_iff.mp restoration
  exact ⟨record, List.mem_of_find?_eq_some found, by simpa using List.find?_some found, rfl⟩

/-- The log has one record for a message, and its restored payload differs at most in the Observe value. -/
theorem recordedMessages_restored : ∀ first ∈ recordedMessages, ∀ second ∈ recordedMessages,
    first.message = second.message → RewritesObserve first.payload second.restored := by decide

theorem recordedMessages_protected : ∀ record ∈ recordedMessages, isDismissed record.message = false := by decide

theorem recordedLibrary_conveys (senderMode receiverMode : PeerMode) :
    Conveys recordedLibrary recordedLibrary senderMode receiverMode RewritesObserve := by
  constructor
  · intro senderCtx receiverCtx capacity payload message restored _ _ encrypted decrypted
    have sent := recordedProtection_cases (boundedConversion_ok encrypted.1 encrypted.2)
    simp only [Decrypts, recordedLibrary] at decrypted
    split at decrypted
    · exact absurd decrypted.1 (by simp)
    · rename_i nonempty
      obtain ⟨second, listed, rfl, rfl⟩ := recordedRestoration_cases (boundedConversion_ok decrypted.1 decrypted.2)
      rcases sent with ⟨empty, -⟩ | ⟨first, member, rfl, same⟩
      · contradiction
      · exact recordedMessages_restored first member second listed same
  · intro senderCtx receiverCtx capacity payload message _ _ encrypted reported
    have sent := recordedProtection_cases (boundedConversion_ok encrypted.1 encrypted.2)
    simp only [recordedLibrary] at reported ⊢
    rcases sent with ⟨empty, same⟩ | ⟨record, member, -, rfl⟩
    · rw [if_pos empty]
      exact ⟨rfl, same⟩
    · rw [if_neg (by simp [recordedMessages_protected record member])] at reported
      exact absurd reported (boundedConversion_reports _ _)

def deviceAddress : List UInt8 := [0x20, 0x01, 0x0D, 0xB8, 0, 0, 0, 0, 0, 0, 0, 0, 0, 0, 0, 0x10]

def peerAddress : List UInt8 := [0x20, 0x01, 0x0D, 0xB9, 0, 0, 0, 0, 0, 0, 0, 0, 0, 0, 0, 0x11]

/-- The logs have packets with these headers. -/
def packetToPeer (length high low : UInt8) (payload : List UInt8) : List UInt8 :=
  [0x60, 0x08, 0xEA, 0x64, 0, length, 0x11, 0x40] ++ deviceAddress ++ peerAddress ++
    [0xA4, 0xAF, 0x16, 0x33, 0, length, high, low] ++ payload

def packetToDevice (length high low : UInt8) (payload : List UInt8) : List UInt8 :=
  [0x60, 0x0F, 0xCF, 0x50, 0, length, 0x11, 0x40] ++ peerAddress ++ deviceAddress ++
    [0x16, 0x33, 0xA4, 0xAF, 0, length, high, low] ++ payload

def requestPacket : List UInt8 := packetToPeer 0x17 0x0C 0xF2 recordedRequest.payload

def requestFrame : List UInt8 := packetToPeer 0x22 0x86 0xB0 recordedRequest.message

def responsePacket : List UInt8 := packetToDevice 0x12 0x9F 0xF3 recordedResponse.payload

def responseFrame : List UInt8 := packetToDevice 0x1E 0x03 0x87 recordedResponse.message

def notificationPacket : List UInt8 := packetToDevice 0x13 0x50 0xE0 recordedNotification.payload

def notificationFrame : List UInt8 := packetToDevice 0x1F 0x7C 0x8F recordedNotification.message

def restoredNotification : List UInt8 := packetToDevice 0x12 0x85 0xAF recordedNotification.restored

def ackPacket : List UInt8 := packetToPeer 0x0C 0xEB 0x43 recordedAck

/-- Both workers have opened their TUN. -/
def bootedTunnel : LossyNetwork.Configuration (fun _ : PeerMode => WorkerState Unit) (List UInt8) :=
  ⟨fun _ => bootedWorker recordedLibrary (proxyBuild true true), fun _ => []⟩

theorem bootedTunnel_initial : (tunnel fun _ => recordedLibrary).system.initial bootedTunnel := by
  intro mode
  have started : Started recordedLibrary (proxyBuild true true) .device
      (bootedWorker recordedLibrary (proxyBuild true true)) := bootedWorker_started (by decide)
  cases mode with
  | device => exact ⟨⟨started, rfl⟩, rfl⟩
  | peer => exact ⟨⟨started, rfl⟩, rfl⟩

/-- A worker reads a packet, and the SDK accepts its frame and reports the result. -/
def sends (mode : PeerMode) (packet : List UInt8) : List (PeerMode × WorkerAction) :=
  [(mode, .arrive packet), (mode, .poll (.ready fun _ => true)),
    (mode, .process [] ⟨.success, some (.success, 0)⟩)]

/-- The SDK delivers a frame. -/
def receives (mode : PeerMode) (frame : List UInt8) : PeerMode × WorkerAction :=
  (mode, .dataReceived (packetMemory frame) frame.length .success false)

/-- The recorded session runs over the links, which change the hop limit of the request. -/
theorem recordedSession_authentic :
    ∃ configuration trace, (tunnel fun _ => recordedLibrary).system.Run configuration trace ∧
      (trace.filterMap fun record => record.2.2.up.bind ForwardUp.written) =
        [requestPacket.set 7 3, responsePacket, restoredNotification, ackPacket] ∧
      Authentic RewritesObserve trace := by
  have executed : ((tunnel fun _ => recordedLibrary).system.exec bootedTunnel
      (sends .device requestPacket ++ [receives .peer (requestFrame.set 7 3)] ++
        sends .peer responsePacket ++ [receives .device responseFrame] ++
        sends .peer notificationPacket ++ [receives .device notificationFrame] ++
        sends .device ackPacket ++ [receives .peer ackPacket])).map (fun ended =>
          ended.2.filterMap fun record => record.2.2.up.bind ForwardUp.written) =
        some [requestPacket.set 7 3, responsePacket, restoredNotification, ackPacket] := by decide +kernel
  obtain ⟨⟨configuration, trace⟩, executed, written⟩ := Option.map_eq_some_iff.mp executed
  have run := (LabelledSystem.Run.start bootedTunnel_initial).exec executed
  exact ⟨configuration, trace, run, written,
    tunnel_authentic (fun mode => recordedLibrary_conveys mode.other mode) run⟩

end SchcWork.Worker
