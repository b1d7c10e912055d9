import SchcWork.Library.OrderedNetwork
import SchcWork.Worker.Tunnel

namespace SchcWork.Worker

open Net Platform

section Sender

variable {Context : Type} {library : Uoscore Context} {mode : PeerMode}

/-- The SDK accepted the frame of this packet. -/
def SendDown.accepted (result : SendDown Context) : Option (List UInt8 × List UInt8) :=
  if result.status = .sendDownOk then result.submission else none

/-- These are the packets with the frames that the SDK accepted. -/
def acceptedFrames (trace : List (WorkerAction × WorkerOutput Context)) : List (List UInt8 × List UInt8) :=
  trace.filterMap fun record => record.2.down.bind SendDown.accepted

theorem acceptedFrames_submitted {trace : List (WorkerAction × WorkerOutput Context)} {pair : List UInt8 × List UInt8}
    (accepted : pair ∈ acceptedFrames trace) : pair ∈ submissions trace := by
  obtain ⟨record, member, down⟩ := List.mem_filterMap.mp accepted
  obtain ⟨result, called, taken⟩ := Option.bind_eq_some_iff.mp down
  have submitted : result.submission = some pair := (Option.ite_none_right_eq_some.mp taken).2
  exact List.mem_filterMap.mpr ⟨record, member, Option.bind_eq_some_iff.mpr ⟨result, called, submitted⟩⟩

/-- The message of a CoAP payload is a CoAP message of the same version. -/
def KeepsVersion (library : Uoscore Context) (mode : PeerMode) : Prop :=
  ∀ oscCtx payload message, Reaches library mode oscCtx → Encrypts library ⟨oscCtx, true⟩ payload message →
    payload.getD 0 0 &&& 0xC0 = 0x40 → message.getD 0 0 &&& 0xC0 = 0x40

end Sender

section Receiver

variable {SenderContext Context : Type} {sender : Uoscore SenderContext} {library : Uoscore Context}
variable {senderMode mode : PeerMode} {rewrites : List UInt8 → List UInt8 → Prop}

/-- These are the deliveries of the SDK that reached the layer. -/
def deliveries (trace : List (WorkerAction × WorkerOutput Context)) : List (ForwardUp Context) :=
  trace.filterMap fun record => record.2.up

/-- The layer wrote a packet that stems from the one of the frame, or its library refused the message of the frame. -/
inductive Handled (rewrites : List UInt8 → List UInt8 → Prop) (pair : List UInt8 × List UInt8)
    (result : ForwardUp Context) : Prop where
  | written {received : List UInt8} (wrote : result.written = some received)
      (stems : StemsFrom rewrites pair.1 received)
  | refused {call : CallRecord} (silent : result.written = none) (called : result.call = some call)
      (input : call.input = pair.2.drop 48) (failure : call.err ≠ .ok) (other : call.err ≠ .notOscorePkt)

variable {packet frame payload message : List UInt8} {netBuffer buffer : ByteMemory} {dataSize : Nat}

theorem Sealed.carries (sealed : Sealed sender senderMode packet frame netBuffer payload message) :
    frame.drop 48 = message := by
  have short := sealed.short
  rw [sealed.frame]
  exact (resize_carries (netBuffer.store 0 (packet.take ipv6MaxPacketSize))
    (show message.length ≤ 65527 by omega)).payload

/-- A relayed frame reaches the library of the receiver, which decides whether a packet is written. -/
theorem Sealed.forwarded (sealed : Sealed sender senderMode packet frame netBuffer payload message)
    (version : KeepsVersion sender senderMode) {state : SchcAl Context} (opened : 0 ≤ state.tunFd)
    (relayed : SameExceptHop frame (buffer.slice 0 dataSize)) (writeFails : Bool) :
    let result := schcAlForwardUp library (proxyBuild true true) state buffer dataSize writeFails
    let converted := upConversion library state.oscore buffer
    result.state = state.withContext converted.oscCtx ∧ result.call = some converted.call ∧
      (result.written.isSome = true ↔ converted.call.err = .ok ∨ converted.call.err = .notOscorePkt) := by
  have delivered := sealed.delivered relayed
  have size := sealed.size relayed
  obtain ⟨oscCtx, reached, encrypted⟩ := sealed.encrypted
  have coapMessage := version oscCtx payload message reached encrypted sealed.coap
  have nonempty : 0 < message.length := by
    cases message with
    | nil => exact absurd coapMessage (by decide)
    | cons first rest => exact Nat.succ_pos _
  have header (index : Nat) (inside : index = 0 ∨ index = 6) :
      buffer index = netBuffer.store 0 (packet.take ipv6MaxPacketSize) index := by
    have bytes := delivered.headers index (by omega) (by unfold IsResized; omega)
    rwa [hopMask_eq (by omega), and_allOnes, and_allOnes] at bytes
  have accepted : isIpv6UdpPacket buffer dataSize = true := by
    obtain ⟨-, version, nextHeader⟩ := (isIpv6UdpPacket_iff _ _).mp sealed.udp
    rw [isIpv6UdpPacket_iff, header 0 (by omega), header 6 (by omega)]
    exact ⟨by omega, version, nextHeader⟩
  have isCoap : isCoapPacket buffer 48 dataSize = true := by
    have first : buffer 48 = message.getD 0 0 := by
      rw [← delivered.held, List.getD_eq_getElem?_getD, ByteMemory.getElem?_slice buffer 48 nonempty, Nat.add_zero,
        Option.getD_some]
    rw [isCoapPacket_iff, first]
    exact ⟨by omega, coapMessage⟩
  intro result converted
  have path : UpPath library (proxyBuild true true) state buffer dataSize writeFails result :=
    schcAlForwardUp_path library (proxyBuild true true) state buffer dataSize writeFails
  generalize result = written at path ⊢
  cases path with
  | closed closed => omega
  | nonIpv6Udp opened other => simp [accepted] at other
  | nonCoapDropped opened udp other drop => simp [isCoap] at other
  | nonCoapSent opened udp other keep => contradiction
  | plain opened udp coap disabled => contradiction
  | notOscore opened udp coap enabled reported => exact ⟨rfl, rfl, iff_of_true rfl (Or.inr reported)⟩
  | failed opened udp coap enabled failure other =>
      exact ⟨rfl, rfl, iff_of_false nofun (not_or.mpr ⟨failure, other⟩)⟩
  | converted opened udp coap enabled success => exact ⟨rfl, rfl, iff_of_true rfl (Or.inl success)⟩

theorem Sealed.handled (sealed : Sealed sender senderMode packet frame netBuffer payload message)
    (conveys : Conveys sender library senderMode mode rewrites) (version : KeepsVersion sender senderMode)
    {state : SchcAl Context} (opened : 0 ≤ state.tunFd) (keyed : Keyed library mode state.oscore)
    (relayed : SameExceptHop frame (buffer.slice 0 dataSize)) (writeFails : Bool) :
    Handled rewrites (packet, frame)
      (schcAlForwardUp library (proxyBuild true true) state buffer dataSize writeFails) := by
  obtain ⟨-, called, decides⟩ := @Sealed.forwarded _ _ _ library _ _ _ _ _ _ _ _ sealed version state opened relayed
    writeFails
  obtain ⟨input, -, -⟩ := (sealed.delivered relayed).conversion keyed
  cases wrote : (schcAlForwardUp library (proxyBuild true true) state buffer dataSize writeFails).written with
  | some received => exact .written wrote (sealed.received conveys keyed relayed wrote)
  | none =>
      rw [wrote] at decides
      obtain ⟨failure, other⟩ := not_or.mp (mt decides.mpr nofun)
      exact .refused wrote called (input.trans sealed.carries.symm) failure other

/-- A step without a delivery hands nothing to the layer. -/
theorem workerStep_quiet {worker next : WorkerState Context} {action : WorkerAction} {output : WorkerOutput Context}
    (taken : workerStep library (proxyBuild true true) worker action = some (next, output))
    (quiet : (workerNode library mode).absorbs action = none) : output.up = none := by
  cases workerStep_path taken with
  | arrive packet => rfl
  | poll result truthful => rfl
  | process errors reply result path => rfl
  | transmissionResult status error pending => rfl
  | delivered buffer dataSize writeFails => contradiction
  | undelivered => rfl

/-- Only a successful delivery absorbs a frame. -/
theorem workerStep_absorbs {worker next : WorkerState Context} {action : WorkerAction} {output : WorkerOutput Context}
    {delivered : List UInt8} (taken : workerStep library (proxyBuild true true) worker action = some (next, output))
    (absorbs : (workerNode library mode).absorbs action = some delivered) :
    ∃ buffer dataSize writeFails, delivered = buffer.slice 0 dataSize ∧
      output.up = some (schcAlForwardUp library (proxyBuild true true) worker.al buffer dataSize writeFails) := by
  cases action with
  | arrive packet => contradiction
  | poll result => contradiction
  | process errors reply => contradiction
  | transmissionResult status error => contradiction
  | dataReceived buffer dataSize status writeFails =>
      cases status with
      | success =>
          obtain ⟨-, rfl⟩ := Prod.mk.inj (Option.some.inj taken)
          exact ⟨buffer, dataSize, writeFails, (Option.some.inj absorbs).symm, rfl⟩
      | _ => contradiction

theorem forall₂_concat {Left Right : Type} {Related : Left → Right → Prop} {lefts : List Left} {rights : List Right}
    {last : Right} (related : List.Forall₂ Related lefts (rights ++ [last])) :
    ∃ earlier final, lefts = earlier ++ [final] ∧ List.Forall₂ Related earlier rights ∧ Related final last := by
  have before := List.forall₂_take_append lefts rights [last] related
  have after := List.forall₂_drop_append lefts rights [last] related
  obtain ⟨final, others, one, none, single⟩ := List.forall₂_cons_right_iff.mp after
  obtain rfl := List.forall₂_nil_right_iff.mp none
  exact ⟨_, final, (single ▸ List.take_append_drop rights.length lefts).symm, before, one⟩

/-- A run handles the frames that it absorbed, one delivery for each. -/
theorem run_handles (conveys : Conveys sender library senderMode mode rewrites)
    (version : KeepsVersion sender senderMode) {worker : WorkerState Context}
    {trace : List (WorkerAction × WorkerOutput Context)} (run : (workerNode library mode).system.Run worker trace)
    {received : List (List UInt8 × List UInt8)}
    (sealed : ∀ pair ∈ received, ∃ netBuffer payload message,
      Sealed sender senderMode pair.1 pair.2 netBuffer payload message)
    (related : List.Forall₂ SameExceptHop (received.map Prod.snd) ((workerNode library mode).absorbed trace)) :
    List.Forall₂ (Handled rewrites) received (deliveries trace) := by
  induction run generalizing received with
  | start initial =>
      obtain rfl := List.map_eq_nil_iff.mp (List.forall₂_nil_right_iff.mp related)
      exact .nil
  | @extend before next trace action output previous taken ih =>
      rw [NetworkNode.absorbed_concat] at related
      rw [deliveries, filterMap_concat]
      cases absorbs : (workerNode library mode).absorbs action with
      | none =>
          rw [absorbs, Option.toList_none, List.append_nil] at related
          rw [workerStep_quiet taken absorbs, Option.toList_none, List.append_nil]
          exact ih sealed related
      | some delivered =>
          rw [absorbs, Option.toList_some, List.forall₂_map_left_iff] at related
          obtain ⟨earlier, ⟨packet, frame⟩, rfl, others, relayed⟩ := forall₂_concat related
          obtain ⟨buffer, dataSize, writeFails, rfl, up⟩ := workerStep_absorbs taken absorbs
          obtain ⟨netBuffer, payload, message, last⟩ := sealed (packet, frame) (by simp)
          have opened := (reachable_invariant ⟨_, previous.of_startingIn⟩).opened
          have handled := last.handled conveys version opened (workerNode_keyed previous) relayed writeFails
          rw [up, Option.toList_some]
          apply List.rel_append (ih _ (List.forall₂_map_left_iff.mpr others)) (.cons handled .nil)
          exact fun pair member => sealed pair (List.mem_append_left _ member)

/-- The SDK delivers a frame as it is. -/
def deliver (frame : List UInt8) : WorkerAction := .dataReceived (packetMemory frame) frame.length .success false

/-- The library restores these messages one after the other, or it reports them as no OSCORE packets. -/
def AcceptsFrom (library : Uoscore Context) : Context → List (List UInt8) → Prop
  | _, [] => True
  | context, message :: rest =>
      let err := (library.oscore2coap context (some .oscoreMsgInnerDecompression) message message.length).1.err
      (err = .ok ∨ err = .notOscorePkt) ∧
        AcceptsFrom library (library.afterReceiving context message message.length) rest

/-- The layer writes a packet for each delivered frame when the library accepts their messages in turn. -/
theorem exec_delivers (version : KeepsVersion sender senderMode) {frames : List (List UInt8)}
    (sealed : ∀ frame ∈ frames, ∃ packet netBuffer payload message,
      Sealed sender senderMode packet frame netBuffer payload message)
    {worker final : WorkerState Context} {trace : List (WorkerAction × WorkerOutput Context)}
    (opened : 0 ≤ worker.al.tunFd) (keyed : Keyed library mode worker.al.oscore)
    (accepts : AcceptsFrom library worker.al.oscore.oscCtx (frames.map (List.drop 48)))
    (executed : (workerNode library mode).system.exec worker (frames.map deliver) = some (final, trace)) :
    ∀ result ∈ deliveries trace, result.written.isSome = true := by
  induction frames generalizing worker trace with
  | nil =>
      obtain ⟨-, rfl⟩ := Prod.mk.inj (Option.some.inj executed)
      exact nofun
  | cons frame rest ih =>
      obtain ⟨packet, netBuffer, payload, message, first⟩ := sealed frame List.mem_cons_self
      have relayed : SameExceptHop frame ((packetMemory frame).slice 0 frame.length) :=
        congrArg maskHop (ByteMemory.slice_store_self _ 0 frame).symm
      obtain ⟨state, -, decides⟩ := @Sealed.forwarded _ _ _ library _ _ _ _ _ _ _ _ first version worker.al opened
        relayed false
      have conversion := (first.delivered relayed).conversion keyed
      have context := upConversion_context keyed (packetMemory frame)
      rw [conversion.1, (first.delivered relayed).length] at context
      rw [List.map_cons, first.carries] at accepts
      obtain ⟨accepted, later⟩ := accepts
      rw [← conversion.2.1] at accepted
      obtain ⟨⟨next, output⟩, taken, remaining⟩ := Option.bind_eq_some_iff.mp executed
      obtain ⟨⟨last, tail⟩, continued, same⟩ := Option.map_eq_some_iff.mp remaining
      obtain ⟨rfl, rfl⟩ := Prod.mk.inj same
      have stepped : workerStep library (proxyBuild true true) worker (deliver frame) = some (next, output) := taken
      have kept := workerStep_keyed keyed stepped
      obtain ⟨rfl, rfl⟩ := Prod.mk.inj (Option.some.inj stepped)
      rw [← context] at later
      rw [deliveries, filterMap_cons_toList]
      intro result member
      rcases List.mem_append.mp member with now | after
      · rw [Option.toList_some, List.mem_singleton] at now
        rw [now]
        exact decides.mpr accepted
      · refine ih (fun other inside => sealed other (List.mem_cons_of_mem _ inside)) ?_ kept ?_ continued result after
        · dsimp only
          rw [state]
          exact opened
        · dsimp only
          rw [state]
          exact later

end Receiver

section Waiting

variable {Context : Type} {library : Uoscore Context} {mode : PeerMode}

/-- The proxy is made for this packet, and the library converts its payload in this context. -/
structure Sendable (library : Uoscore Context) (context : Context) (packet : List UInt8) : Prop where
  accepted : CoapPacket packet
  short : packet.length ≤ ipv6MaxPacketSize
  encrypted : ∃ message, Encrypts library ⟨context, true⟩ (packet.drop 48) message

/-- The library converts the payloads of these packets one after the other. -/
def SendableFrom (library : Uoscore Context) : Context → List (List UInt8) → Prop
  | _, [] => True
  | context, packet :: rest => Sendable library context packet ∧
      SendableFrom library (library.afterSending context (packet.drop 48)) rest

theorem Sendable.context {state : SchcAl Context} {packet : List UInt8}
    (sendable : Sendable library state.oscore.oscCtx packet) (keyed : Keyed library mode state.oscore) :
    (prepared library (proxyBuild true true) state packet).oscCtx =
      library.afterSending state.oscore.oscCtx (packet.drop 48) := by
  have bound : packet.length ≤ 256 := sendable.short
  obtain ⟨accepted, isCoap, length, payload⟩ := sendable.accepted.reaches (by omega) state.netBuffer
  have context := downConversion_context keyed (state.netBuffer.store 0 packet)
  rw [length, payload] at context
  have down := prepareDown_path library (proxyBuild true true) state.oscore (state.netBuffer.store 0 packet)
    packet.length
  unfold prepared
  rw [List.take_of_length_le sendable.short]
  generalize prepareDown library (proxyBuild true true) state.oscore (state.netBuffer.store 0 packet) packet.length =
    outcome at down ⊢
  cases down with
  | nonIpv6Udp other => simp [accepted] at other
  | nonCoapDropped udp other drop => simp [isCoap] at other
  | nonCoapSent udp other keep => contradiction
  | plain udp coap disabled => contradiction
  | failedDropped udp coap enabled failed drop => exact context
  | failedSent udp coap enabled failed keep => exact context
  | converted udp coap enabled success => exact context

/-- The SDK accepts the frame of such a packet. -/
theorem Sendable.accepted_frame {state : SchcAl Context} {packet : List UInt8}
    (sendable : Sendable library state.oscore.oscCtx packet) (keyed : Keyed library mode state.oscore)
    (idle : Idle state) (rest : List (List UInt8)) {reply : NetSendtoReply} (accepts : reply.status = .success) :
    ∃ frame, (handlePacket library (proxyBuild true true) state packet rest reply).accepted = some (packet, frame) := by
  obtain ⟨message, encrypted⟩ := sendable.encrypted
  rw [keyed.eq] at encrypted
  obtain ⟨result, ran, framed⟩ :=
    schcAlSendDown_sent sendable.accepted sendable.short idle encrypted true true rest 0 reply
  rw [schcAlSendDown_packet library _ idle] at ran
  obtain rfl := Option.some.inj ran
  refine ⟨sentFrame state.netBuffer packet message, ?_⟩
  have path := handlePacket_path library (proxyBuild true true) state packet rest reply
  generalize handlePacket library (proxyBuild true true) state packet rest reply = result at path framed
  cases path with
  | discarded reason decided => contradiction
  | submitted pktLen decided =>
      have status : (callNetSendto (state.withPrepared (prepared library (proxyBuild true true) state packet))
          reply).1 = .sendDownOk := by
        rw [callNetSendto_status, if_neg (not_not.mpr accepts)]
      unfold SendDown.accepted
      rw [if_pos status]
      exact congrArg (Option.map fun frame => (packet, frame)) framed

/-- The SDK accepts each frame and reports its result at once. -/
def promptReply : NetSendtoReply := ⟨.success, some (.success, 0)⟩

/-- These actions of a node bring neither frames nor packets to it. -/
def Inward (mode : PeerMode) (library : Uoscore Context) (action : WorkerAction) : Prop :=
  (workerNode library mode).absorbs action = none ∧ ∀ packet, action ≠ .arrive packet

theorem turn_inward (reply : NetSendtoReply) : ∀ action ∈ turn reply, Inward mode library action := by
  intro action member
  rcases List.mem_pair.mp member with rfl | rfl
  · exact ⟨rfl, nofun⟩
  · exact ⟨rfl, nofun⟩

/-- The worker can send every waiting packet in order. -/
def CanSend (library : Uoscore Context) (mode : PeerMode) (worker : WorkerState Context)
    (packets : List (List UInt8)) : Prop :=
  ∃ actions final trace, (∀ action ∈ actions, Inward mode library action) ∧
    (workerNode library mode).system.exec worker actions = some (final, trace) ∧ final.tun = [] ∧
    (acceptedFrames trace).map Prod.fst = packets

/-- Prompt turns send the packets of an idle worker. -/
theorem canSend_idle {packets : List (List UInt8)} {worker : WorkerState Context}
    {trace : List (WorkerAction × WorkerOutput Context)} (run : (workerNode library mode).system.Run worker trace)
    (sendable : SendableFrom library worker.al.oscore.oscCtx packets) (idle : worker.outstanding = 0)
    (waiting : worker.tun = packets) : CanSend library mode worker packets := by
  induction packets generalizing worker trace with
  | nil => exact ⟨[], worker, [], nofun, rfl, waiting, rfl⟩
  | cons packet rest ih =>
      have reached : (workerSystem library (proxyBuild true true) mode).Reachable worker := ⟨_, run.of_startingIn⟩
      obtain ⟨al, noticed, executed⟩ := @exec_turn _ library (proxyBuild true true) mode _ (reachable_invariant reached)
        (reachable_watching reached) idle _ _ waiting promptReply nofun
      have turned : (workerNode library mode).system.exec worker (turn promptReply) = _ :=
        (LabelledSystem.exec_startingIn _ _ _).trans executed
      have keyed := workerNode_keyed run
      obtain ⟨first, others⟩ := sendable
      rw [← noticed.oscore] at keyed first others
      obtain ⟨frame, accepted⟩ := first.accepted_frame keyed noticed.idle rest
        (show promptReply.status = .success from rfl)
      obtain ⟨-, left⟩ := handlePacket_taken library (proxyBuild true true) al packet rest promptReply
      have later : SendableFrom library
          (handlePacket library (proxyBuild true true) al packet rest promptReply).state.oscore.oscCtx rest := by
        rw [handlePacket_oscore, first.context keyed]
        exact others
      obtain ⟨actions, final, suffix, inward, continued, empty, sent⟩ :=
        ih (run.exec turned) later (ite_self 0) left
      refine ⟨turn promptReply ++ actions, final, _, ?_, LabelledSystem.exec_append turned continued, empty, ?_⟩
      · intro action member
        rcases List.mem_append.mp member with turning | after
        · exact turn_inward promptReply action turning
        · exact inward action after
      · rw [acceptedFrames, List.filterMap_append, List.map_append, filterMap_cons_toList, filterMap_cons_toList,
          Option.bind_some, accepted]
        exact congrArg (packet :: ·) sent

/-- A report of the outstanding result and prompt turns send every waiting packet. -/
theorem canSend_all {worker : WorkerState Context} {trace : List (WorkerAction × WorkerOutput Context)}
    (run : (workerNode library mode).system.Run worker trace)
    (sendable : SendableFrom library worker.al.oscore.oscCtx worker.tun) : CanSend library mode worker worker.tun := by
  by_cases idle : worker.outstanding = 0
  · exact canSend_idle run sendable idle rfl
  · have reported : workerStep library (proxyBuild true true) worker (.transmissionResult .success 0) =
        some ({ worker with
          al := netTransmissionResult worker.al .success 0, outstanding := worker.outstanding - 1 }, ⟨none, none⟩) :=
      if_pos (Nat.pos_of_ne_zero idle)
    have single := (reachable_invariant ⟨_, run.of_startingIn⟩).single
    have step : (workerNode library mode).system.step worker (.transmissionResult .success 0) = _ := reported
    have freed := run.extend step
    obtain ⟨actions, final, suffix, inward, continued, empty, sent⟩ :=
      canSend_idle freed sendable (show worker.outstanding - 1 = 0 by omega) rfl
    refine ⟨.transmissionResult .success 0 :: actions, final, (.transmissionResult .success 0, ⟨none, none⟩) :: suffix,
      ?_, ?_, empty, ?_⟩
    · intro action member
      rcases List.mem_cons.mp member with rfl | later
      · exact ⟨rfl, nofun⟩
      · exact inward action later
    · rw [LabelledSystem.exec, step, Option.bind_some, continued]
      rfl
    · rw [acceptedFrames, filterMap_cons_toList]
      exact sent

end Waiting

section Network

variable {Context : PeerMode → Type}

/-- The links take the frames that the SDK accepted. -/
def acceptingNode {Context : Type} (library : Uoscore Context) (mode : PeerMode) :
    NetworkNode (WorkerState Context) WorkerAction (WorkerOutput Context) (List UInt8) where
  system := (workerNode library mode).system
  emits output := (output.down.bind SendDown.accepted).map Prod.snd
  absorbs := (workerNode library mode).absorbs

/-- The two workers exchange the accepted frames. -/
def acceptingTunnel (library : ∀ mode, Uoscore (Context mode)) :
    LossyNetwork PeerMode (fun mode => WorkerState (Context mode)) (fun mode => WorkerOutput (Context mode))
      WorkerAction (List UInt8) where
  nodes mode := acceptingNode (library mode) mode
  peer := PeerMode.other
  relays sent delivered := decide (SameExceptHop sent delivered)

variable {library : ∀ mode, Uoscore (Context mode)} {rewrites : List UInt8 → List UInt8 → Prop}

theorem acceptingTunnel_paired : (acceptingTunnel library).Paired := by
  constructor
  · intro mode
    cases mode with
    | device => rfl
    | peer => rfl
  · intro mode
    cases mode with
    | device => exact nofun
    | peer => exact nofun

theorem acceptingNode_emitted {Context : Type} (library : Uoscore Context) (mode : PeerMode)
    (trace : List (WorkerAction × WorkerOutput Context)) :
    (acceptingNode library mode).emitted trace = (acceptedFrames trace).map Prod.snd := by
  rw [acceptedFrames, List.map_filterMap]
  rfl

/-- The peer has handled the first accepted frames in their order, and the links have the others. -/
structure Delivers (rewrites : List UInt8 → List UInt8 → Prop)
    (configuration : LossyNetwork.Configuration (fun mode => WorkerState (Context mode)) (List UInt8))
    (trace : TunnelTrace Context) (mode : PeerMode) (received onTheWay : List (List UInt8 × List UInt8)) : Prop where
  accepted : acceptedFrames (LossyNetwork.localTrace mode trace) = received ++ onTheWay
  queued : configuration.sent mode = onTheWay.map Prod.snd
  handled : List.Forall₂ (Handled rewrites) received (deliveries (LossyNetwork.localTrace mode.other trace))

section Direction

variable {mode : PeerMode}
variable {configuration : LossyNetwork.Configuration (fun mode => WorkerState (Context mode)) (List UInt8)}
variable {trace : TunnelTrace Context}

theorem run_delivers (conveys : Conveys (library mode) (library mode.other) mode mode.other rewrites)
    (version : KeepsVersion (library mode) mode) (run : (acceptingTunnel library).ordered.Run configuration trace) :
    ∃ received onTheWay, Delivers rewrites configuration trace mode received onTheWay := by
  obtain ⟨absorbed, balance, related⟩ := LossyNetwork.run_absorbs acceptingTunnel_paired run mode
  have emitted := acceptingNode_emitted (library mode) mode (LossyNetwork.localTrace mode trace)
  obtain ⟨received, onTheWay, accepted, rfl, queued⟩ := List.map_eq_append_iff.mp (emitted.symm.trans balance)
  refine ⟨received, onTheWay, accepted, queued.symm, ?_⟩
  refine run_handles conveys version (LossyNetwork.run_local run mode.other) ?_
    (related.imp fun _ _ relayed => of_decide_eq_true relayed)
  intro pair member
  apply submissions_sealed (LossyNetwork.run_local run mode)
  apply acceptedFrames_submitted
  rw [accepted]
  exact List.mem_append_left _ member

theorem acceptingTunnel_drains (mode : PeerMode) : (acceptingTunnel library).Drains mode deliver where
  absorbs frame := congrArg some (ByteMemory.slice_store_self _ 0 frame)
  relays frame := decide_eq_true (rfl : SameExceptHop frame frame)
  enabled _ _ := ⟨_, _, rfl, rfl⟩

/-- A schedule without arrivals sends what waits and empties the link. -/
structure Flushes (configuration : LossyNetwork.Configuration (fun mode => WorkerState (Context mode)) (List UInt8))
    (mode : PeerMode) (library : ∀ mode, Uoscore (Context mode)) (moves : List (PeerMode × WorkerAction))
    (final : LossyNetwork.Configuration (fun mode => WorkerState (Context mode)) (List UInt8))
    (suffix : TunnelTrace Context) : Prop where
  executed : (acceptingTunnel library).ordered.exec configuration moves = some (final, suffix)
  inward : ∀ move ∈ moves, ∀ packet, move.2 ≠ .arrive packet
  empty : final.sent mode = []
  accepted : (acceptedFrames (LossyNetwork.localTrace mode suffix)).map Prod.fst = (configuration.states mode).tun
  alone : ∃ worker, (workerNode (library mode.other) mode.other).system.exec (configuration.states mode.other)
    ((configuration.sent mode ++ (acceptedFrames (LossyNetwork.localTrace mode suffix)).map Prod.snd).map deliver) =
      some (worker, LossyNetwork.localTrace mode.other suffix)

theorem exists_flush (run : (acceptingTunnel library).ordered.Run configuration trace)
    (sendable : SendableFrom (library mode) (configuration.states mode).al.oscore.oscCtx
      (configuration.states mode).tun) :
    ∃ moves final suffix, Flushes configuration mode library moves final suffix := by
  obtain ⟨actions, worker, sending, inward, sent, -, accepted⟩ :=
    canSend_all (LossyNetwork.run_local run mode) sendable
  obtain ⟨middle, executed, after⟩ := @LossyNetwork.exec_quiet _ _ _ _ _ (acceptingTunnel library) _ _ mode _ _ _ sent
    fun action member => (inward action member).1
  have queue : middle.sent mode = configuration.sent mode ++ (acceptedFrames sending).map Prod.snd := by
    rw [after.sent, Function.update_self]
    exact congrArg _ (acceptingNode_emitted (library mode) mode sending)
  have untouched : middle.states mode.other = configuration.states mode.other := by
    rw [after.states, Function.update_of_ne mode.other_ne.symm]
  obtain ⟨final, draining, drained⟩ := LossyNetwork.exec_drain acceptingTunnel_paired
    (acceptingTunnel_drains mode.other) (middle.sent mode) (congrArg middle.sent mode.other_other)
  let record := @LossyNetwork.nodeRecord _ (fun mode => WorkerOutput (Context mode)) WorkerAction
  have moved : LossyNetwork.localTrace mode (sending.map (record mode) ++ draining.map (record mode.other)) =
      sending := by
    rw [LossyNetwork.localTrace_append, LossyNetwork.localTrace_nodeRecord,
      LossyNetwork.localTrace_nodeRecord_other mode.other_ne.symm, List.append_nil]
  refine ⟨_, final, _, LabelledSystem.exec_append executed drained.executed, ?_, ?_, ?_, final.states mode.other, ?_⟩
  · intro move member packet
    rcases List.mem_append.mp member with first | later
    · obtain ⟨action, inside, rfl⟩ := List.mem_map.mp first
      exact (inward action inside).2 packet
    · obtain ⟨action, inside, rfl⟩ := List.mem_map.mp later
      obtain ⟨frame, -, rfl⟩ := List.mem_map.mp inside
      exact nofun
  · have empty := drained.empty
    change final.sent mode.other.other = [] at empty
    rwa [mode.other_other] at empty
  · rw [moved]
    exact accepted
  · have alone := drained.alone
    rw [untouched, queue] at alone
    rw [moved, LossyNetwork.localTrace_append, LossyNetwork.localTrace_nodeRecord_other mode.other_ne,
      LossyNetwork.localTrace_nodeRecord, List.nil_append]
    exact alone

/-- This schedule hands what is on the way and what waits to the peer. The layer of the peer writes all of it when its
library accepts the messages in turn. -/
structure HandsOver (rewrites : List UInt8 → List UInt8 → Prop) (library : ∀ mode, Uoscore (Context mode))
    (configuration : LossyNetwork.Configuration (fun mode => WorkerState (Context mode)) (List UInt8))
    (mode : PeerMode) (onTheWay sent : List (List UInt8 × List UInt8)) (moves : List (PeerMode × WorkerAction)) :
    Prop where
  inward : ∀ move ∈ moves, ∀ packet, move.2 ≠ .arrive packet
  packets : sent.map Prod.fst = (configuration.states mode).tun
  sealed : ∀ pair ∈ onTheWay ++ sent, ∃ netBuffer payload message,
    Sealed (library mode) mode pair.1 pair.2 netBuffer payload message
  executed : ∃ final suffix, (acceptingTunnel library).ordered.exec configuration moves = some (final, suffix) ∧
    List.Forall₂ (Handled rewrites) (onTheWay ++ sent) (deliveries (LossyNetwork.localTrace mode.other suffix)) ∧
    (AcceptsFrom (library mode.other) (configuration.states mode.other).al.oscore.oscCtx
        ((onTheWay ++ sent).map fun pair => pair.2.drop 48) →
      ∀ result ∈ deliveries (LossyNetwork.localTrace mode.other suffix), result.written.isSome = true)

/-- Over links that keep the order, the peer handles every accepted frame once and in order, and everything that
waits or is on its way can still be handed over. -/
theorem tunnel_delivers (conveys : Conveys (library mode) (library mode.other) mode mode.other rewrites)
    (version : KeepsVersion (library mode) mode) (run : (acceptingTunnel library).ordered.Run configuration trace) :
    ∃ received onTheWay, Delivers rewrites configuration trace mode received onTheWay ∧
      (SendableFrom (library mode) (configuration.states mode).al.oscore.oscCtx (configuration.states mode).tun →
        ∃ sent moves, HandsOver rewrites library configuration mode onTheWay sent moves) := by
  obtain ⟨received, onTheWay, delivers⟩ := run_delivers conveys version run
  refine ⟨received, onTheWay, delivers, ?_⟩
  intro sendable
  obtain ⟨moves, final, suffix, flushes⟩ := exists_flush run sendable
  have sealed : ∀ pair ∈ onTheWay ++ acceptedFrames (LossyNetwork.localTrace mode suffix),
      ∃ netBuffer payload message, Sealed (library mode) mode pair.1 pair.2 netBuffer payload message := by
    intro pair inside
    apply submissions_sealed (LossyNetwork.run_local (run.exec flushes.executed) mode)
    apply acceptedFrames_submitted
    rw [LossyNetwork.localTrace_append, acceptedFrames, List.filterMap_append]
    change pair ∈ acceptedFrames _ ++ acceptedFrames _
    rw [delivers.accepted, List.append_assoc]
    exact List.mem_append_right _ inside
  refine ⟨_, moves, flushes.inward, flushes.accepted, sealed, final, suffix, flushes.executed, ?_, ?_⟩
  · obtain ⟨all, left, finished⟩ := run_delivers conveys version (run.exec flushes.executed)
    have nothing : left = [] := List.map_eq_nil_iff.mp (finished.queued.symm.trans flushes.empty)
    have accepted : all = (received ++ onTheWay) ++ acceptedFrames (LossyNetwork.localTrace mode suffix) := by
      have joined := finished.accepted
      rw [nothing, List.append_nil, LossyNetwork.localTrace_append, acceptedFrames, List.filterMap_append] at joined
      rw [← joined]
      exact congrArg (· ++ acceptedFrames (LossyNetwork.localTrace mode suffix)) delivers.accepted
    have handled := finished.handled
    rw [LossyNetwork.localTrace_append, deliveries, List.filterMap_append] at handled
    have later := List.forall₂_drop_append _ _ _ handled
    change List.Forall₂ _ (List.drop (deliveries _).length _) _ at later
    rwa [← delivers.handled.length_eq, accepted, List.append_assoc, List.drop_left] at later
  · intro accepts
    obtain ⟨worker, alone⟩ := flushes.alone
    have here := LossyNetwork.run_local run mode.other
    have opened := (reachable_invariant ⟨_, here.of_startingIn⟩).opened
    rw [delivers.queued, ← List.map_append] at alone
    refine exec_delivers version ?_ opened (workerNode_keyed here) ?_ alone
    · intro frame member
      obtain ⟨pair, inside, rfl⟩ := List.mem_map.mp member
      exact ⟨pair.1, sealed pair inside⟩
    · rw [List.map_map]
      exact accepts

end Direction

end Network

theorem recordedLibrary_keepsVersion (mode : PeerMode) : KeepsVersion recordedLibrary mode := by
  intro oscCtx payload message _ encrypted version
  rcases recordedProtection_cases (boundedConversion_ok encrypted.1 encrypted.2) with
    ⟨-, rfl⟩ | ⟨record, member, -, rfl⟩
  · exact version
  · have every : ∀ record ∈ recordedMessages, record.message.getD 0 0 &&& 0xC0 = 0x40 := by decide
    exact every record member

theorem ackPacket_accepted : CoapPacket ackPacket :=
  ⟨⟨by decide, by decide, by decide⟩, by decide, by decide, by decide, by decide, by decide⟩

/-- The frame of the acknowledgement carries the acknowledgement. -/
theorem ackFrame_carries {frame payload message : List UInt8} {netBuffer : ByteMemory}
    (sealed : Sealed recordedLibrary .device ackPacket frame netBuffer payload message) :
    frame.drop 48 = recordedAck := by
  obtain ⟨-, -, length, behind⟩ := ackPacket_accepted.reaches (by decide) netBuffer
  obtain ⟨oscCtx, -, encrypted⟩ := sealed.encrypted
  have held := sealed.held
  rw [show ackPacket.take ipv6MaxPacketSize = ackPacket from rfl, length, behind] at held
  rw [held] at encrypted
  rw [sealed.carries]
  exact encrypted.2.symm

/-- The frame of the request is on its way to the peer, and the acknowledgement waits. The library of the peer accepts
both messages, so both are written. -/
theorem recordedSession_delivers :
    ∃ configuration trace, (acceptingTunnel fun _ => recordedLibrary).ordered.Run configuration trace ∧
      (configuration.states .device).tun = [ackPacket] ∧
      ∃ onTheWay : List (List UInt8 × List UInt8), onTheWay.map Prod.snd = [requestFrame] ∧
        ∃ sent moves,
          HandsOver RewritesObserve (fun _ => recordedLibrary) configuration .device onTheWay sent moves ∧
            AcceptsFrom recordedLibrary (configuration.states .peer).al.oscore.oscCtx
              ((onTheWay ++ sent).map fun pair => pair.2.drop 48) := by
  have executed : ((acceptingTunnel fun _ => recordedLibrary).ordered.exec bootedTunnel
      (sends .device requestPacket ++ [(.device, .arrive ackPacket)])).map (fun ended =>
          ((ended.1.states .device).tun, ended.1.sent .device)) = some ([ackPacket], [requestFrame]) := by
    decide +kernel
  obtain ⟨⟨configuration, trace⟩, executed, same⟩ := Option.map_eq_some_iff.mp executed
  obtain ⟨waiting, queued⟩ := Prod.mk.inj same
  have initial : (acceptingTunnel fun _ => recordedLibrary).ordered.initial bootedTunnel := bootedTunnel_initial
  have run := (LabelledSystem.Run.start initial).exec executed
  obtain ⟨received, onTheWay, delivers, live⟩ := @tunnel_delivers _ (fun _ => recordedLibrary) _ .device _ _
    (recordedLibrary_conveys .device .peer) (recordedLibrary_keepsVersion .device) run
  have sendable : SendableFrom recordedLibrary (configuration.states .device).al.oscore.oscCtx
      (configuration.states .device).tun := by
    rw [waiting]
    exact ⟨⟨ackPacket_accepted, by decide, recordedAck, rfl, rfl⟩, trivial⟩
  obtain ⟨sent, moves, handsOver⟩ := live sendable
  have frames : onTheWay.map Prod.snd = [requestFrame] := by
    rw [← delivers.queued]
    exact queued
  refine ⟨configuration, trace, run, waiting, onTheWay, frames, sent, moves, handsOver, ?_⟩
  obtain ⟨pair, rfl, packet⟩ := List.map_eq_singleton_iff.mp (handsOver.packets.trans waiting)
  obtain ⟨netBuffer, payload, message, sealed⟩ := handsOver.sealed pair (by simp)
  rw [packet] at sealed
  have messages : (onTheWay ++ [pair]).map (fun pair => pair.2.drop 48) =
      [recordedRequest.message, recordedAck] := by
    have first := congrArg (List.map (List.drop 48)) frames
    rw [List.map_map] at first
    rw [List.map_append, List.map_singleton, ackFrame_carries sealed]
    exact congrArg (· ++ [recordedAck]) first
  rw [messages]
  exact ⟨.inl rfl, .inr rfl, trivial⟩

end SchcWork.Worker
