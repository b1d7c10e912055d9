import SchcWork.Library.LabelledSystem
import SchcWork.Worker.ForwardUp

/-!
This file models the main loop of the worker as a labelled system. Packets arrive at any time, and the
loop may run its poll round and its processing in any order.
-/

namespace SchcWork.Worker

open Net Platform

variable {Context : Type}

/-- The state holds the layer, the watch table, the packets of the TUN, and the number of accepted
transmissions whose result is outstanding. -/
structure WorkerState (Context : Type) where
  al : SchcAl Context
  watched : WatchTable Callback
  tun : List (List UInt8)
  outstanding : Nat

inductive WorkerAction where
  | arrive (packet : List UInt8)
  | poll (result : PollResult)
  | process (errors : List Errno) (reply : NetSendtoReply)
  | transmissionResult (status : NetStatus) (error : Nat)
  | dataReceived (buffer : ByteMemory) (dataSize : Nat) (status : NetStatus) (writeFails : Bool)

/-- A step may send a packet down or forward a delivery up. -/
structure WorkerOutput (Context : Type) where
  down : Option (SendDown Context)
  up : Option (ForwardUp Context)

/-- The callbacks of the L2 layer do not touch the adaptation layer. -/
def runCallback (callback : Callback) (worker : WorkerState Context) : WorkerState Context :=
  match callback with
  | .schcAlTunReceivedHandler => { worker with al := Worker.schcAlTunReceivedHandler worker.al }
  | .l2 _ => worker

/-- The SDK reports no result for a rejected transmission. -/
def NetSendtoReply.Legal (reply : NetSendtoReply) : Prop := reply.status ≠ .success → reply.reported = none

instance (reply : NetSendtoReply) : Decidable reply.Legal := inferInstanceAs (Decidable (_ → _))

/-- A reply leaves a result outstanding when it accepts the frame without a report. -/
def NetSendtoReply.pending (reply : NetSendtoReply) : Nat :=
  if reply.status = .success ∧ reply.reported = none then 1 else 0

/-- The poll reports the TUN as readable exactly when it holds a packet. -/
def PollTruthful (worker : WorkerState Context) : PollResult → Prop
  | .nothing => True
  | .ready readable => readable worker.al.tunFd = !worker.tun.isEmpty

instance (worker : WorkerState Context) (result : PollResult) : Decidable (PollTruthful worker result) :=
  match result with
  | .nothing => .isTrue trivial
  | .ready _ => inferInstanceAs (Decidable (_ = _))

/-- A step is disabled when the environment does not offer it or when its read blocks. -/
def workerStep (library : Uoscore Context) (build : Build) (worker : WorkerState Context) :
    WorkerAction → Option (WorkerState Context × WorkerOutput Context)
  | .arrive packet => some ({ worker with tun := worker.tun ++ [packet] }, ⟨none, none⟩)
  | .poll result =>
      if PollTruthful worker result then
        some (platformEnterLowPowerLl WorkerState.watched runCallback result worker, ⟨none, none⟩)
      else none
  | .process errors reply =>
      if reply.Legal then
        (schcAlProcess library build worker.al worker.tun errors reply).map fun result =>
          let pending := if result.frame.isSome then reply.pending else 0
          ({ worker with al := result.state, tun := result.tun, outstanding := worker.outstanding + pending },
            ⟨some result, none⟩)
      else none
  | .transmissionResult status error =>
      if 0 < worker.outstanding then
        some ({ worker with
          al := netTransmissionResult worker.al status error, outstanding := worker.outstanding - 1 }, ⟨none, none⟩)
      else none
  | .dataReceived buffer dataSize status writeFails =>
      match netDataReceived library build worker.al buffer dataSize status writeFails with
      | some result => some ({ worker with al := result.state }, ⟨none, some result⟩)
      | none => some (worker, ⟨none, none⟩)

/-- No watched descriptor has the handler of the TUN before the initialization. -/
def Unregistered (table : WatchTable Callback) : Prop :=
  ∀ idx, idx < nbrFds table → (table idx).cb ≠ some .schcAlTunReceivedHandler

/-- The loop starts after one successful initialization, which opens the TUN. -/
def Started (library : Uoscore Context) (build : Build) (mode : PeerMode) (worker : WorkerState Context) : Prop :=
  ∃ before host setup after, before.tunFd < 0 ∧ Unregistered host.watched ∧
    schcAlInit library build mode before host setup = (0, worker.al, after) ∧ worker.watched = after.watched ∧
    worker.tun = [] ∧ worker.outstanding = 0

/-- This is the main loop together with its environment. -/
def workerSystem (library : Uoscore Context) (build : Build) (mode : PeerMode) :
    LabelledSystem (WorkerState Context) WorkerAction (WorkerOutput Context) where
  initial := Started library build mode
  step := workerStep library build

/-- Processing first clears the notification. -/
def SchcAl.cleared (state : SchcAl Context) : SchcAl Context :=
  { state with event := state.event.lower ipPacketAvailable, processingRequired := false }

/-- An idle call only returns a status. -/
def idleDown (status : SchcAlProcessStatus) (state : SchcAl Context) (tun : List (List UInt8)) : SendDown Context :=
  ⟨status, state, tun, none, none, none, none⟩

/-- Each constructor is one path of `schcAlProcess` with its guards and its effects. -/
inductive ProcessPath (library : Uoscore Context) (build : Build) (state : SchcAl Context)
    (tun : List (List UInt8)) (reply : NetSendtoReply) : SendDown Context → Prop where
  | unnotified (quiet : state.event.has ipPacketAvailable = false) :
      ProcessPath library build state tun reply (idleDown .sendDownOk state tun)
  | closed (notified : state.event.has ipPacketAvailable = true) (closed : state.tunFd < 0) :
      ProcessPath library build state tun reply (idleDown .sendDownInternalError state.cleared tun)
  | busy (notified : state.event.has ipPacketAvailable = true)
      (ongoing : state.event.has ongoingTransmission = true) :
      ProcessPath library build state tun reply (idleDown .sendDownBusy state.cleared tun)
  | unread (notified : state.event.has ipPacketAvailable = true) (status : SchcAlProcessStatus)
      (other : status ≠ .sendDownBusy) :
      ProcessPath library build state tun reply (idleDown status state.cleared tun)
  | handled (notified : state.event.has ipPacketAvailable = true)
      (free : state.event.has ongoingTransmission = false) (packet : List UInt8) (rest : List (List UInt8))
      (oldest : tun = packet :: rest) :
      ProcessPath library build state tun reply (handlePacket library build state.cleared packet rest reply)

/-- Clearing the notification keeps the busy flag. -/
theorem cleared_ongoing (state : SchcAl Context) :
    state.cleared.event.has ongoingTransmission = state.event.has ongoingTransmission := by
  show (state.event.lower ipPacketAvailable).has ongoingTransmission = _
  rw [EventWord.has_lower _ (by decide) (by decide)]
  simp [ipPacketAvailable, ongoingTransmission]

theorem cleared_ipPacket (state : SchcAl Context) : state.cleared.event.has ipPacketAvailable = false := by
  show (state.event.lower ipPacketAvailable).has ipPacketAvailable = false
  rw [EventWord.has_lower _ (by decide) (by decide)]
  simp

private theorem schcAlProcess_unfolded (library : Uoscore Context) (build : Build) (state : SchcAl Context)
    (tun : List (List UInt8)) (errors : List Errno) (reply : NetSendtoReply) :
    schcAlProcess library build state tun errors reply =
      if state.event.has ipPacketAvailable then schcAlSendDown library build state.cleared tun errors reply
      else some (idleDown .sendDownOk state tun) :=
  rfl

private theorem schcAlSendDown_unfolded (library : Uoscore Context) (build : Build) (state : SchcAl Context)
    (tun : List (List UInt8)) (errors : List Errno) (reply : NetSendtoReply) :
    schcAlSendDown library build state tun errors reply =
      if state.tunFd < 0 then some (idleDown .sendDownInternalError state tun)
      else if state.event.has ongoingTransmission then some (idleDown .sendDownBusy state tun)
      else
        match readTun tun errors with
        | none => none
        | some (.failed errno, _) =>
            if errno ≠ .eagain ∧ errno ≠ .ewouldblock then some (idleDown .sendDownInternalError state tun)
            else some (idleDown .sendDownOk state tun)
        | some (.packet packet, rest) => some (handlePacket library build state packet rest reply) :=
  rfl

/-- Every completed processing call takes one of the paths. -/
theorem schcAlProcess_path {library : Uoscore Context} {build : Build} {state : SchcAl Context}
    {tun : List (List UInt8)} {errors : List Errno} {reply : NetSendtoReply} {result : SendDown Context}
    (ran : schcAlProcess library build state tun errors reply = some result) :
    ProcessPath library build state tun reply result := by
  rw [schcAlProcess_unfolded] at ran
  split at ran
  · rename_i notified
    rw [schcAlSendDown_unfolded] at ran
    split at ran
    · rename_i closed
      rw [← Option.some.inj ran]
      exact .closed notified closed
    · split at ran
      · rename_i ongoing
        rw [← Option.some.inj ran]
        exact .busy notified ((cleared_ongoing state).symm.trans ongoing)
      · rename_i free
        split at ran
        · contradiction
        · split at ran
          · rw [← Option.some.inj ran]
            exact .unread notified .sendDownInternalError (by decide)
          · rw [← Option.some.inj ran]
            exact .unread notified .sendDownOk (by decide)
        · rename_i packet rest read
          rw [← Option.some.inj ran]
          obtain ⟨other, same, oldest⟩ | ⟨errno, failed⟩ := readTun_cases read
          · rw [ReadResult.packet.inj same]
            exact .handled notified ((cleared_ongoing state).symm.trans (Bool.eq_false_iff.mpr free)) other rest oldest
          · contradiction
  · rename_i quiet
    rw [← Option.some.inj ran]
    exact .unnotified (Bool.eq_false_iff.mpr quiet)

/-- A processing call is idle, or it handles the oldest packet without a transmission. -/
theorem ProcessPath.idle_or_handled {library : Uoscore Context} {build : Build} {state : SchcAl Context}
    {tun : List (List UInt8)} {reply : NetSendtoReply} {result : SendDown Context}
    (path : ProcessPath library build state tun reply result) :
    (∃ status al, result = idleDown status al tun ∧ (al = state ∨ al = state.cleared)) ∨
      ∃ packet rest, tun = packet :: rest ∧ state.event.has ongoingTransmission = false ∧
        result = handlePacket library build state.cleared packet rest reply := by
  cases path with
  | unnotified quiet => exact Or.inl ⟨_, _, rfl, Or.inl rfl⟩
  | closed notified closed => exact Or.inl ⟨_, _, rfl, Or.inr rfl⟩
  | busy notified ongoing => exact Or.inl ⟨_, _, rfl, Or.inr rfl⟩
  | unread notified status other => exact Or.inl ⟨_, _, rfl, Or.inr rfl⟩
  | handled notified free packet rest oldest => exact Or.inr ⟨packet, rest, oldest, free, rfl⟩

/-- A processing call with a packet to read completes. -/
theorem schcAlProcess_isSome (library : Uoscore Context) (build : Build) {state : SchcAl Context}
    {tun : List (List UInt8)} (ready : state.event.has ipPacketAvailable = true → tun ≠ []) (errors : List Errno)
    (reply : NetSendtoReply) : (schcAlProcess library build state tun errors reply).isSome = true := by
  rw [schcAlProcess_unfolded]
  split
  · rename_i notified
    rw [schcAlSendDown_unfolded]
    split
    · rfl
    · split
      · rfl
      · have read := readTun_isSome (ready notified) errors
        split
        · rename_i blocked
          rw [blocked] at read
          contradiction
        · split <;> rfl
        · rfl
  · rfl

/-- The preparation replaces the network buffer and the security context. -/
def SchcAl.withPrepared (state : SchcAl Context) (outcome : Prepared Context) : SchcAl Context :=
  { state with netBuffer := outcome.netBuffer, oscore := { state.oscore with oscCtx := outcome.oscCtx } }

/-- Each constructor is one outcome of a packet that the layer took. -/
inductive HandlePath (library : Uoscore Context) (build : Build) (state : SchcAl Context) (packet : List UInt8)
    (rest : List (List UInt8)) (reply : NetSendtoReply) : SendDown Context → Prop where
  | discarded (reason : DiscardReason)
      (decided : (prepared library build state packet).decision = .discard reason) :
      HandlePath library build state packet rest reply
        ⟨reason.status, state.withPrepared (prepared library build state packet), rest, some packet,
          (prepared library build state packet).call, some reason, none⟩
  | submitted (pktLen : Nat) (decided : (prepared library build state packet).decision = .submit pktLen) :
      HandlePath library build state packet rest reply
        ⟨(callNetSendto (state.withPrepared (prepared library build state packet)) reply).1,
          (callNetSendto (state.withPrepared (prepared library build state packet)) reply).2, rest, some packet,
          (prepared library build state packet).call, none,
          some ((prepared library build state packet).netBuffer.slice 0 pktLen)⟩

theorem handlePacket_path (library : Uoscore Context) (build : Build) (state : SchcAl Context) (packet : List UInt8)
    (rest : List (List UInt8)) (reply : NetSendtoReply) :
    HandlePath library build state packet rest reply (handlePacket library build state packet rest reply) := by
  cases decided : (prepared library build state packet).decision with
  | discard reason =>
      have same : handlePacket library build state packet rest reply =
          ⟨reason.status, state.withPrepared (prepared library build state packet), rest, some packet,
            (prepared library build state packet).call, some reason, none⟩ := by
        unfold prepared at decided
        simp only [handlePacket, decided]
        rfl
      rw [same]
      exact .discarded reason decided
  | submit pktLen =>
      have same : handlePacket library build state packet rest reply =
          ⟨(callNetSendto (state.withPrepared (prepared library build state packet)) reply).1,
            (callNetSendto (state.withPrepared (prepared library build state packet)) reply).2, rest, some packet,
            (prepared library build state packet).call, none,
            some ((prepared library build state packet).netBuffer.slice 0 pktLen)⟩ := by
        unfold prepared at decided
        simp only [handlePacket, decided]
        rfl
      rw [same]
      exact .submitted pktLen decided

/-- The SDK call keeps the security context. -/
theorem callNetSendto_oscore (state : SchcAl Context) (reply : NetSendtoReply) :
    (callNetSendto state reply).2.oscore = state.oscore := by
  unfold callNetSendto
  dsimp only
  cases reply.reported with
  | none => split <;> rfl
  | some reported => split <;> rfl

/-- The SDK call changes only the busy flag, which then shows whether a result is outstanding. -/
structure OnlyBusyChanges (before after : SchcAl Context) (pending : Nat) : Prop where
  busy : after.event.has ongoingTransmission = decide (pending ≠ 0)
  notified : after.event.has ipPacketAvailable = before.event.has ipPacketAvailable
  processing : after.processingRequired = before.processingRequired
  tunFd : after.tunFd = before.tunFd

theorem lower_ongoing (word : EventWord) :
    (word.lower ongoingTransmission).has ongoingTransmission = false ∧
      (word.lower ongoingTransmission).has ipPacketAvailable = word.has ipPacketAvailable := by
  rw [EventWord.has_lower _ (by decide) (by decide), EventWord.has_lower _ (by decide) (by decide)]
  simp [ongoingTransmission, ipPacketAvailable]

theorem raise_ongoing (word : EventWord) :
    (word.raise ongoingTransmission).has ongoingTransmission = true ∧
      (word.raise ongoingTransmission).has ipPacketAvailable = word.has ipPacketAvailable := by
  rw [EventWord.has_raise _ (by decide) (by decide), EventWord.has_raise _ (by decide) (by decide)]
  simp [ongoingTransmission, ipPacketAvailable]

theorem raise_ipPacket (word : EventWord) :
    (word.raise ipPacketAvailable).has ongoingTransmission = word.has ongoingTransmission ∧
      (word.raise ipPacketAvailable).has ipPacketAvailable = true := by
  rw [EventWord.has_raise _ (by decide) (by decide), EventWord.has_raise _ (by decide) (by decide)]
  simp [ongoingTransmission, ipPacketAvailable]

/-- The reply leaves the busy flag set exactly when a result is outstanding. -/
theorem callNetSendto_busy (state : SchcAl Context) (reply : NetSendtoReply) :
    OnlyBusyChanges state (callNetSendto state reply).2 reply.pending := by
  have raised := raise_ongoing state.event
  have reported := lower_ongoing (state.event.raise ongoingTransmission)
  have rejected := lower_ongoing ((state.event.raise ongoingTransmission).lower ongoingTransmission)
  unfold callNetSendto NetSendtoReply.pending
  cases reply.reported with
  | none =>
      by_cases success : reply.status = .success
      · simp only [success, ne_eq, not_true_eq_false, if_false, and_self, if_true]
        exact ⟨raised.1, raised.2, rfl, rfl⟩
      · simp only [success, ne_eq, not_false_eq_true, if_true, false_and, if_false]
        exact ⟨reported.1, reported.2.trans raised.2, rfl, rfl⟩
  | some result =>
      by_cases success : reply.status = .success
      · simp only [success, ne_eq, not_true_eq_false, if_false, reduceCtorEq, and_false]
        exact ⟨reported.1, reported.2.trans raised.2, rfl, rfl⟩
      · simp only [success, ne_eq, not_false_eq_true, if_true, false_and, if_false]
        exact ⟨rejected.1, rejected.2.trans (reported.2.trans raised.2), rfl, rfl⟩

/-- A packet changes the flags only through its submission. -/
theorem handlePacket_busy {library : Uoscore Context} {build : Build} {state : SchcAl Context}
    (free : state.event.has ongoingTransmission = false) (packet : List UInt8) (rest : List (List UInt8))
    (reply : NetSendtoReply) :
    OnlyBusyChanges state (handlePacket library build state packet rest reply).state
      (if (handlePacket library build state packet rest reply).frame.isSome then reply.pending else 0) := by
  have path := handlePacket_path library build state packet rest reply
  generalize handlePacket library build state packet rest reply = result at path
  cases path with
  | discarded reason decided => exact ⟨free, rfl, rfl, rfl⟩
  | submitted pktLen decided =>
      have called := callNetSendto_busy (state.withPrepared (prepared library build state packet)) reply
      exact ⟨called.busy, called.notified, called.processing, called.tunFd⟩

/-- The handler of the TUN belongs to the descriptor of the TUN only. -/
def HandlerOwned (table : WatchTable Callback) (tunFd : Int) : Prop :=
  ∀ idx, idx < nbrFds table → (table idx).cb = some .schcAlTunReceivedHandler → (table idx).fd = tunFd

/-- A successful start leaves an open TUN with its handler and no other flag. -/
theorem openTun_success {state after : SchcAl Context} {host next : Host} {setup : TunSetup}
    (closed : state.tunFd < 0) (opened : openTun state host setup = (0, after, next)) :
    0 ≤ after.tunFd ∧ after.event = state.event.raise connectivityAvailableEvent ∧
      Registers host.watched next.watched after.tunFd .schcAlTunReceivedHandler := by
  unfold openTun at opened
  rw [if_neg (Int.not_le.mpr closed)] at opened
  dsimp only [closeTun] at opened
  split at opened
  · simp at opened
  · rename_i valid
    split at opened
    · simp at opened
    · split at opened
      · simp at opened
      · split at opened
        · simp at opened
        · have registers := @watchFdForInput_registers _ host.watched setup.createTun Callback.schcAlTunReceivedHandler
          generalize watchFdForInput host.watched setup.createTun Callback.schcAlTunReceivedHandler = watch
            at opened registers
          obtain ⟨watched, table⟩ := watch
          cases watched with
          | false => simp at opened
          | true =>
              simp only [not_true_eq_false, if_false, Prod.mk.injEq, true_and] at opened
              obtain ⟨rfl, rfl⟩ := opened
              exact ⟨Int.not_lt.mp valid, rfl, registers rfl⟩

theorem schcAlInit_success {library : Uoscore Context} {build : Build} {mode : PeerMode}
    {state after : SchcAl Context} {host next : Host} {setup : TunSetup} (closed : state.tunFd < 0)
    (started : schcAlInit library build mode state host setup = (0, after, next)) :
    0 ≤ after.tunFd ∧ after.event = EventWord.none.raise connectivityAvailableEvent ∧
      Registers host.watched next.watched after.tunFd .schcAlTunReceivedHandler := by
  unfold schcAlInit at started
  dsimp only at started
  split at started
  · split at started
    · simp at started
    · exact openTun_success (by exact closed) started
  · exact openTun_success (by exact closed) started

/-- The TUN setup keeps the security context. -/
theorem openTun_oscore (state : SchcAl Context) (host : Host) (setup : TunSetup) :
    (openTun state host setup).2.1.oscore = state.oscore := by
  unfold openTun
  dsimp only [closeTun]
  repeat' split
  all_goals rfl

/-- A successful initialization keeps the context that the library made from the compiled-in parameters. -/
theorem schcAlInit_context {library : Uoscore Context} {build : Build} {mode : PeerMode}
    (enabled : build.oscoreProxyEnabled = true) {state : SchcAl Context} {host : Host} {setup : TunSetup}
    (success : (schcAlInit library build mode state host setup).1 = 0) :
    (library.oscoreContextInit (compiledParams mode)).1 = .ok ∧
      (schcAlInit library build mode state host setup).2.1.oscore.oscCtx =
        (library.oscoreContextInit (compiledParams mode)).2 := by
  obtain ⟨context, ready⟩ := oscoreSecurityContextInit_spec library mode
    (oscoreMasterSecret.take oscoreMasterSecretLen) (oscoreMasterSalt.take oscoreMasterSaltLen)
  unfold schcAlInit at success ⊢
  rw [if_pos enabled] at success ⊢
  generalize oscoreSecurityContextInit library mode (oscoreMasterSecret.take oscoreMasterSecretLen)
    (oscoreMasterSalt.take oscoreMasterSaltLen) = made at success context ready ⊢
  obtain ⟨succeeded, oscCtx⟩ := made
  cases succeeded with
  | false => simp at success
  | true =>
      refine ⟨ready.mp rfl, ?_⟩
      simp only [not_true_eq_false, if_false, openTun_oscore]
      exact context

/-- Registration of the handler keeps it on its own descriptor. -/
theorem handlerOwned_of_registers {table next : WatchTable Callback} {fd : Int} (fresh : Unregistered table)
    (registers : Registers table next fd .schcAlTunReceivedHandler) : HandlerOwned next fd := by
  intro idx inside handler
  rw [registers.count] at inside
  by_cases last : idx = nbrFds table
  · rw [last, registers.added]
  · rw [registers.kept idx (by omega)] at handler
    exact absurd handler (fresh idx (by omega))

/-- The busy flag shows the outstanding result, and the notification shows a packet in the TUN. -/
structure WorkerInvariant (worker : WorkerState Context) : Prop where
  opened : 0 ≤ worker.al.tunFd
  owned : HandlerOwned worker.watched worker.al.tunFd
  busy : worker.al.event.has ongoingTransmission = decide (worker.outstanding ≠ 0)
  single : worker.outstanding ≤ 1
  notified : worker.al.event.has ipPacketAvailable = true → worker.al.processingRequired = true ∧ worker.tun ≠ []

theorem started_invariant {library : Uoscore Context} {build : Build} {mode : PeerMode}
    {worker : WorkerState Context} (started : Started library build mode worker) : WorkerInvariant worker := by
  obtain ⟨before, host, setup, after, closed, fresh, init, watched, -, outstanding⟩ := started
  obtain ⟨opened, event, registers⟩ := schcAlInit_success closed init
  have quiet (index : Nat) (inside : index < 32) (other : connectivityAvailableEvent ≠ index) :
      worker.al.event.has index = false := by
    rw [event, EventWord.has_raise _ (by decide) inside, EventWord.has_none]
    simpa using other
  refine ⟨opened, ?_, ?_, ?_, ?_⟩
  · rw [watched]
    exact handlerOwned_of_registers fresh registers
  · rw [quiet ongoingTransmission (by decide) (by decide), outstanding]
    rfl
  · omega
  · rw [quiet ipPacketAvailable (by decide) (by decide)]
    exact fun impossible => absurd impossible Bool.false_ne_true

/-- A poll round notifies the layer of a waiting packet and changes nothing else. -/
structure Notified (before after : WorkerState Context) : Prop where
  watched : after.watched = before.watched
  tun : after.tun = before.tun
  outstanding : after.outstanding = before.outstanding
  tunFd : after.al.tunFd = before.al.tunFd
  netBuffer : after.al.netBuffer = before.al.netBuffer
  ongoing : after.al.event.has ongoingTransmission = before.al.event.has ongoingTransmission
  waiting : after.al = before.al ∨
    (before.tun ≠ [] ∧ after.al.event.has ipPacketAvailable = true ∧ after.al.processingRequired = true)

theorem notified_refl (worker : WorkerState Context) : Notified worker worker :=
  ⟨rfl, rfl, rfl, rfl, rfl, rfl, Or.inl rfl⟩

/-- The handler of the TUN runs only when the TUN holds a packet. -/
theorem poll_notified {worker : WorkerState Context} (invariant : WorkerInvariant worker) {result : PollResult}
    (truthful : PollTruthful worker result) :
    Notified worker (platformEnterLowPowerLl WorkerState.watched runCallback result worker) := by
  apply platformEnterLowPowerLl_invariant (notified_refl worker)
  intro readable current idx callback reported inside ready found holds
  cases callback with
  | l2 index => exact holds
  | schcAlTunReceivedHandler =>
      rw [holds.watched] at found
      rw [invariant.owned idx inside found] at ready
      subst reported
      have truth : readable worker.al.tunFd = !worker.tun.isEmpty := truthful
      have waiting : worker.tun ≠ [] := by
        intro empty
        rw [ready, empty] at truth
        exact Bool.false_ne_true truth.symm
      obtain ⟨kept, raised⟩ := raise_ipPacket current.al.event
      exact ⟨holds.watched, holds.tun, holds.outstanding, holds.tunFd, holds.netBuffer, kept.trans holds.ongoing,
        Or.inr ⟨waiting, raised, rfl⟩⟩

section Steps

variable {library : Uoscore Context} {build : Build} {mode : PeerMode}

/-- Each constructor is one enabled step with its guards and its effects. -/
inductive WorkerPath (library : Uoscore Context) (build : Build) (worker : WorkerState Context) :
    WorkerAction → WorkerState Context → WorkerOutput Context → Prop where
  | arrive (packet : List UInt8) :
      WorkerPath library build worker (.arrive packet) { worker with tun := worker.tun ++ [packet] } ⟨none, none⟩
  | poll (result : PollResult) (truthful : PollTruthful worker result) :
      WorkerPath library build worker (.poll result)
        (platformEnterLowPowerLl WorkerState.watched runCallback result worker) ⟨none, none⟩
  | process (errors : List Errno) (reply : NetSendtoReply) (result : SendDown Context)
      (path : ProcessPath library build worker.al worker.tun reply result) :
      WorkerPath library build worker (.process errors reply)
        ⟨result.state, worker.watched, result.tun,
          worker.outstanding + if result.frame.isSome then reply.pending else 0⟩ ⟨some result, none⟩
  | transmissionResult (status : NetStatus) (error : Nat) (pending : 0 < worker.outstanding) :
      WorkerPath library build worker (.transmissionResult status error)
        { worker with
          al := netTransmissionResult worker.al status error, outstanding := worker.outstanding - 1 } ⟨none, none⟩
  | delivered (buffer : ByteMemory) (dataSize : Nat) (writeFails : Bool) :
      WorkerPath library build worker (.dataReceived buffer dataSize .success writeFails)
        { worker with al := (schcAlForwardUp library build worker.al buffer dataSize writeFails).state }
        ⟨none, some (schcAlForwardUp library build worker.al buffer dataSize writeFails)⟩
  | undelivered (buffer : ByteMemory) (dataSize : Nat) (status : NetStatus) (writeFails : Bool) :
      WorkerPath library build worker (.dataReceived buffer dataSize status writeFails) worker ⟨none, none⟩

theorem workerStep_path {worker next : WorkerState Context} {action : WorkerAction} {output : WorkerOutput Context}
    (taken : workerStep library build worker action = some (next, output)) :
    WorkerPath library build worker action next output := by
  cases action with
  | arrive packet =>
      obtain ⟨rfl, rfl⟩ := Prod.mk.inj (Option.some.inj taken)
      exact .arrive packet
  | poll result =>
      simp only [workerStep] at taken
      split at taken
      · rename_i truthful
        obtain ⟨rfl, rfl⟩ := Prod.mk.inj (Option.some.inj taken)
        exact .poll result truthful
      · contradiction
  | process errors reply =>
      simp only [workerStep] at taken
      split at taken
      · obtain ⟨result, ran, same⟩ := Option.map_eq_some_iff.mp taken
        obtain ⟨rfl, rfl⟩ := Prod.mk.inj same
        exact .process errors reply result (schcAlProcess_path ran)
      · contradiction
  | transmissionResult status error =>
      simp only [workerStep] at taken
      split at taken
      · rename_i pending
        obtain ⟨rfl, rfl⟩ := Prod.mk.inj (Option.some.inj taken)
        exact .transmissionResult status error pending
      · contradiction
  | dataReceived buffer dataSize status writeFails =>
      cases status with
      | success =>
          obtain ⟨rfl, rfl⟩ := Prod.mk.inj (Option.some.inj taken)
          exact .delivered buffer dataSize writeFails
      | rulesNotFoundErr =>
          obtain ⟨rfl, rfl⟩ := Prod.mk.inj (Option.some.inj taken)
          exact .undelivered buffer dataSize .rulesNotFoundErr writeFails
      | other code =>
          obtain ⟨rfl, rfl⟩ := Prod.mk.inj (Option.some.inj taken)
          exact .undelivered buffer dataSize (.other code) writeFails

/-- An idle call keeps the invariant, and it leaves no notification. -/
theorem cleared_invariant {worker : WorkerState Context} (invariant : WorkerInvariant worker) :
    WorkerInvariant { worker with al := worker.al.cleared } := by
  refine ⟨invariant.opened, invariant.owned, (cleared_ongoing worker.al).trans invariant.busy, invariant.single, ?_⟩
  intro notified
  exact absurd ((cleared_ipPacket worker.al).symm.trans notified) Bool.false_ne_true

/-- Processing keeps the invariant on every path. -/
theorem process_invariant {worker : WorkerState Context} (invariant : WorkerInvariant worker)
    {reply : NetSendtoReply} {result : SendDown Context}
    (path : ProcessPath library build worker.al worker.tun reply result) :
    WorkerInvariant ⟨result.state, worker.watched, result.tun,
      worker.outstanding + if result.frame.isSome then reply.pending else 0⟩ := by
  rcases path.idle_or_handled with ⟨status, al, rfl, same⟩ | ⟨packet, rest, oldest, free, rfl⟩
  · rcases same with rfl | rfl
    · exact invariant
    · exact cleared_invariant invariant
  · have idle : worker.outstanding = 0 := by
      have shown := invariant.busy
      rw [free] at shown
      simpa using shown.symm
    have changes : OnlyBusyChanges worker.al.cleared
        (handlePacket library build worker.al.cleared packet rest reply).state _ :=
      handlePacket_busy ((cleared_ongoing worker.al).trans free) packet rest reply
    have bound : reply.pending ≤ 1 := by
      unfold NetSendtoReply.pending
      split <;> omega
    constructor
    · rw [changes.tunFd]
      exact invariant.opened
    · rw [changes.tunFd]
      exact invariant.owned
    · rw [idle, Nat.zero_add]
      exact changes.busy
    · show worker.outstanding + _ ≤ 1
      rw [idle]
      split <;> omega
    · intro again
      rw [changes.notified, cleared_ipPacket] at again
      exact absurd again Bool.false_ne_true

/-- Every step of the loop keeps the invariant. -/
theorem workerStep_invariant {worker next : WorkerState Context} {action : WorkerAction}
    {output : WorkerOutput Context} (invariant : WorkerInvariant worker)
    (taken : workerStep library build worker action = some (next, output)) : WorkerInvariant next := by
  cases workerStep_path taken with
  | arrive packet =>
      refine ⟨invariant.opened, invariant.owned, invariant.busy, invariant.single, ?_⟩
      intro notified
      exact ⟨(invariant.notified notified).1, List.append_ne_nil_of_right_ne_nil _ (List.cons_ne_nil _ _)⟩
  | poll result truthful =>
      have polled := poll_notified invariant truthful
      constructor
      · rw [polled.tunFd]
        exact invariant.opened
      · rw [polled.watched, polled.tunFd]
        exact invariant.owned
      · rw [polled.ongoing, polled.outstanding]
        exact invariant.busy
      · rw [polled.outstanding]
        exact invariant.single
      · rw [polled.tun]
        obtain same | ⟨waiting, -, processing⟩ := polled.waiting
        · rw [same]
          exact invariant.notified
        · exact fun _ => ⟨processing, waiting⟩
  | process errors reply result path => exact process_invariant invariant path
  | transmissionResult status error pending =>
      obtain ⟨lowered, kept⟩ := lower_ongoing worker.al.event
      have single := invariant.single
      refine ⟨invariant.opened, invariant.owned, ?_, ?_, ?_⟩
      · show (worker.al.event.lower ongoingTransmission).has ongoingTransmission = decide (worker.outstanding - 1 ≠ 0)
        rw [lowered, show worker.outstanding - 1 = 0 by omega]
        rfl
      · show worker.outstanding - 1 ≤ 1
        omega
      · intro notified
        exact invariant.notified (kept.symm.trans notified)
  | delivered buffer dataSize writeFails =>
      obtain ⟨oscCtx, state, -⟩ := schcAlForwardUp_state library build worker.al buffer dataSize writeFails
      rw [state]
      exact ⟨invariant.opened, invariant.owned, invariant.busy, invariant.single, invariant.notified⟩
  | undelivered => exact invariant

theorem reachable_invariant {worker : WorkerState Context}
    (reached : (workerSystem library build mode).Reachable worker) : WorkerInvariant worker := by
  have base (state : WorkerState Context) (started : (workerSystem library build mode).initial state) :
      WorkerInvariant state := started_invariant started
  have step (state : WorkerState Context) (action : WorkerAction) (next : WorkerState Context)
      (output : WorkerOutput Context) (_ : (workerSystem library build mode).Reachable state)
      (invariant : WorkerInvariant state)
      (taken : (workerSystem library build mode).step state action = some (next, output)) : WorkerInvariant next :=
    workerStep_invariant invariant taken
  exact reached.invariant base step

/-- A step that passes a frame to the SDK or changes the network buffer handles a packet without a transmission. -/
theorem workerStep_frozen {worker next : WorkerState Context} {action : WorkerAction}
    {output : WorkerOutput Context} (invariant : WorkerInvariant worker) (outstanding : worker.outstanding ≠ 0)
    (taken : workerStep library build worker action = some (next, output)) :
    output.down.bind SendDown.frame = none ∧ next.al.netBuffer = worker.al.netBuffer := by
  cases workerStep_path taken with
  | arrive packet => exact ⟨rfl, rfl⟩
  | poll result truthful => exact ⟨rfl, (poll_notified invariant truthful).netBuffer⟩
  | process errors reply result path =>
      rcases path.idle_or_handled with ⟨status, al, rfl, same⟩ | ⟨packet, rest, oldest, free, rfl⟩
      · rcases same with rfl | rfl
        · exact ⟨rfl, rfl⟩
        · exact ⟨rfl, rfl⟩
      · have shown := invariant.busy
        rw [free] at shown
        simp [outstanding] at shown
  | transmissionResult status error pending => exact ⟨rfl, rfl⟩
  | delivered buffer dataSize writeFails =>
      obtain ⟨oscCtx, state, -⟩ := schcAlForwardUp_state library build worker.al buffer dataSize writeFails
      rw [state]
      exact ⟨rfl, rfl⟩
  | undelivered => exact ⟨rfl, rfl⟩

/-- The busy flag is set exactly while a result is outstanding, and then no step submits a frame or changes
the network buffer. -/
theorem ongoingTransmission_iff_outstanding {worker : WorkerState Context}
    (reached : (workerSystem library build mode).Reachable worker) :
    (worker.al.event.has ongoingTransmission = true ↔ worker.outstanding ≠ 0) ∧
      (worker.outstanding ≠ 0 → ∀ action next output,
        workerStep library build worker action = some (next, output) →
        output.down.bind SendDown.frame = none ∧ next.al.netBuffer = worker.al.netBuffer) := by
  have invariant := reachable_invariant reached
  refine ⟨?_, fun outstanding action next output taken => workerStep_frozen invariant outstanding taken⟩
  rw [invariant.busy, decide_eq_true_iff]

/-- These are the packets that the kernel put into the TUN, oldest first. -/
def arrivals (trace : List (WorkerAction × WorkerOutput Context)) : List (List UInt8) :=
  trace.filterMap fun record =>
    match record.1 with
    | .arrive packet => some packet
    | _ => none

/-- These are the packets that the layer took from the TUN. -/
def takenPackets (trace : List (WorkerAction × WorkerOutput Context)) : List (List UInt8) :=
  trace.filterMap fun record => record.2.down.bind SendDown.taken

/-- These are the frames that the layer passed to the SDK. -/
def frames (trace : List (WorkerAction × WorkerOutput Context)) : List (List UInt8) :=
  trace.filterMap fun record => record.2.down.bind SendDown.frame

/-- A submission pairs the packet that a call took with the frame that it passed to the SDK. -/
def SendDown.submission (result : SendDown Context) : Option (List UInt8 × List UInt8) :=
  result.taken.bind fun packet => result.frame.map fun frame => (packet, frame)

def submissions (trace : List (WorkerAction × WorkerOutput Context)) : List (List UInt8 × List UInt8) :=
  trace.filterMap fun record => record.2.down.bind SendDown.submission

/-- A frame keeps the header of its packet up to the length fields and the checksum. -/
def SameHeader (packet frame : List UInt8) : Prop :=
  ∀ index, index < 44 → index ≠ 4 → index ≠ 5 → frame[index]? = packet[index]?

/-- One call submits at most the packet that it takes, and it accounts for that packet. -/
structure CallSound (result : SendDown Context) : Prop where
  submitted : ∀ frame, result.frame = some frame → ∃ packet, result.taken = some packet ∧ SameHeader packet frame
  accounted : ∀ packet, result.taken = some packet →
    (∃ frame, result.frame = some frame ∧ result.discarded = none) ∨
      (∃ reason, result.discarded = some reason ∧ result.frame = none)
  busy : result.status = .sendDownBusy → result.taken = none ∧ result.frame = none

/-- Only processing calls take packets or submit frames. -/
def RecordSound (record : WorkerAction × WorkerOutput Context) : Prop :=
  ∀ result, record.2.down = some result → (∃ errors reply, record.1 = .process errors reply) ∧ CallSound result

/-- This is the discipline of the TUN over a run. -/
structure TunDiscipline (library : Uoscore Context) (build : Build) (worker : WorkerState Context)
    (trace : List (WorkerAction × WorkerOutput Context)) : Prop where
  conserved : takenPackets trace ++ worker.tun = arrivals trace
  frames : (submissions trace).map Prod.snd = frames trace
  order : ((submissions trace).map Prod.fst).Sublist (arrivals trace)
  records : ∀ record ∈ trace, RecordSound record
  notified : worker.al.event.has ipPacketAvailable = true → worker.al.processingRequired = true ∧ worker.tun ≠ []
  neverWaits : ∀ errors reply, (schcAlProcess library build worker.al worker.tun errors reply).isSome = true

/-- A submitted frame keeps the header of the packet on every path. -/
theorem prepared_header {state : SchcAl Context} {packet : List UInt8} {pktLen : Nat}
    (decided : (prepared library build state packet).decision = .submit pktLen) :
    SameHeader packet ((prepared library build state packet).netBuffer.slice 0 pktLen) := by
  let bytes := packet.take ipv6MaxPacketSize
  have path := prepareDown_path library build state.oscore (state.netBuffer.store 0 bytes) bytes.length
  have unmodified : SameHeader packet ((state.netBuffer.store 0 bytes).slice 0 bytes.length) := by
    intro index inside _ _
    rw [ByteMemory.slice_store_self]
    exact List.getElem?_take_of_lt (show index < 256 by omega)
  have resized (size : Nat) (out : List UInt8)
      (udp : isIpv6UdpPacket (state.netBuffer.store 0 bytes) bytes.length = true) :
      SameHeader packet ((resize ((state.netBuffer.store 0 bytes).store 48 out) size).slice 0 (48 + size)) := by
    intro index inside plenHigh plenLow
    have long := isIpv6UdpPacket_long udp
    have within : index < bytes.length := by omega
    have kept := ByteMemory.store_inside state.netBuffer 0 bytes within
    rw [ByteMemory.getElem?_slice _ 0 (by omega), Nat.zero_add,
      resize_outside _ _ ⟨plenHigh, plenLow⟩ (by omega) (by omega), ByteMemory.store_below _ 48 out (by omega)]
    rw [Nat.zero_add] at kept
    rw [kept, ← List.getElem?_eq_getElem within]
    exact List.getElem?_take_of_lt (show index < 256 by omega)
  unfold prepared at decided ⊢
  generalize prepareDown library build state.oscore (state.netBuffer.store 0 bytes) bytes.length = outcome
    at path decided
  cases path with
  | nonIpv6Udp other => contradiction
  | nonCoapDropped udp other drop => contradiction
  | nonCoapSent udp other keep =>
      rw [← Decision.submit.inj decided]
      exact unmodified
  | plain udp coap disabled =>
      rw [← Decision.submit.inj decided]
      exact unmodified
  | failedDropped udp coap enabled failed drop => contradiction
  | failedSent udp coap enabled failed keep =>
      rw [← Decision.submit.inj decided]
      exact resized _ _ udp
  | converted udp coap enabled success =>
      rw [← Decision.submit.inj decided]
      exact resized _ _ udp

theorem handlePacket_sound (state : SchcAl Context) (packet : List UInt8) (rest : List (List UInt8))
    (reply : NetSendtoReply) : CallSound (handlePacket library build state packet rest reply) := by
  have path := handlePacket_path library build state packet rest reply
  generalize handlePacket library build state packet rest reply = result at path
  cases path with
  | discarded reason decided =>
      refine ⟨nofun, fun _ _ => Or.inr ⟨reason, rfl, rfl⟩, fun busy => ?_⟩
      cases reason <;> contradiction
  | submitted pktLen decided =>
      refine ⟨?_, fun _ _ => Or.inl ⟨_, rfl, rfl⟩, ?_⟩
      · intro frame framed
        rw [← Option.some.inj framed]
        exact ⟨packet, rfl, prepared_header decided⟩
      · intro busy
        have status := callNetSendto_status (state.withPrepared (prepared library build state packet)) reply
        rw [show (callNetSendto _ reply).1 = SchcAlProcessStatus.sendDownBusy from busy] at status
        split at status <;> contradiction

theorem idleDown_sound (status : SchcAlProcessStatus) (state : SchcAl Context) (tun : List (List UInt8)) :
    CallSound (idleDown status state tun) :=
  ⟨nofun, nofun, fun _ => ⟨rfl, rfl⟩⟩

theorem processPath_sound {state : SchcAl Context} {tun : List (List UInt8)} {reply : NetSendtoReply}
    {result : SendDown Context} (path : ProcessPath library build state tun reply result) : CallSound result := by
  rcases path.idle_or_handled with ⟨status, al, rfl, -⟩ | ⟨packet, rest, -, -, rfl⟩
  · exact idleDown_sound status al tun
  · exact handlePacket_sound state.cleared packet rest reply

/-- A record without a processing call is sound. -/
theorem recordSound_quiet {record : WorkerAction × WorkerOutput Context} (quiet : record.2.down = none) :
    RecordSound record := by
  intro result sent
  rw [quiet] at sent
  contradiction

/-- Every record of a run is sound. -/
theorem workerStep_sound {worker next : WorkerState Context} {action : WorkerAction} {output : WorkerOutput Context}
    (taken : workerStep library build worker action = some (next, output)) : RecordSound (action, output) := by
  cases workerStep_path taken with
  | arrive packet => exact recordSound_quiet rfl
  | poll result truthful => exact recordSound_quiet rfl
  | process errors reply result path =>
      intro other same
      rw [← Option.some.inj same]
      exact ⟨⟨errors, reply, rfl⟩, processPath_sound path⟩
  | transmissionResult status error pending => exact recordSound_quiet rfl
  | delivered buffer dataSize writeFails => exact recordSound_quiet rfl
  | undelivered => exact recordSound_quiet rfl

/-- A processing call takes the oldest packet or nothing. -/
theorem processPath_tun {state : SchcAl Context} {tun : List (List UInt8)} {reply : NetSendtoReply}
    {result : SendDown Context} (path : ProcessPath library build state tun reply result) :
    result.taken.toList ++ result.tun = tun := by
  rcases path.idle_or_handled with ⟨status, al, rfl, -⟩ | ⟨packet, rest, oldest, -, rfl⟩
  · rfl
  · have handled := handlePacket_path library build state.cleared packet rest reply
    generalize handlePacket library build state.cleared packet rest reply = result at handled
    rw [oldest]
    cases handled with
    | discarded reason decided => rfl
    | submitted pktLen decided => rfl

/-- One step keeps the balance of arrived, taken, and waiting packets. -/
theorem workerStep_conserved {worker next : WorkerState Context} {action : WorkerAction}
    {output : WorkerOutput Context} (invariant : WorkerInvariant worker)
    (taken : workerStep library build worker action = some (next, output)) :
    takenPackets [(action, output)] ++ next.tun = worker.tun ++ arrivals [(action, output)] := by
  cases workerStep_path taken with
  | arrive packet => rfl
  | poll result truthful =>
      rw [(poll_notified invariant truthful).tun]
      exact (List.append_nil _).symm
  | process errors reply result path =>
      have balance := processPath_tun path
      have single : takenPackets [(WorkerAction.process errors reply, (⟨some result, none⟩ : WorkerOutput Context))] =
          result.taken.toList := by
        cases took : result.taken with
        | none => simp [takenPackets, took]
        | some packet => simp [takenPackets, took]
      rw [single, balance]
      exact (List.append_nil _).symm
  | transmissionResult status error pending => exact (List.append_nil _).symm
  | delivered buffer dataSize writeFails => exact (List.append_nil _).symm
  | undelivered => exact (List.append_nil _).symm

/-- The packets that a run took and the packets that wait are the packets that arrived. -/
theorem run_conserved {worker : WorkerState Context} {trace : List (WorkerAction × WorkerOutput Context)}
    (run : (workerSystem library build mode).Run worker trace) :
    takenPackets trace ++ worker.tun = arrivals trace := by
  induction run with
  | start initial =>
      obtain ⟨_, _, _, _, _, _, _, _, empty, _⟩ := initial
      rw [empty]
      rfl
  | @extend worker next trace action output previous taken ih =>
      have step := workerStep_conserved (reachable_invariant ⟨trace, previous⟩) taken
      calc
        takenPackets (trace ++ [(action, output)]) ++ next.tun =
            takenPackets trace ++ (takenPackets [(action, output)] ++ next.tun) := by
          rw [takenPackets, List.filterMap_append, List.append_assoc]
          rfl
        _ = (takenPackets trace ++ worker.tun) ++ arrivals [(action, output)] := by
          rw [step, List.append_assoc]
        _ = arrivals (trace ++ [(action, output)]) := by
          rw [ih, arrivals, arrivals, arrivals, List.filterMap_append]

/-- Sound records give each submitted frame its own taken packet. -/
theorem submissions_of_sound {trace : List (WorkerAction × WorkerOutput Context)}
    (sound : ∀ record ∈ trace, RecordSound record) :
    (submissions trace).map Prod.snd = frames trace ∧
      ((submissions trace).map Prod.fst).Sublist (takenPackets trace) := by
  induction trace with
  | nil => exact ⟨rfl, List.Sublist.slnil⟩
  | cons record rest ih =>
      obtain ⟨sameFrames, inOrder⟩ := ih fun other member => sound other (List.mem_cons_of_mem _ member)
      have head := sound record List.mem_cons_self
      obtain ⟨action, down, up⟩ := record
      cases down with
      | none => exact ⟨sameFrames, inOrder⟩
      | some result =>
          obtain ⟨-, call⟩ := head result rfl
          cases framed : result.frame with
          | none =>
              cases took : result.taken with
              | none =>
                  simp only [submissions, frames, takenPackets, List.filterMap_cons, Option.bind_some,
                    SendDown.submission, framed, took, Option.bind_none] at sameFrames inOrder ⊢
                  exact ⟨sameFrames, inOrder⟩
              | some packet =>
                  simp only [submissions, frames, takenPackets, List.filterMap_cons, Option.bind_some,
                    SendDown.submission, framed, took, Option.map_none] at sameFrames inOrder ⊢
                  exact ⟨sameFrames, inOrder.cons packet⟩
          | some frame =>
              obtain ⟨packet, took, -⟩ := call.submitted frame framed
              simp only [submissions, frames, takenPackets, List.filterMap_cons, Option.bind_some,
                SendDown.submission, framed, took, Option.map_some, List.map_cons] at sameFrames inOrder ⊢
              exact ⟨congrArg (frame :: ·) sameFrames, inOrder.cons_cons packet⟩

/-- Every run takes the packets in order, submits each at most once, accounts for each, and never waits in a read. -/
theorem run_tunDiscipline {worker : WorkerState Context} {trace : List (WorkerAction × WorkerOutput Context)}
    (run : (workerSystem library build mode).Run worker trace) : TunDiscipline library build worker trace := by
  have invariant := reachable_invariant ⟨trace, run⟩
  have conserved := run_conserved run
  have records : ∀ record ∈ trace, RecordSound record := by
    intro record member
    obtain ⟨before, after, -, taken⟩ := run.mem member
    exact workerStep_sound taken
  obtain ⟨sameFrames, inOrder⟩ := submissions_of_sound records
  have within : (takenPackets trace).Sublist (arrivals trace) := by
    rw [← conserved]
    exact List.sublist_append_left _ _
  refine ⟨conserved, sameFrames, inOrder.trans within, records, invariant.notified, ?_⟩
  exact schcAlProcess_isSome library build fun notified => (invariant.notified notified).2

end Steps

/-- This layer has not opened its TUN. -/
def closedLayer : SchcAl Unit := ⟨false, EventWord.none, -1, fun _ => 0, ⟨(), true⟩⟩

/-- This is the build without the proxy. -/
def plainBuild : Build := ⟨false, false, false⟩

/-- This initialization meets no failure of the TUN. -/
def boot (library : Uoscore Unit) (build : Build) : Int × SchcAl Unit × Host :=
  schcAlInit library build .device closedLayer ⟨watchedFds, []⟩ ⟨3, true, true, true⟩

def bootedWorker (library : Uoscore Unit) (build : Build) : WorkerState Unit :=
  ⟨(boot library build).2.1, (boot library build).2.2.watched, [], 0⟩

theorem bootedWorker_started {library : Uoscore Unit} {build : Build} (success : (boot library build).1 = 0) :
    Started library build .device (bootedWorker library build) := by
  have empty : nbrFds (watchedFds : WatchTable Callback) = 0 := by decide
  have fresh : Unregistered watchedFds := by
    intro idx inside
    rw [empty] at inside
    omega
  exact ⟨closedLayer, ⟨watchedFds, []⟩, ⟨3, true, true, true⟩, _, by decide, fresh,
    Prod.ext success rfl, rfl, rfl, rfl⟩

/-- A packet arrives, a poll round notifies the layer, and the SDK accepts the frame. -/
theorem plainBuild_submits :
    ∃ worker trace, (workerSystem copyLibrary plainBuild .device).Run worker trace ∧ worker.outstanding = 1 ∧
      frames trace = [shortTailPacket] := by
  have start : (workerSystem copyLibrary plainBuild .device).Run (bootedWorker copyLibrary plainBuild) [] :=
    .start (bootedWorker_started (by decide))
  have arrived := @LabelledSystem.Run.extend _ _ _ _ _ _ _ (.arrive shortTailPacket) _ start rfl
  have polled := @LabelledSystem.Run.extend _ _ _ _ _ _ _ (.poll (.ready fun _ => true)) _ arrived rfl
  have sent := @LabelledSystem.Run.extend _ _ _ _ _ _ _ (.process [] ⟨.success, none⟩) _ polled rfl
  exact ⟨_, _, sent, rfl, rfl⟩

/-- After an accepted frame no step submits another one. -/
theorem plainBuild_busy :
    ∃ worker, worker.outstanding = 1 ∧
      (worker.al.event.has ongoingTransmission = true ↔ worker.outstanding ≠ 0) ∧
      (worker.outstanding ≠ 0 → ∀ action next output,
        workerStep copyLibrary plainBuild worker action = some (next, output) →
        output.down.bind SendDown.frame = none ∧ next.al.netBuffer = worker.al.netBuffer) := by
  obtain ⟨worker, trace, run, outstanding, -⟩ := plainBuild_submits
  exact ⟨worker, outstanding, ongoingTransmission_iff_outstanding ⟨trace, run⟩⟩

/-- The discipline holds for a run that submits a packet. -/
theorem plainBuild_disciplined :
    ∃ worker trace, frames trace = [shortTailPacket] ∧ TunDiscipline copyLibrary plainBuild worker trace := by
  obtain ⟨worker, trace, run, -, submitted⟩ := plainBuild_submits
  exact ⟨worker, trace, submitted, run_tunDiscipline run⟩

end SchcWork.Worker
