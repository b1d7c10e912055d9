import SchcWork.Worker.MainLoop

namespace SchcWork.Worker

open Net Platform

variable {Context : Type} {library : Uoscore Context} {build : Build} {mode : PeerMode}

theorem takenPackets_cons (action : WorkerAction) (output : WorkerOutput Context)
    (rest : List (WorkerAction × WorkerOutput Context)) :
    takenPackets ((action, output) :: rest) = (output.down.bind SendDown.taken).toList ++ takenPackets rest :=
  filterMap_cons_toList _ _ _

theorem frames_cons (action : WorkerAction) (output : WorkerOutput Context)
    (rest : List (WorkerAction × WorkerOutput Context)) :
    frames ((action, output) :: rest) = (output.down.bind SendDown.frame).toList ++ frames rest :=
  filterMap_cons_toList _ _ _

/-- This action reports the result of a transmission. -/
def WorkerAction.reports : WorkerAction → Bool
  | .transmissionResult _ _ => true
  | _ => false

/-- A step without a report keeps the outstanding result, and it takes no packet. -/
theorem workerStep_blocked {worker next : WorkerState Context} {action : WorkerAction} {output : WorkerOutput Context}
    (invariant : WorkerInvariant worker) (outstanding : worker.outstanding ≠ 0) (silent : action.reports = false)
    (taken : workerStep library build worker action = some (next, output)) :
    next.outstanding ≠ 0 ∧ output.down.bind SendDown.taken = none := by
  cases workerStep_path taken with
  | arrive packet => exact ⟨outstanding, rfl⟩
  | poll result truthful =>
      rw [(poll_notified invariant truthful).outstanding]
      exact ⟨outstanding, rfl⟩
  | process errors reply result path =>
      rcases path.idle_or_handled with ⟨status, al, rfl, -⟩ | ⟨packet, rest, -, free, rfl⟩
      · exact ⟨outstanding, rfl⟩
      · have shown := invariant.busy
        rw [free] at shown
        simp [outstanding] at shown
  | transmissionResult status error pending => contradiction
  | delivered buffer dataSize writeFails => exact ⟨outstanding, rfl⟩
  | undelivered => exact ⟨outstanding, rfl⟩

/-- Without a report the layer takes nothing more, and every packet waits in the TUN. -/
theorem exec_blocked {worker final : WorkerState Context} {actions : List WorkerAction}
    {trace : List (WorkerAction × WorkerOutput Context)} (invariant : WorkerInvariant worker)
    (outstanding : worker.outstanding ≠ 0) (silent : ∀ action ∈ actions, action.reports = false)
    (executed : (workerSystem library build mode).exec worker actions = some (final, trace)) :
    takenPackets trace = [] ∧ frames trace = [] ∧ final.tun = worker.tun ++ arrivals trace := by
  induction actions generalizing worker trace with
  | nil =>
      obtain ⟨rfl, rfl⟩ := Prod.mk.inj (Option.some.inj executed)
      exact ⟨rfl, rfl, (List.append_nil _).symm⟩
  | cons action rest ih =>
      obtain ⟨⟨next, output⟩, taken, remaining⟩ := Option.bind_eq_some_iff.mp executed
      obtain ⟨⟨last, tail⟩, executedRest, same⟩ := Option.map_eq_some_iff.mp remaining
      obtain ⟨rfl, rfl⟩ := Prod.mk.inj same
      have step : workerStep library build worker action = some (next, output) := taken
      obtain ⟨stillOutstanding, untaken⟩ :=
        workerStep_blocked invariant outstanding (silent action List.mem_cons_self) step
      have unsubmitted := (workerStep_frozen invariant outstanding step).1
      obtain ⟨restTaken, restFrames, restTun⟩ := ih (workerStep_invariant invariant step) stillOutstanding
        (fun other member => silent other (List.mem_cons_of_mem _ member)) executedRest
      have balance := workerStep_conserved invariant step
      rw [takenPackets_cons, untaken, Option.toList_none, List.nil_append] at balance
      refine ⟨?_, ?_, ?_⟩
      · rw [takenPackets_cons, untaken]
        exact restTaken
      · rw [frames_cons, unsubmitted]
        exact restFrames
      · have joined : arrivals ((action, output) :: tail) = arrivals [(action, output)] ++ arrivals tail := by
          rw [arrivals, arrivals, arrivals, ← List.filterMap_append, List.singleton_append]
        have next_tun : next.tun = worker.tun ++ arrivals [(action, output)] := balance
        rw [restTun, next_tun, List.append_assoc]
        exact congrArg (worker.tun ++ ·) joined.symm

/-- The table still has the entry of the TUN. -/
def Watching (worker : WorkerState Context) : Prop :=
  ∃ idx, idx < nbrFds worker.watched ∧ worker.watched idx = ⟨worker.al.tunFd, some .schcAlTunReceivedHandler⟩

theorem started_watching {worker : WorkerState Context} (started : Started library build mode worker) :
    Watching worker := by
  obtain ⟨before, host, setup, after, closed, -, init, watched, -, -⟩ := started
  obtain ⟨-, -, registers⟩ := schcAlInit_success closed init
  refine ⟨nbrFds host.watched, ?_, ?_⟩
  · rw [watched, registers.count]
    exact Nat.lt_succ_self _
  · rw [watched, registers.added]

/-- No step of the loop changes the table or the descriptor of the TUN. -/
theorem workerStep_watching {worker next : WorkerState Context} {action : WorkerAction}
    {output : WorkerOutput Context} (invariant : WorkerInvariant worker) (watching : Watching worker)
    (taken : workerStep library build worker action = some (next, output)) : Watching next := by
  cases workerStep_path taken with
  | arrive packet => exact watching
  | poll result truthful =>
      have polled := poll_notified invariant truthful
      unfold Watching
      rw [polled.watched, polled.tunFd]
      exact watching
  | process errors reply result path =>
      rcases path.idle_or_handled with ⟨status, al, rfl, same⟩ | ⟨packet, rest, -, free, rfl⟩
      · rcases same with rfl | rfl <;> exact watching
      · have changes := @handlePacket_busy _ library build _
          ((cleared_ongoing worker.al).trans free) packet rest reply
        unfold Watching
        dsimp only
        rw [changes.tunFd]
        exact watching
  | transmissionResult status error pending => exact watching
  | delivered buffer dataSize writeFails =>
      obtain ⟨oscCtx, state, -⟩ := schcAlForwardUp_state library build worker.al buffer dataSize writeFails
      unfold Watching
      dsimp only
      rw [state]
      exact watching
  | undelivered => exact watching

theorem reachable_watching {worker : WorkerState Context}
    (reached : (workerSystem library build mode).Reachable worker) : Watching worker := by
  apply @LabelledSystem.Reachable.invariant _ _ _ (workerSystem library build mode) Watching _ _ _ reached
  · intro worker initial
    exact started_watching initial
  · intro worker action next output reached watching taken
    exact workerStep_watching (reachable_invariant reached) watching taken

/-- A callback keeps the table, and it never takes the notification back. -/
theorem runCallback_kept (callback : Callback) (worker : WorkerState Context) :
    (runCallback callback worker).watched = worker.watched ∧
      (worker.al.event.has ipPacketAvailable = true →
        (runCallback callback worker).al.event.has ipPacketAvailable = true) := by
  cases callback with
  | l2 index => exact ⟨rfl, id⟩
  | schcAlTunReceivedHandler => exact ⟨rfl, fun _ => (raise_ipPacket worker.al.event).2⟩

/-- A slot keeps the table and a notification, and the slot of the TUN raises the notification. -/
theorem runSlot_kept (reported : Nat → Bool) (worker : WorkerState Context) (idx : Nat) :
    (runSlot WorkerState.watched runCallback reported worker idx).watched = worker.watched ∧
      (worker.al.event.has ipPacketAvailable = true ∨
        (reported idx = true ∧ (worker.watched idx).cb = some .schcAlTunReceivedHandler) →
        (runSlot WorkerState.watched runCallback reported worker idx).al.event.has ipPacketAvailable = true) := by
  unfold runSlot
  split
  · split
    · rename_i callback found
      obtain ⟨table, kept⟩ := runCallback_kept callback worker
      refine ⟨table, ?_⟩
      rintro (already | ⟨-, handler⟩)
      · exact kept already
      · rw [found] at handler
        rw [Option.some.inj handler]
        exact (raise_ipPacket worker.al.event).2
    · rename_i missing
      refine ⟨rfl, ?_⟩
      rintro (already | ⟨-, handler⟩)
      · exact already
      · rw [missing] at handler
        contradiction
  · rename_i silent
    refine ⟨rfl, ?_⟩
    rintro (already | ⟨reported, -⟩)
    · exact already
    · exact absurd reported silent

/-- A poll round that reports the TUN notifies the layer. -/
theorem poll_raises {worker : WorkerState Context} (watching : Watching worker) {readable : Int → Bool}
    (reported : readable worker.al.tunFd = true) :
    (platformEnterLowPowerLl WorkerState.watched runCallback (.ready readable) worker).al.event.has
      ipPacketAvailable = true := by
  obtain ⟨idx, inside, slot⟩ := watching
  have slots : ∀ (indices : List Nat) (current : WorkerState Context), current.watched = worker.watched →
      (current.al.event.has ipPacketAvailable = true ∨ idx ∈ indices) →
      (indices.foldl (runSlot WorkerState.watched runCallback fun idx => readable (worker.watched idx).fd)
        current).al.event.has ipPacketAvailable = true := by
    intro indices
    induction indices with
    | nil =>
        intro current _ either
        exact either.resolve_right List.not_mem_nil
    | cons first rest ih =>
        intro current table either
        obtain ⟨kept, raised⟩ := runSlot_kept (fun idx => readable (worker.watched idx).fd) current first
        apply ih _ (kept.trans table)
        rcases either with already | member
        · exact Or.inl (raised (Or.inl already))
        · rcases List.mem_cons.mp member with rfl | later
          · refine Or.inl (raised (Or.inr ⟨?_, ?_⟩))
            · rw [slot]
              exact reported
            · rw [table, slot]
          · exact Or.inr later
  exact slots _ worker rfl (Or.inr (List.mem_range.mpr inside))

/-- Two states of the worker have the same security context, the same buffer and the same TUN. -/
structure LayerKept (before after : WorkerState Context) : Prop where
  oscore : after.al.oscore = before.al.oscore
  netBuffer : after.al.netBuffer = before.al.netBuffer
  tunFd : after.al.tunFd = before.al.tunFd

theorem layerKept_refl (worker : WorkerState Context) : LayerKept worker worker := ⟨rfl, rfl, rfl⟩

/-- A poll round changes at most the notification of the layer. -/
theorem poll_layer (worker : WorkerState Context) (result : PollResult) :
    LayerKept worker (platformEnterLowPowerLl WorkerState.watched runCallback result worker) := by
  apply platformEnterLowPowerLl_invariant (layerKept_refl worker)
  intro readable current idx callback reported inside ready found holds
  cases callback with
  | l2 index => exact holds
  | schcAlTunReceivedHandler => exact ⟨holds.oscore, holds.netBuffer, holds.tunFd⟩

/-- One turn of the loop polls a readable TUN and processes its oldest packet. -/
def turn (reply : NetSendtoReply) : List WorkerAction := [.poll (.ready fun _ => true), .process [] reply]

/-- The layer handles a packet in a state that differs from the one before the turn only in its notification. -/
structure Noticed (before after : SchcAl Context) : Prop where
  idle : Idle after
  oscore : after.oscore = before.oscore

/-- A turn with a waiting packet and no outstanding result hands the packet to the layer. -/
theorem exec_turn {worker : WorkerState Context} (invariant : WorkerInvariant worker) (watching : Watching worker)
    (idle : worker.outstanding = 0) {packet : List UInt8} {rest : List (List UInt8)}
    (oldest : worker.tun = packet :: rest) {reply : NetSendtoReply} (legal : reply.Legal) :
    ∃ al, Noticed worker.al al ∧
      let result := handlePacket library build al packet rest reply
      (workerSystem library build mode).exec worker (turn reply) =
        some (⟨result.state, worker.watched, result.tun, if result.frame.isSome then reply.pending else 0⟩,
          [(.poll (.ready fun _ => true), ⟨none, none⟩), (.process [] reply, ⟨some result, none⟩)]) := by
  let polled := platformEnterLowPowerLl WorkerState.watched runCallback (.ready fun _ => true) worker
  have truthful : PollTruthful worker (.ready fun _ => true) := by
    show true = !worker.tun.isEmpty
    rw [oldest]
    rfl
  have notified := poll_notified invariant truthful
  have raised : polled.al.event.has ipPacketAvailable = true := poll_raises watching rfl
  have free : polled.al.cleared.event.has ongoingTransmission = false := by
    rw [cleared_ongoing, notified.ongoing, invariant.busy, idle]
    rfl
  have opened : 0 ≤ polled.al.cleared.tunFd := by
    show 0 ≤ polled.al.tunFd
    rw [notified.tunFd]
    exact invariant.opened
  have kept := poll_layer worker (.ready fun _ => true)
  have processed : schcAlProcess library build polled.al polled.tun [] reply =
      some (handlePacket library build polled.al.cleared packet rest reply) := by
    have unfolded : schcAlProcess library build polled.al polled.tun [] reply =
        schcAlSendDown library build polled.al.cleared polled.tun [] reply := if_pos raised
    rw [unfolded, show polled.tun = packet :: rest from notified.tun.trans oldest]
    exact schcAlSendDown_packet library build ⟨opened, free⟩ packet rest 0 reply
  refine ⟨polled.al.cleared, ⟨⟨opened, free⟩, kept.oscore⟩, ?_⟩
  · have polls : workerStep library build worker (.poll (.ready fun _ => true)) = some (polled, ⟨none, none⟩) :=
      if_pos truthful
    have processes : workerStep library build polled (.process [] reply) =
        some (⟨(handlePacket library build polled.al.cleared packet rest reply).state, worker.watched,
          (handlePacket library build polled.al.cleared packet rest reply).tun,
          if (handlePacket library build polled.al.cleared packet rest reply).frame.isSome then reply.pending else 0⟩,
          ⟨some (handlePacket library build polled.al.cleared packet rest reply), none⟩) := by
      simp only [workerStep, if_pos legal, processed, Option.map_some]
      rw [show polled.watched = worker.watched from notified.watched,
        show polled.outstanding = 0 from notified.outstanding.trans idle, Nat.zero_add]
    simp only [turn, LabelledSystem.exec, workerSystem, polls, processes, Option.bind_some, Option.map_some]

/-- The environment of the loop gives these replies and reports, and neither packets nor deliveries arrive. -/
def Answers (reply : NetSendtoReply) (status : NetStatus) (error : Nat) : WorkerAction → Prop
  | .poll _ => True
  | .process errors given => errors = [] ∧ given = reply
  | .transmissionResult reported code => reported = status ∧ code = error
  | _ => False

theorem handlePacket_taken (library : Uoscore Context) (build : Build) (state : SchcAl Context)
    (packet : List UInt8) (rest : List (List UInt8)) (reply : NetSendtoReply) :
    (handlePacket library build state packet rest reply).taken = some packet ∧
      (handlePacket library build state packet rest reply).tun = rest := by
  have path := handlePacket_path library build state packet rest reply
  generalize handlePacket library build state packet rest reply = result at path
  cases path with
  | discarded reason decided => exact ⟨rfl, rfl⟩
  | submitted pktLen decided => exact ⟨rfl, rfl⟩

/-- The worker can go on to a state without an outstanding result, and these packets are taken on the way. -/
def CanTake (library : Uoscore Context) (build : Build) (mode : PeerMode) (allowed : WorkerAction → Prop)
    (worker : WorkerState Context) (packets rest : List (List UInt8)) : Prop :=
  ∃ actions final trace, (∀ action ∈ actions, allowed action) ∧
    (workerSystem library build mode).exec worker actions = some (final, trace) ∧
    takenPackets trace = packets ∧ final.tun = rest ∧ final.outstanding = 0 ∧
    WorkerInvariant final ∧ Watching final

variable {reply : NetSendtoReply} {status : NetStatus} {error : Nat}

/-- A report makes a worker with an outstanding result free again. -/
theorem canTake_nothing {worker : WorkerState Context} (invariant : WorkerInvariant worker)
    (watching : Watching worker) :
    CanTake library build mode (Answers reply status error) worker [] worker.tun := by
  by_cases idle : worker.outstanding = 0
  · exact ⟨[], worker, [], nofun, rfl, rfl, rfl, idle, invariant, watching⟩
  · let freed : WorkerState Context :=
      { worker with al := netTransmissionResult worker.al status error, outstanding := worker.outstanding - 1 }
    have reported : workerStep library build worker (.transmissionResult status error) = some (freed, ⟨none, none⟩) :=
      if_pos (Nat.pos_of_ne_zero idle)
    have single := invariant.single
    have stays := workerStep_invariant invariant reported
    have watches := workerStep_watching invariant watching reported
    refine ⟨[.transmissionResult status error], freed, [(.transmissionResult status error, ⟨none, none⟩)], ?_, ?_, rfl,
      rfl, ?_, stays, watches⟩
    · intro action member
      rw [List.mem_singleton.mp member]
      exact ⟨rfl, rfl⟩
    · simp only [LabelledSystem.exec, workerSystem, reported, Option.bind_some, Option.map_some]
    · show worker.outstanding - 1 = 0
      omega

theorem CanTake.append {allowed : WorkerAction → Prop} {worker : WorkerState Context}
    {first second middle rest : List (List UInt8)}
    (takes : CanTake library build mode allowed worker first middle)
    (continues : ∀ next : WorkerState Context, next.tun = middle → next.outstanding = 0 → WorkerInvariant next →
      Watching next → CanTake library build mode allowed next second rest) :
    CanTake library build mode allowed worker (first ++ second) rest := by
  obtain ⟨actions, next, trace, firstAllowed, executed, taken, tun, idle, invariant, watching⟩ := takes
  obtain ⟨others, final, suffix, secondAllowed, continued, others_taken, ended⟩ :=
    continues next tun idle invariant watching
  refine ⟨actions ++ others, final, trace ++ suffix, ?_, LabelledSystem.exec_append executed continued, ?_, ended⟩
  · intro action member
    rcases List.mem_append.mp member with earlier | later
    · exact firstAllowed action earlier
    · exact secondAllowed action later
  · rw [takenPackets, List.filterMap_append]
    exact congrArg₂ (· ++ ·) taken others_taken

/-- Executions keep the invariant of the loop and the entry of the TUN. -/
theorem exec_kept {worker final : WorkerState Context} {actions : List WorkerAction}
    {trace : List (WorkerAction × WorkerOutput Context)} (invariant : WorkerInvariant worker)
    (watching : Watching worker)
    (executed : (workerSystem library build mode).exec worker actions = some (final, trace)) :
    WorkerInvariant final ∧ Watching final := by
  induction actions generalizing worker trace with
  | nil =>
      obtain ⟨rfl, rfl⟩ := Prod.mk.inj (Option.some.inj executed)
      exact ⟨invariant, watching⟩
  | cons action rest ih =>
      obtain ⟨⟨next, output⟩, taken, remaining⟩ := Option.bind_eq_some_iff.mp executed
      obtain ⟨⟨last, tail⟩, executedRest, same⟩ := Option.map_eq_some_iff.mp remaining
      obtain ⟨rfl, rfl⟩ := Prod.mk.inj same
      exact ih (workerStep_invariant invariant taken) (workerStep_watching invariant watching taken) executedRest

/-- A turn and a report bring the oldest packet out of the TUN. -/
theorem canTake_oldest {worker : WorkerState Context} (invariant : WorkerInvariant worker)
    (watching : Watching worker) (idle : worker.outstanding = 0) (legal : reply.Legal) {packet : List UInt8}
    {rest : List (List UInt8)} (oldest : worker.tun = packet :: rest) :
    CanTake library build mode (Answers reply status error) worker [packet] rest := by
  obtain ⟨al, -, executed⟩ := @exec_turn _ library build mode _ invariant watching idle _ _ oldest _ legal
  obtain ⟨taken, tun⟩ := handlePacket_taken library build al packet rest reply
  obtain ⟨kept, watches⟩ := exec_kept invariant watching executed
  obtain ⟨actions, final, suffix, allowed, continued, nothing, left, ended⟩ :=
    @canTake_nothing _ library build mode reply status error _ kept watches
  refine ⟨turn reply ++ actions, final, _, ?_, LabelledSystem.exec_append executed continued, ?_, left.trans tun, ended⟩
  · intro action member
    rcases List.mem_append.mp member with inTurn | later
    · rcases List.mem_pair.mp inTurn with rfl | rfl
      · exact trivial
      · exact ⟨rfl, rfl⟩
    · exact allowed action later
  · rw [takenPackets, List.filterMap_append]
    apply (congrArg₂ (· ++ ·) _ nothing).trans (List.append_nil _)
    show takenPackets [_, (_, (⟨some _, none⟩ : WorkerOutput Context))] = [packet]
    rw [takenPackets_cons, takenPackets_cons, Option.bind_some, taken]
    rfl

/-- Turns and reports empty the TUN in order. -/
theorem canTake_all {worker : WorkerState Context} (invariant : WorkerInvariant worker) (watching : Watching worker)
    (legal : reply.Legal) : CanTake library build mode (Answers reply status error) worker worker.tun [] := by
  have fromIdle : ∀ (packets : List (List UInt8)) (worker : WorkerState Context), worker.tun = packets →
      worker.outstanding = 0 → WorkerInvariant worker → Watching worker →
      CanTake library build mode (Answers reply status error) worker packets [] := by
    intro packets
    induction packets with
    | nil =>
        intro worker tun _ invariant watching
        have nothing := @canTake_nothing _ library build mode reply status error _ invariant watching
        rwa [tun] at nothing
    | cons packet rest ih =>
        intro worker tun idle invariant watching
        exact (canTake_oldest invariant watching idle legal tun).append ih
  exact (canTake_nothing invariant watching).append (fromIdle worker.tun)

/-- While a result is outstanding and the SDK reports nothing, the layer takes no packet and submits no frame.
When the SDK answers, the loop can take every waiting packet in order. -/
theorem worker_progress {worker : WorkerState Context}
    (reached : (workerSystem library build mode).Reachable worker) :
    (worker.outstanding ≠ 0 → ∀ actions final trace, (∀ action ∈ actions, action.reports = false) →
      (workerSystem library build mode).exec worker actions = some (final, trace) →
      takenPackets trace = [] ∧ frames trace = [] ∧ final.tun = worker.tun ++ arrivals trace) ∧
    (∀ reply : NetSendtoReply, reply.Legal → ∀ status error,
      CanTake library build mode (Answers reply status error) worker worker.tun []) := by
  have invariant := reachable_invariant reached
  constructor
  · intro outstanding actions final trace silent executed
    exact exec_blocked invariant outstanding silent executed
  · intro reply legal status error
    exact canTake_all invariant (reachable_watching reached) legal

/-- One packet is on its way and one waits. The wait ends only with a report. -/
theorem plainBuild_progress :
    ∃ worker, worker.outstanding = 1 ∧ worker.tun = [shortTailPacket] ∧
      (worker.outstanding ≠ 0 → ∀ actions final trace, (∀ action ∈ actions, action.reports = false) →
        (workerSystem copyLibrary plainBuild .device).exec worker actions = some (final, trace) →
        takenPackets trace = [] ∧ frames trace = [] ∧ final.tun = worker.tun ++ arrivals trace) ∧
      (∀ reply : NetSendtoReply, reply.Legal → ∀ status error,
        CanTake copyLibrary plainBuild .device (Answers reply status error) worker worker.tun []) := by
  have start : (workerSystem copyLibrary plainBuild .device).Run (bootedWorker copyLibrary plainBuild) [] :=
    .start (bootedWorker_started (by decide))
  have first := @LabelledSystem.Run.extend _ _ _ _ _ _ _ (.arrive shortTailPacket) _ start rfl
  have second := @LabelledSystem.Run.extend _ _ _ _ _ _ _ (.arrive shortTailPacket) _ first rfl
  have polled := @LabelledSystem.Run.extend _ _ _ _ _ _ _ (.poll (.ready fun _ => true)) _ second rfl
  have sent := @LabelledSystem.Run.extend _ _ _ _ _ _ _ (.process [] ⟨.success, none⟩) _ polled rfl
  exact ⟨_, rfl, rfl, worker_progress ⟨_, sent⟩⟩

end SchcWork.Worker
