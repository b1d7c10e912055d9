import Mathlib.Data.List.Nodup
import SchcWork.Worker.MainLoop

namespace SchcWork.Worker

open Net Platform

variable {Context : Type}

/-- The end of the layer releases an open TUN. -/
def releaseTun (state : SchcAl Context) (host : Host) : SchcAl Context × Host :=
  if 0 ≤ state.tunFd then
    ({ state with tunFd := -1 },
      ⟨(unwatchFdForInput host.watched state.tunFd).2, host.openTuns.erase state.tunFd⟩)
  else (state, host)

def schcAlTerminate (state : SchcAl Context) (host : Host) : Int × SchcAl Context × Host :=
  let released := releaseTun state host
  (0, { released.1 with event := EventWord.none, processingRequired := false }, released.2)

/-- These are the calls of the process on the layer and on the watch table. Each call carries the replies of the
kernel, of the SDK and of uoscore, and the L2 layer unwatches its own descriptors only. -/
inductive LifecycleAction (Context : Type) where
  | schcAlInit (library : Uoscore Context) (setup : TunSetup)
  | schcAlProcess (library : Uoscore Context) (tun : List (List UInt8)) (errors : List Errno) (reply : NetSendtoReply)
  | schcAlTerminate
  | l2Watch (fd : Int) (index : Nat)
  | l2Unwatch (fd : Int)

/-- The process holds the static variables of the layer and its part of the host. -/
structure Process (Context : Type) where
  al : SchcAl Context
  host : Host

def boolResult (success : Bool) : Int := if success then 1 else 0

def lifecycleStep (build : Build) (mode : PeerMode) (process : Process Context) (action : LifecycleAction Context) :
    Option (Process Context × Int) :=
  match action with
  | .schcAlInit library setup =>
      let result := schcAlInit library build mode process.al process.host setup
      some (⟨result.2.1, result.2.2⟩, result.1)
  | .schcAlProcess library tun errors reply =>
      (schcAlProcess library build process.al tun errors reply).map fun result =>
        ({ process with al := result.state }, 0)
  | .schcAlTerminate =>
      let result := schcAlTerminate process.al process.host
      some (⟨result.2.1, result.2.2⟩, result.1)
  | .l2Watch fd index =>
      let result := watchFdForInput process.host.watched fd (Callback.l2 index)
      some ({ process with host := { process.host with watched := result.2 } }, boolResult result.1)
  | .l2Unwatch fd =>
      if fd = process.al.tunFd then none
      else
        let result := unwatchFdForInput process.host.watched fd
        some ({ process with host := { process.host with watched := result.2 } }, boolResult result.1)

/-- The process starts with a closed TUN and the static watch table. -/
def lifecycleSystem (build : Build) (mode : PeerMode) :
    LabelledSystem (Process Context) (LifecycleAction Context) Int where
  initial process := process.al.tunFd = -1 ∧ process.host = ⟨watchedFds, []⟩
  step := lifecycleStep build mode

/-- This is the entry of a TUN descriptor in the watch table. -/
def tunEntry (fd : Int) : WatchedFd Callback := ⟨fd, some .schcAlTunReceivedHandler⟩

/-- The entries have distinct descriptors, and only an open TUN has the handler. -/
structure TunOwned (watched : WatchTable Callback) (tunFd : Int) : Prop where
  distinct : ((entries watched).map WatchedFd.fd).Nodup
  valid : ∀ entry ∈ entries watched, 0 ≤ entry.fd
  owned : ∀ entry ∈ entries watched, entry.cb = some .schcAlTunReceivedHandler → entry.fd = tunFd

/-- The variable, the open descriptor and the table entry agree. -/
structure TunInvariant (tunFd : Int) (host : Host) : Prop where
  table : TunOwned host.watched tunFd
  opened : 0 ≤ tunFd → host.openTuns = [tunFd] ∧ tunEntry tunFd ∈ entries host.watched
  closed : tunFd < 0 → host.openTuns = []

section Table

variable {table next : WatchTable Callback} {tunFd : Int}

/-- A registration of another callback keeps the owner of the handler. -/
theorem TunOwned.registers (owned : TunOwned table tunFd) {fd : Int} {callback : Callback} {owner : Int}
    (registers : Registers table next fd callback) (valid : 0 ≤ fd) (fresh : ∀ entry ∈ entries table, entry.fd ≠ fd)
    (kept : ∀ entry ∈ entries table, entry.cb = some .schcAlTunReceivedHandler → entry.fd = owner)
    (added : callback = .schcAlTunReceivedHandler → fd = owner) : TunOwned next owner where
  distinct := registers.fds_nodup owned.distinct fresh
  valid := registers.forall_entries owned.valid valid
  owned := registers.forall_entries kept fun handler => added (Option.some.inj handler)

/-- A removal keeps every property of all entries. -/
theorem TunOwned.removes (owned : TunOwned table tunFd) {idx : Nat} (used : idx < nbrFds table)
    (removes : Removes table next idx) : TunOwned next tunFd where
  distinct := (List.nodup_cons.mp (removes.fds_nodup used owned.distinct)).2
  valid := fun entry member => owned.valid entry (removes.mem_entries used member)
  owned := fun entry member => owned.owned entry (removes.mem_entries used member)

/-- The removed descriptor has no other entry. -/
theorem TunOwned.removed_fresh (owned : TunOwned table tunFd) {idx : Nat} (used : idx < nbrFds table)
    (removes : Removes table next idx) : ∀ entry ∈ entries next, entry.fd ≠ (table idx).fd := by
  have removed := (List.nodup_cons.mp (removes.fds_nodup used owned.distinct)).1
  intro entry member same
  apply removed
  rw [← same]
  exact List.mem_map_of_mem member

/-- The handler has no entry while the TUN is closed. -/
theorem TunOwned.unregistered (owned : TunOwned table tunFd) (closed : tunFd < 0) :
    ∀ entry ∈ entries table, entry.cb ≠ some .schcAlTunReceivedHandler := by
  intro entry member handler
  have valid := owned.valid entry member
  rw [owned.owned entry member handler] at valid
  omega

end Table

/-- Each constructor is one outcome of opening the TUN with its guards. -/
inductive OpenTunPath (state : SchcAl Context) (host : Host) (setup : TunSetup) :
    Int × SchcAl Context × Host → Prop where
  | reentered (opened : 0 ≤ state.tunFd) : OpenTunPath state host setup (0, state, host)
  | notCreated (closed : state.tunFd < 0) (failed : setup.createTun < 0) :
      OpenTunPath state host setup (-1, { state with tunFd := setup.createTun }, host)
  | released (closed : state.tunFd < 0) (created : 0 ≤ setup.createTun) :
      OpenTunPath state host setup (-1, { state with tunFd := -1 }, host)
  | registered (closed : state.tunFd < 0) (created : 0 ≤ setup.createTun) (table : WatchTable Callback)
      (event : EventWord) (fresh : ∀ entry ∈ entries host.watched, entry.fd ≠ setup.createTun)
      (registers : Registers host.watched table setup.createTun .schcAlTunReceivedHandler) :
      OpenTunPath state host setup
        (0, { state with tunFd := setup.createTun, event := event, processingRequired := true },
          ⟨table, setup.createTun :: host.openTuns⟩)

/-- The failing steps behind `createTun` close the descriptor that it opened. -/
theorem closeTun_created (state : SchcAl Context) (host : Host) (fd : Int) :
    closeTun { state with tunFd := fd } { host with openTuns := fd :: host.openTuns } =
      (-1, { state with tunFd := -1 }, host) := by
  simp only [closeTun, List.erase_cons_head]

theorem openTun_path (state : SchcAl Context) (host : Host) (setup : TunSetup) :
    OpenTunPath state host setup (openTun state host setup) := by
  unfold openTun
  split
  · rename_i opened
    exact .reentered opened
  · rename_i closed
    have negative : state.tunFd < 0 := Int.not_le.mp closed
    dsimp only
    split
    · rename_i failed
      exact .notCreated negative failed
    · rename_i valid
      have created : 0 ≤ setup.createTun := Int.not_lt.mp valid
      simp only [closeTun_created]
      split
      · exact .released negative created
      · split
        · exact .released negative created
        · split
          · exact .released negative created
          · have path := watchFdForInput_path host.watched setup.createTun Callback.schcAlTunReceivedHandler
            generalize watchFdForInput host.watched setup.createTun Callback.schcAlTunReceivedHandler = watch at path
            cases path with
            | refused reason => exact .released negative created
            | added valid fresh room table registers above => exact .registered negative created table _ fresh registers

/-- An initialization without a security context changes neither the TUN nor the table, and every other one opens the
TUN from a state with the same descriptor. -/
theorem schcAlInit_cases (library : Uoscore Context) (build : Build) (mode : PeerMode) (state : SchcAl Context)
    (host : Host) (setup : TunSetup) :
    (∃ after, after.tunFd = state.tunFd ∧ schcAlInit library build mode state host setup = (-1, after, host)) ∨
      ∃ before, before.tunFd = state.tunFd ∧
        schcAlInit library build mode state host setup = openTun before host setup := by
  unfold schcAlInit
  dsimp only
  split
  · split
    · refine .inl ⟨_, ?_, rfl⟩
      rfl
    · refine .inr ⟨_, ?_, rfl⟩
      rfl
  · refine .inr ⟨_, ?_, rfl⟩
    rfl

section Calls

variable {host : Host} {tunFd : Int}

/-- A closed TUN may change its negative descriptor. -/
theorem TunInvariant.stays_closed (invariant : TunInvariant tunFd host) (closed : tunFd < 0) {fd : Int}
    (negative : fd < 0) : TunInvariant fd host := by
  refine ⟨⟨invariant.table.distinct, invariant.table.valid, ?_⟩, ?_, ?_⟩
  · intro entry member handler
    exact absurd handler (invariant.table.unregistered closed entry member)
  · intro opened
    omega
  · intro _
    exact invariant.closed closed

/-- Opening the TUN keeps the invariant, and a failure from a closed TUN leaves it closed. -/
theorem openTun_invariant {state : SchcAl Context} (invariant : TunInvariant state.tunFd host) (setup : TunSetup) :
    TunInvariant (openTun state host setup).2.1.tunFd (openTun state host setup).2.2 ∧
      ((openTun state host setup).1 ≠ 0 → (openTun state host setup).2.1.tunFd < 0) := by
  have path := openTun_path state host setup
  generalize openTun state host setup = result at path
  cases path with
  | reentered opened => exact ⟨invariant, fun failed => absurd rfl failed⟩
  | notCreated closed failed => exact ⟨invariant.stays_closed closed failed, fun _ => failed⟩
  | released closed created =>
      have negative : (-1 : Int) < 0 := by decide
      exact ⟨invariant.stays_closed closed negative, fun _ => negative⟩
  | registered closed created table event fresh registers =>
      refine ⟨⟨?_, ?_, ?_⟩, fun failed => absurd rfl failed⟩
      · apply invariant.table.registers registers created fresh
        · intro entry member handler
          exact absurd handler (invariant.table.unregistered closed entry member)
        · intro _
          rfl
      · intro _
        constructor
        · show setup.createTun :: host.openTuns = [setup.createTun]
          rw [invariant.closed closed]
        · show tunEntry setup.createTun ∈ entries table
          rw [registers.entries_eq]
          exact List.mem_append_right _ (List.mem_singleton_self _)
      · intro negative
        change setup.createTun < 0 at negative
        omega

/-- Every initialization keeps the invariant, and a failure from a closed TUN leaves it closed. -/
theorem schcAlInit_invariant (library : Uoscore Context) (build : Build) (mode : PeerMode) {state : SchcAl Context}
    (invariant : TunInvariant state.tunFd host) (setup : TunSetup) :
    TunInvariant (schcAlInit library build mode state host setup).2.1.tunFd
        (schcAlInit library build mode state host setup).2.2 ∧
      (state.tunFd < 0 → (schcAlInit library build mode state host setup).1 ≠ 0 →
        (schcAlInit library build mode state host setup).2.1.tunFd < 0) := by
  rcases schcAlInit_cases library build mode state host setup with ⟨after, same, result⟩ | ⟨before, same, result⟩
  · rw [result]
    constructor
    · show TunInvariant after.tunFd host
      rwa [same]
    · intro closed _
      show after.tunFd < 0
      rwa [same]
  · rw [result]
    rw [← same] at invariant
    obtain ⟨kept, failing⟩ := openTun_invariant invariant setup
    exact ⟨kept, fun _ => failing⟩

/-- A termination closes and unregisters the TUN. -/
theorem schcAlTerminate_invariant {state : SchcAl Context} (invariant : TunInvariant state.tunFd host) :
    TunInvariant (schcAlTerminate state host).2.1.tunFd (schcAlTerminate state host).2.2 := by
  show TunInvariant (releaseTun state host).1.tunFd (releaseTun state host).2
  unfold releaseTun
  split
  · rename_i opened
    obtain ⟨single, registered⟩ := invariant.opened opened
    have path := unwatchFdForInput_path host.watched state.tunFd
    generalize unwatchFdForInput host.watched state.tunFd = result at path
    cases path with
    | refused reason =>
        rcases reason with negative | absent
        · omega
        · exact absurd rfl (absent _ registered)
    | removed idx used same next removes =>
        have owned := invariant.table.removes used removes
        refine ⟨⟨owned.distinct, owned.valid, ?_⟩, ?_, ?_⟩
        · intro entry member handler
          have other := invariant.table.removed_fresh used removes entry member
          rw [same] at other
          exact absurd (owned.owned entry member handler) other
        · intro impossible
          change (0 : Int) ≤ -1 at impossible
          omega
        · intro _
          show host.openTuns.erase state.tunFd = []
          rw [single, List.erase_cons_head]
  · rename_i closed
    exact invariant

/-- The L2 layer registers its own callbacks only. -/
theorem l2Watch_invariant (invariant : TunInvariant tunFd host) (fd : Int) (index : Nat) :
    TunInvariant tunFd { host with watched := (watchFdForInput host.watched fd (Callback.l2 index)).2 } := by
  have path := watchFdForInput_path host.watched fd (Callback.l2 index)
  generalize watchFdForInput host.watched fd (Callback.l2 index) = result at path
  cases path with
  | refused reason => exact invariant
  | added valid fresh room next registers above =>
      refine ⟨?_, ?_, invariant.closed⟩
      · apply invariant.table.registers registers valid fresh invariant.table.owned
        intro handler
        cases handler
      · intro opened
        obtain ⟨single, registered⟩ := invariant.opened opened
        refine ⟨single, ?_⟩
        show tunEntry tunFd ∈ entries next
        rw [registers.entries_eq]
        exact List.mem_append_left _ registered

/-- The removal of another descriptor keeps the TUN. -/
theorem l2Unwatch_invariant (invariant : TunInvariant tunFd host) {fd : Int} (other : fd ≠ tunFd) :
    TunInvariant tunFd { host with watched := (unwatchFdForInput host.watched fd).2 } := by
  have path := unwatchFdForInput_path host.watched fd
  generalize unwatchFdForInput host.watched fd = result at path
  cases path with
  | refused reason => exact invariant
  | removed idx used same next removes =>
      refine ⟨invariant.table.removes used removes, ?_, invariant.closed⟩
      intro opened
      obtain ⟨single, registered⟩ := invariant.opened opened
      refine ⟨single, ?_⟩
      show tunEntry tunFd ∈ entries next
      have found := (removes.entries_perm used).symm.subset registered
      rcases List.mem_cons.mp found with removed | kept
      · have descriptor : tunFd = fd := by
          rw [← same, ← removed]
          rfl
        exact absurd descriptor.symm other
      · exact kept

end Calls

/-- Processing keeps the descriptor of the TUN. -/
theorem schcAlProcess_tunFd {library : Uoscore Context} {build : Build} {state : SchcAl Context}
    {tun : List (List UInt8)} {errors : List Errno} {reply : NetSendtoReply} {result : SendDown Context}
    (ran : schcAlProcess library build state tun errors reply = some result) : result.state.tunFd = state.tunFd := by
  cases schcAlProcess_path ran with
  | unnotified quiet => rfl
  | closed notified closed => rfl
  | busy notified ongoing => rfl
  | unread notified status other => rfl
  | handled notified free packet rest oldest =>
      have idle : state.cleared.event.has ongoingTransmission = false := by
        rw [cleared_ongoing]
        exact free
      exact (handlePacket_busy idle packet rest reply).tunFd

theorem lifecycleStep_invariant {build : Build} {mode : PeerMode} {process next : Process Context}
    {action : LifecycleAction Context} {output : Int} (invariant : TunInvariant process.al.tunFd process.host)
    (taken : lifecycleStep build mode process action = some (next, output)) :
    TunInvariant next.al.tunFd next.host := by
  cases action with
  | schcAlInit library setup =>
      obtain ⟨rfl, -⟩ := Prod.mk.inj (Option.some.inj taken)
      exact (schcAlInit_invariant library build mode invariant setup).1
  | schcAlProcess library tun errors reply =>
      obtain ⟨result, ran, same⟩ := Option.map_eq_some_iff.mp taken
      obtain ⟨rfl, -⟩ := Prod.mk.inj same
      show TunInvariant result.state.tunFd process.host
      rw [schcAlProcess_tunFd ran]
      exact invariant
  | schcAlTerminate =>
      obtain ⟨rfl, -⟩ := Prod.mk.inj (Option.some.inj taken)
      exact schcAlTerminate_invariant invariant
  | l2Watch fd index =>
      obtain ⟨rfl, -⟩ := Prod.mk.inj (Option.some.inj taken)
      exact l2Watch_invariant invariant fd index
  | l2Unwatch fd =>
      unfold lifecycleStep at taken
      dsimp only at taken
      split at taken
      · cases taken
      · rename_i other
        obtain ⟨rfl, -⟩ := Prod.mk.inj (Option.some.inj taken)
        exact l2Unwatch_invariant invariant other

/-- The static table has no entry. -/
theorem watchedFds_entries : entries (watchedFds : WatchTable Callback) = [] := by
  have none : nbrFds (watchedFds : WatchTable Callback) = 0 := by decide
  rw [entries, none]
  rfl

theorem lifecycle_invariant {build : Build} {mode : PeerMode} {process : Process Context}
    (reached : (lifecycleSystem build mode).Reachable process) : TunInvariant process.al.tunFd process.host := by
  apply @LabelledSystem.Reachable.invariant _ _ _ (lifecycleSystem build mode) (fun process =>
    TunInvariant process.al.tunFd process.host) _ _ _ reached
  · rintro process ⟨closed, host⟩
    have nothing (entry : WatchedFd Callback) (member : entry ∈ entries watchedFds) : False := by
      rw [watchedFds_entries] at member
      cases member
    rw [closed, host]
    refine ⟨⟨?_, ?_, ?_⟩, ?_, fun _ => rfl⟩
    · show ((entries watchedFds).map WatchedFd.fd).Nodup
      rw [watchedFds_entries]
      exact List.nodup_nil
    · exact fun entry member => (nothing entry member).elim
    · exact fun entry member => (nothing entry member).elim
    · intro opened
      omega
  · intro process action next output _ invariant taken
    exact lifecycleStep_invariant invariant taken

/-- The TUN variable is valid exactly when an open TUN has the handler, at most one TUN is open, and a failing
initialization from a closed TUN leaves none open and none registered. -/
structure TunLifecycle (build : Build) (mode : PeerMode) (process : Process Context) : Prop where
  registered : 0 ≤ process.al.tunFd ↔
    ∃ fd ∈ process.host.openTuns, tunEntry fd ∈ entries process.host.watched
  valid : 0 ≤ process.al.tunFd →
    process.al.tunFd ∈ process.host.openTuns ∧ tunEntry process.al.tunFd ∈ entries process.host.watched
  single : process.host.openTuns.length ≤ 1
  failing : ∀ library setup next result, process.al.tunFd < 0 →
    (lifecycleSystem build mode).step process (.schcAlInit library setup) = some (next, result) → result ≠ 0 →
      next.al.tunFd < 0 ∧ next.host.openTuns = [] ∧
        ∀ entry ∈ entries next.host.watched, entry.cb ≠ some .schcAlTunReceivedHandler

/-- In every reachable state the variable, the open descriptor and the table entry of the TUN agree. -/
theorem tunLifecycle (build : Build) (mode : PeerMode) (process : Process Context)
    (reached : (lifecycleSystem build mode).Reachable process) : TunLifecycle build mode process := by
  have invariant := lifecycle_invariant reached
  constructor
  · constructor
    · intro opened
      obtain ⟨single, registered⟩ := invariant.opened opened
      exact ⟨process.al.tunFd, by rw [single]; exact List.mem_singleton_self _, registered⟩
    · rintro ⟨fd, member, -⟩
      by_contra closed
      rw [invariant.closed (Int.not_le.mp closed)] at member
      cases member
  · intro opened
    obtain ⟨single, registered⟩ := invariant.opened opened
    exact ⟨by rw [single]; exact List.mem_singleton_self _, registered⟩
  · by_cases opened : 0 ≤ process.al.tunFd
    · rw [(invariant.opened opened).1]
      exact Nat.le_refl 1
    · rw [invariant.closed (Int.not_le.mp opened)]
      exact Nat.zero_le 1
  · intro library setup next result closed taken failed
    obtain ⟨rfl, rfl⟩ := Prod.mk.inj (Option.some.inj taken)
    obtain ⟨kept, leaves⟩ := schcAlInit_invariant library build mode invariant setup
    have negative := leaves closed failed
    exact ⟨negative, kept.closed negative, kept.table.unregistered negative⟩

/-- This process opens the descriptor 5 after the L2 layer has registered the descriptor 3. -/
theorem openedTun_lifecycle :
    let start : Process Unit := ⟨⟨false, EventWord.none, -1, fun _ => 0, ⟨(), true⟩⟩, ⟨watchedFds, []⟩⟩
    let shared : Process Unit :=
      { start with host := { start.host with watched := (watchFdForInput watchedFds 3 (Callback.l2 0)).2 } }
    let opened := schcAlInit copyLibrary (proxyBuild true true) .device shared.al shared.host ⟨5, true, true, true⟩
    opened.2.1.tunFd = 5 ∧ TunLifecycle (proxyBuild true true) .device ⟨opened.2.1, opened.2.2⟩ := by
  intro start shared opened
  have registered : (lifecycleSystem (proxyBuild true true) .device).step start (.l2Watch 3 0) =
      some (shared, boolResult true) := rfl
  have initialized : (lifecycleSystem (proxyBuild true true) .device).step shared
      (.schcAlInit copyLibrary ⟨5, true, true, true⟩) = some (⟨opened.2.1, opened.2.2⟩, opened.1) := rfl
  have initial : (lifecycleSystem (proxyBuild true true) .device).initial start := ⟨rfl, rfl⟩
  refine ⟨by decide +kernel, ?_⟩
  exact tunLifecycle _ _ _ ⟨_, ((LabelledSystem.Run.start initial).extend registered).extend initialized⟩

end SchcWork.Worker
