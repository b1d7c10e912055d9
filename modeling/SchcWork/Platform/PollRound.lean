import Mathlib.Data.Fintype.Sum
import SchcWork.Platform.WatchTable

namespace SchcWork.Platform

variable {Callback Env : Type}

/-- A callback reads the table and its environment, and it calls `watch_fd_for_input` and `unwatch_fd_for_input`. -/
abbrev Behaviour (Callback Env : Type) :=
  Callback → WatchTable Callback → Env → List (WatchCall Callback) × Env

structure Registration (Callback : Type) where
  fd : Int
  callback : Callback
  deriving Repr, DecidableEq

/-- An invocation records the slot that it runs and the table at this time. -/
structure Invocation (Callback : Type) where
  registration : Registration Callback
  table : WatchTable Callback

structure RoundState (Callback Env : Type) where
  table : WatchTable Callback
  env : Env
  invocations : List (Invocation Callback)

/-- Each callback of this table knows the descriptor of its slot. -/
def tagged (table : WatchTable Callback) : WatchTable (Registration Callback) := fun idx =>
  ⟨(table idx).fd, (table idx).cb.map fun callback => ⟨(table idx).fd, callback⟩⟩

def invoke (behaviour : Behaviour Callback Env) (registration : Registration Callback)
    (state : RoundState Callback Env) : RoundState Callback Env where
  table := runCalls state.table (behaviour registration.callback state.table state.env).1
  env := (behaviour registration.callback state.table state.env).2
  invocations := state.invocations ++ [⟨registration, state.table⟩]

def pollRound (behaviour : Behaviour Callback Env) (table : WatchTable Callback) (env : Env) (poll : PollResult) :
    RoundState Callback Env :=
  platformEnterLowPowerLl (fun state => tagged state.table) (invoke behaviour) poll ⟨table, env, []⟩

def PollResult.reports : PollResult → Int → Bool
  | .nothing, _ => false
  | .ready readable, fd => readable fd

/-- The round passed this descriptor to `poll`, and `poll` reported it. -/
def Reported (table : WatchTable Callback) (poll : PollResult) (fd : Int) : Prop :=
  poll.reports fd = true ∧ fd ∈ (entries table).map WatchedFd.fd

/-- The round runs only registered callbacks of reported descriptors, it runs each of them at most once, and it serves
every reported descriptor that is registered at its end. -/
structure Dispatches (behaviour : Behaviour Callback Env) (table : WatchTable Callback) (env : Env)
    (poll : PollResult) : Prop where
  only : ∀ invocation ∈ (pollRound behaviour table env poll).invocations,
    Reported table poll invocation.registration.fd ∧
      ⟨invocation.registration.fd, some invocation.registration.callback⟩ ∈ entries invocation.table
  once : ((pollRound behaviour table env poll).invocations.map (·.registration.fd)).Nodup
  served : ∀ entry ∈ entries (pollRound behaviour table env poll).table, Reported table poll entry.fd →
    entry.fd ∈ (pollRound behaviour table env poll).invocations.map (·.registration.fd)

/-- This is the state after the first turns of the loop. -/
def afterTurns (behaviour : Behaviour Callback Env) (table : WatchTable Callback) (env : Env) (poll : PollResult)
    (count : Nat) : RoundState Callback Env :=
  (List.range count).foldl
    (runSlot (fun state => tagged state.table) (invoke behaviour) fun idx => poll.reports (table idx).fd)
    ⟨table, env, []⟩

/-- The slot holds the descriptor, or it is free and the descriptor is not registered. -/
def SlotHolds (live : WatchTable Callback) (idx : Nat) (fd : Int) : Prop :=
  (idx < nbrFds live ∧ (live idx).fd = fd) ∨ (nbrFds live ≤ idx ∧ ∀ entry ∈ entries live, entry.fd ≠ fd)

def SlotKept (snapshot live : WatchTable Callback) (idx : Nat) : Prop := SlotHolds live idx (snapshot idx).fd

/-- These are the slots of the snapshot whose descriptors `poll` reported. -/
def reportedSlots (table : WatchTable Callback) (poll : PollResult) : Finset Nat :=
  (Finset.range (nbrFds table)).filter fun idx => poll.reports (table idx).fd = true

/-- In their turns the reported slots hold the reported descriptors, each of them in one turn. -/
def TurnsHold (behaviour : Behaviour Callback Env) (table : WatchTable Callback) (env : Env) (poll : PollResult)
    (source : Equiv.Perm (reportedSlots table poll)) : Prop :=
  ∀ idx : reportedSlots table poll,
    SlotHolds (afterTurns behaviour table env poll idx).table idx (table (source idx)).fd

/-- The calls of each callback that runs in its turn keep the later slots of the snapshot. -/
def CallsKeepPending (behaviour : Behaviour Callback Env) (table : WatchTable Callback) (env : Env)
    (poll : PollResult) : Prop :=
  ∀ idx callback, idx < nbrFds table → poll.reports (table idx).fd = true →
    ((afterTurns behaviour table env poll idx).table idx).cb = some callback →
    ∀ later, idx < later → later < nbrFds table →
      SlotKept table
        (runCalls (afterTurns behaviour table env poll idx).table
          (behaviour callback (afterTurns behaviour table env poll idx).table
            (afterTurns behaviour table env poll idx).env).1)
        later

section Turns

variable {behaviour : Behaviour Callback Env} {table : WatchTable Callback} {env : Env} {poll : PollResult}

theorem pollRound_eq : pollRound behaviour table env poll = afterTurns behaviour table env poll (nbrFds table) := by
  cases poll with
  | nothing =>
      have idle : ∀ (indices : List Nat) (state : RoundState Callback Env),
          indices.foldl (runSlot (fun state => tagged state.table) (invoke behaviour) fun _ => false) state =
            state := by
        intro indices
        induction indices with
        | nil => exact fun _ => rfl
        | cons idx rest ih => exact ih
      exact (idle _ _).symm
  | ready readable => rfl

/-- Each constructor is one outcome of a turn with its guards. -/
inductive TurnPath (behaviour : Behaviour Callback Env) (poll : PollResult) (fd : Int) (idx : Nat)
    (state : RoundState Callback Env) : RoundState Callback Env → Prop where
  | passed (reason : poll.reports fd = true → nbrFds state.table ≤ idx) : TurnPath behaviour poll fd idx state state
  | called (reported : poll.reports fd = true) (used : idx < nbrFds state.table) (callback : Callback)
      (found : (state.table idx).cb = some callback) :
      TurnPath behaviour poll fd idx state (invoke behaviour ⟨(state.table idx).fd, callback⟩ state)

theorem afterTurns_succ (count : Nat) : afterTurns behaviour table env poll (count + 1) =
    runSlot (fun state => tagged state.table) (invoke behaviour) (fun idx => poll.reports (table idx).fd)
      (afterTurns behaviour table env poll count) count := by
  rw [afterTurns, List.range_succ, List.foldl_append]
  rfl

theorem afterTurns_wellFormed (formed : WellFormed table) (count : Nat) :
    WellFormed (afterTurns behaviour table env poll count).table := by
  induction count with
  | zero => exact formed
  | succ count ih =>
      rw [afterTurns_succ, runSlot]
      split
      · split
        · exact runCalls_wellFormed ih _
        · exact ih
      · exact ih

/-- A turn runs the callback of its live slot when `poll` reported the descriptor of the snapshot. -/
theorem afterTurns_path (formed : WellFormed table) (count : Nat) :
    TurnPath behaviour poll (table count).fd count (afterTurns behaviour table env poll count)
      (afterTurns behaviour table env poll (count + 1)) := by
  have current : WellFormed (afterTurns behaviour table env poll count).table := afterTurns_wellFormed formed count
  rw [afterTurns_succ]
  generalize afterTurns behaviour table env poll count = state at current
  unfold runSlot
  split
  · rename_i reported
    cases found : (state.table count).cb with
    | none =>
        have free : ¬count < nbrFds state.table := by
          rw [← current.callable, found]
          simp
        simp only [tagged, found, Option.map_none]
        exact .passed fun _ => by omega
    | some callback =>
        have used : count < nbrFds state.table := by
          rw [← current.callable, found]
          rfl
        simp only [tagged, found, Option.map_some]
        exact .called reported used callback found
  · rename_i quiet
    exact .passed fun reported => absurd reported quiet

/-- The state after some turns depends on the reports for their descriptors only. -/
theorem afterTurns_congr {other : PollResult} {count : Nat}
    (same : ∀ idx, idx < count → poll.reports (table idx).fd = other.reports (table idx).fd) :
    afterTurns behaviour table env poll count = afterTurns behaviour table env other count := by
  induction count with
  | zero => rfl
  | succ count ih =>
      rw [afterTurns_succ, afterTurns_succ, ih fun idx before => same idx (by omega), runSlot, runSlot,
        same count (by omega)]

/-- A turn without a reported callback changes nothing. -/
theorem afterTurns_passed (formed : WellFormed table) {count : Nat}
    (reason : poll.reports (table count).fd = true →
      nbrFds (afterTurns behaviour table env poll count).table ≤ count) :
    afterTurns behaviour table env poll (count + 1) = afterTurns behaviour table env poll count := by
  have path : TurnPath behaviour poll (table count).fd count (afterTurns behaviour table env poll count) _ :=
    afterTurns_path formed count
  generalize afterTurns behaviour table env poll (count + 1) = next at path
  cases path with
  | passed => rfl
  | called reported used =>
      have free := reason reported
      omega

/-- A turn with a reported callback runs it. -/
theorem afterTurns_called {count : Nat} {callback : Callback}
    (reported : poll.reports (table count).fd = true)
    (found : ((afterTurns behaviour table env poll count).table count).cb = some callback) :
    afterTurns behaviour table env poll (count + 1) =
      invoke behaviour ⟨((afterTurns behaviour table env poll count).table count).fd, callback⟩
        (afterTurns behaviour table env poll count) := by
  rw [afterTurns_succ, runSlot, if_pos reported]
  simp only [tagged, found, Option.map_some]

/-- Turns without a reported callback change nothing. -/
theorem afterTurns_quiet (formed : WellFormed table) {first last : Nat} (ordered : first ≤ last)
    (quiet : ∀ idx, first ≤ idx → idx < last → poll.reports (table idx).fd = true →
      nbrFds (afterTurns behaviour table env poll first).table ≤ idx) :
    afterTurns behaviour table env poll last = afterTurns behaviour table env poll first := by
  induction ordered with
  | refl => rfl
  | step ordered ih =>
      have unchanged := ih fun idx lower upper => quiet idx lower (by omega)
      rw [afterTurns_passed formed, unchanged]
      rw [unchanged]
      exact quiet _ ordered (by omega)

/-- These turns run a callback. -/
def callingTurns (behaviour : Behaviour Callback Env) (table : WatchTable Callback) (env : Env)
    (poll : PollResult) : Finset Nat :=
  (reportedSlots table poll).filter fun idx => idx < nbrFds (afterTurns behaviour table env poll idx).table

/-- This is the descriptor that the live table has in the slot of a turn. -/
def fdAtTurn (behaviour : Behaviour Callback Env) (table : WatchTable Callback) (env : Env) (poll : PollResult)
    (idx : Nat) : Int :=
  ((afterTurns behaviour table env poll idx).table idx).fd

theorem mem_reportedSlots {idx : Nat} :
    idx ∈ reportedSlots table poll ↔ idx < nbrFds table ∧ poll.reports (table idx).fd = true := by
  rw [reportedSlots, Finset.mem_filter, Finset.mem_range]

/-- A reported descriptor is in one of the reported slots. -/
theorem reported_iff {fd : Int} : Reported table poll fd ↔ ∃ idx ∈ reportedSlots table poll, (table idx).fd = fd := by
  constructor
  · rintro ⟨reported, listed⟩
    obtain ⟨entry, member, rfl⟩ := List.mem_map.mp listed
    obtain ⟨idx, used, rfl⟩ := mem_entries.mp member
    exact ⟨idx, mem_reportedSlots.mpr ⟨used, reported⟩, rfl⟩
  · rintro ⟨idx, slot, rfl⟩
    obtain ⟨used, reported⟩ := mem_reportedSlots.mp slot
    exact ⟨reported, List.mem_map.mpr ⟨table idx, mem_entries.mpr ⟨idx, used, rfl⟩, rfl⟩⟩

/-- The invocations are those of the calling turns, in their order. -/
theorem invocations_fds (formed : WellFormed table) (count : Nat) :
    (afterTurns behaviour table env poll count).invocations.map (·.registration.fd) =
      ((List.range count).filter fun idx => decide (poll.reports (table idx).fd = true ∧
        idx < nbrFds (afterTurns behaviour table env poll idx).table)).map (fdAtTurn behaviour table env poll) := by
  induction count with
  | zero => rfl
  | succ count ih =>
      have path : TurnPath behaviour poll (table count).fd count (afterTurns behaviour table env poll count) _ :=
        afterTurns_path formed count
      rw [List.range_succ, List.filter_append, List.map_append, ← ih]
      generalize afterTurns behaviour table env poll (count + 1) = next at path
      cases path with
      | passed reason =>
          have silent : ¬(poll.reports (table count).fd = true ∧
              count < nbrFds (afterTurns behaviour table env poll count).table) := by
            rintro ⟨reported, used⟩
            have free := reason reported
            omega
          rw [List.filter_cons_of_neg (by simpa using silent), List.filter_nil, List.map_nil, List.append_nil]
      | called reported used callback found =>
          rw [List.filter_cons_of_pos (by simpa using ⟨reported, used⟩), List.filter_nil, invoke, List.map_append]
          rfl

/-- Each invocation runs an entry of the live table. -/
theorem invocations_registered (formed : WellFormed table) (count : Nat) :
    ∀ invocation ∈ (afterTurns behaviour table env poll count).invocations,
      ⟨invocation.registration.fd, some invocation.registration.callback⟩ ∈ entries invocation.table := by
  induction count with
  | zero => exact nofun
  | succ count ih =>
      have path : TurnPath behaviour poll (table count).fd count (afterTurns behaviour table env poll count) _ :=
        afterTurns_path formed count
      generalize afterTurns behaviour table env poll (count + 1) = next at path
      cases path with
      | passed reason => exact ih
      | called reported used callback found =>
          intro invocation member
          rcases List.mem_append.mp member with earlier | new
          · exact ih invocation earlier
          · obtain rfl := List.mem_singleton.mp new
            dsimp only
            rw [← found]
            exact mem_entries.mpr ⟨count, used, rfl⟩

/-- A turn with a free slot ends the changes of the round. -/
theorem pollRound_frozen (formed : WellFormed table) {idx : Nat} (inside : idx < nbrFds table)
    (free : nbrFds (afterTurns behaviour table env poll idx).table ≤ idx) :
    pollRound behaviour table env poll = afterTurns behaviour table env poll idx := by
  rw [pollRound_eq]
  apply afterTurns_quiet formed (by omega)
  intro other lower upper reported
  omega

/-- A round dispatches when its calling turns have the reported descriptors, each of them once, and miss none that
stays registered. -/
theorem dispatches_iff (formed : WellFormed table) :
    Dispatches behaviour table env poll ↔
      (∀ idx ∈ callingTurns behaviour table env poll, Reported table poll (fdAtTurn behaviour table env poll idx)) ∧
      Set.InjOn (fdAtTurn behaviour table env poll) (callingTurns behaviour table env poll) ∧
      ∀ entry ∈ entries (pollRound behaviour table env poll).table, Reported table poll entry.fd →
        ∃ idx ∈ callingTurns behaviour table env poll, fdAtTurn behaviour table env poll idx = entry.fd := by
  have calling (idx : Nat) : idx ∈ (List.range (nbrFds table)).filter (fun idx =>
      decide (poll.reports (table idx).fd = true ∧ idx < nbrFds (afterTurns behaviour table env poll idx).table)) ↔
        idx ∈ callingTurns behaviour table env poll := by
    rw [List.mem_filter, List.mem_range, decide_eq_true_eq, callingTurns, Finset.mem_filter, mem_reportedSlots,
      and_assoc]
  have fds := @invocations_fds _ _ behaviour table env poll formed (nbrFds table)
  have ran (fd : Int) : fd ∈ (pollRound behaviour table env poll).invocations.map (·.registration.fd) ↔
      ∃ idx ∈ callingTurns behaviour table env poll, fdAtTurn behaviour table env poll idx = fd := by
    rw [pollRound_eq, fds, List.mem_map]
    exact exists_congr fun idx => and_congr_left fun _ => calling idx
  have distinct : ((pollRound behaviour table env poll).invocations.map (·.registration.fd)).Nodup ↔
      Set.InjOn (fdAtTurn behaviour table env poll) (callingTurns behaviour table env poll) := by
    rw [pollRound_eq, fds, List.nodup_map_iff_inj_on (List.nodup_range.filter _)]
    constructor
    · intro injective first firstCalls second secondCalls same
      exact injective first ((calling first).mpr firstCalls) second ((calling second).mpr secondCalls) same
    · intro injective first firstCalls second secondCalls same
      exact injective ((calling first).mp firstCalls) ((calling second).mp secondCalls) same
  constructor
  · rintro ⟨only, once, served⟩
    refine ⟨?_, distinct.mp once, fun entry registered reported => (ran _).mp (served entry registered reported)⟩
    intro idx calls
    obtain ⟨invocation, member, same⟩ := List.mem_map.mp ((ran _).mpr ⟨idx, calls, rfl⟩)
    rw [← same]
    exact (only invocation member).1
  · rintro ⟨only, once, served⟩
    refine ⟨?_, distinct.mpr once, fun entry registered reported => (ran _).mpr (served entry registered reported)⟩
    intro invocation member
    obtain ⟨idx, calls, same⟩ := (ran _).mp (List.mem_map_of_mem member)
    refine ⟨by rw [← same]; exact only idx calls, ?_⟩
    rw [pollRound_eq] at member
    exact invocations_registered formed _ invocation member

/-- A round dispatches when the reported slots hold the reported descriptors in their turns. -/
theorem TurnsHold.dispatches (formed : WellFormed table) {source : Equiv.Perm (reportedSlots table poll)}
    (holds : TurnsHold behaviour table env poll source) : Dispatches behaviour table env poll := by
  have held : ∀ idx (calls : idx ∈ callingTurns behaviour table env poll),
      fdAtTurn behaviour table env poll idx = (table (source ⟨idx, (Finset.mem_filter.mp calls).1⟩)).fd := by
    intro idx calls
    obtain ⟨slot, used⟩ := Finset.mem_filter.mp calls
    rcases holds ⟨idx, slot⟩ with ⟨-, same⟩ | ⟨free, -⟩
    · exact same
    · dsimp only at free
      omega
  rw [dispatches_iff formed]
  refine ⟨?_, ?_, ?_⟩
  · intro idx calls
    rw [held idx calls]
    exact reported_iff.mpr ⟨_, (source _).2, rfl⟩
  · intro first firstCalls second secondCalls same
    rw [held first firstCalls, held second secondCalls] at same
    have sameSlot :=
      formed.fd_injective (mem_reportedSlots.mp (source _).2).1 (mem_reportedSlots.mp (source _).2).1 same
    exact congrArg Subtype.val (source.injective (Subtype.ext sameSlot))
  · intro entry registered reported
    obtain ⟨slot, member, same⟩ := reported_iff.mp reported
    obtain ⟨turn, origin⟩ := source.surjective ⟨slot, member⟩
    rw [← same]
    rcases holds turn with ⟨used, live⟩ | ⟨free, unregistered⟩
    · rw [origin] at live
      exact ⟨turn, Finset.mem_filter.mpr ⟨turn.2, used⟩, live⟩
    · rw [origin] at unregistered
      rw [pollRound_frozen formed (mem_reportedSlots.mp turn.2).1 free] at registered
      exact absurd same.symm (unregistered entry registered)

/-- In a round that dispatches the reported slots hold the reported descriptors in their turns. -/
theorem exists_turnsHold (formed : WellFormed table) (dispatched : Dispatches behaviour table env poll) :
    ∃ source, TurnsHold behaviour table env poll source := by
  obtain ⟨only, once, served⟩ := (dispatches_iff formed).mp dispatched
  have found : ∀ idx : reportedSlots table poll, ∃ slot, idx.1 ∈ callingTurns behaviour table env poll →
      slot ∈ reportedSlots table poll ∧ (table slot).fd = fdAtTurn behaviour table env poll idx := by
    intro idx
    by_cases calls : idx.1 ∈ callingTurns behaviour table env poll
    · obtain ⟨slot, member, same⟩ := reported_iff.mp (only idx calls)
      exact ⟨slot, fun _ => ⟨member, same⟩⟩
    · exact ⟨0, fun others => absurd others calls⟩
  choose slot slot_spec using found
  -- The calling turns take distinct slots, so the free turns can take the slots that are left.
  obtain ⟨source, extends_slot⟩ : ∃ source : reportedSlots table poll ≃ reportedSlots table poll,
      ∀ idx ∈ Finset.univ.filter fun idx : reportedSlots table poll => idx.1 ∈ callingTurns behaviour table env poll,
        (source idx : Nat) = slot idx := by
    apply Finset.exists_equiv_extend_of_card_eq (Fintype.card_coe _)
    · intro taken member
      obtain ⟨idx, calls, rfl⟩ := Finset.mem_image.mp member
      exact (slot_spec idx (Finset.mem_filter.mp calls).2).1
    · intro first firstCalls second secondCalls same
      have firstCalls := (Finset.mem_filter.mp firstCalls).2
      have secondCalls := (Finset.mem_filter.mp secondCalls).2
      apply Subtype.ext
      apply once firstCalls secondCalls
      rw [← (slot_spec first firstCalls).2, ← (slot_spec second secondCalls).2, same]
  refine ⟨source, fun idx => ?_⟩
  have taken (turn : reportedSlots table poll) (calls : turn.1 ∈ callingTurns behaviour table env poll) :
      (table (source turn)).fd = fdAtTurn behaviour table env poll turn := by
    rw [extends_slot turn (Finset.mem_filter.mpr ⟨Finset.mem_univ _, calls⟩)]
    exact (slot_spec turn calls).2
  by_cases used : idx.1 < nbrFds (afterTurns behaviour table env poll idx).table
  · exact .inl ⟨used, (taken idx (Finset.mem_filter.mpr ⟨idx.2, used⟩)).symm⟩
  · have free := Nat.le_of_not_lt used
    refine .inr ⟨free, fun entry registered same => used ?_⟩
    rw [← pollRound_frozen formed (mem_reportedSlots.mp idx.2).1 free] at registered
    obtain ⟨turn, calls, live⟩ :=
      served entry registered (reported_iff.mpr ⟨_, (source idx).2, same.symm⟩)
    have slot : turn ∈ reportedSlots table poll := (Finset.mem_filter.mp calls).1
    have sameSlot := formed.fd_injective (mem_reportedSlots.mp (source ⟨turn, slot⟩).2).1
      (mem_reportedSlots.mp (source idx).2).1 (((taken ⟨turn, slot⟩ calls).trans live).trans same)
    rw [← source.injective (Subtype.ext sameSlot)]
    exact (Finset.mem_filter.mp calls).2

/-- The pending slots are kept when the calls of every callback keep them. -/
theorem slotKept_of_callsKeepPending (formed : WellFormed table)
    (keeps : CallsKeepPending behaviour table env poll) {count : Nat} (inside : count ≤ nbrFds table) :
    ∀ later, count ≤ later → later < nbrFds table →
      SlotKept table (afterTurns behaviour table env poll count).table later := by
  induction count with
  | zero => exact fun later _ used => .inl ⟨used, rfl⟩
  | succ count ih =>
      intro later lower upper
      have path : TurnPath behaviour poll (table count).fd count (afterTurns behaviour table env poll count) _ :=
        afterTurns_path formed count
      generalize afterTurns behaviour table env poll (count + 1) = next at path
      cases path with
      | passed reason => exact ih (by omega) later (by omega) upper
      | called reported used callback found =>
          exact keeps count callback (by omega) reported found later (by omega) upper

/-- A round whose callbacks keep the pending slots runs the right callbacks. -/
theorem dispatches_of_kept (formed : WellFormed table) (keeps : CallsKeepPending behaviour table env poll) :
    Dispatches behaviour table env poll := by
  apply @TurnsHold.dispatches _ _ _ _ _ _ formed (Equiv.refl _)
  intro idx
  have inside := (mem_reportedSlots.mp idx.2).1
  exact slotKept_of_callsKeepPending formed keeps (by omega) idx (Nat.le_refl _) inside

/-- This report names the descriptors of the chosen slots. -/
def pollOf (table : WatchTable Callback) (chosen : Nat → Bool) : PollResult :=
  .ready fun fd => (List.range (nbrFds table)).any fun idx => chosen idx && (table idx).fd == fd

theorem pollOf_reports (formed : WellFormed table) (chosen : Nat → Bool) {idx : Nat} (used : idx < nbrFds table) :
    (pollOf table chosen).reports (table idx).fd = chosen idx := by
  rw [Bool.eq_iff_iff]
  simp only [pollOf, PollResult.reports, List.any_eq_true, List.mem_range, Bool.and_eq_true, beq_iff_eq]
  constructor
  · rintro ⟨other, otherUsed, picked, same⟩
    rwa [← formed.fd_injective otherUsed used same]
  · intro picked
    exact ⟨idx, used, picked, rfl⟩

/-- Another report runs the same turns, adds the next descriptor and stops there. -/
theorem exists_forced (formed : WellFormed table) {turn : Nat} (inside : turn < nbrFds table) :
    ∃ forced : PollResult, afterTurns behaviour table env forced turn = afterTurns behaviour table env poll turn ∧
      forced.reports (table turn).fd = true ∧
      ∀ idx, turn < idx → idx < nbrFds table → forced.reports (table idx).fd = false := by
  use pollOf table fun idx => (decide (idx < turn) && poll.reports (table idx).fd) || idx == turn
  constructor
  · apply afterTurns_congr
    intro idx before
    rw [pollOf_reports formed _ (by omega)]
    simp [before, show idx ≠ turn by omega]
  constructor
  · rw [pollOf_reports formed _ inside]
    simp
  · intro idx behind used
    rw [pollOf_reports formed _ used]
    simp [show ¬idx < turn by omega, show idx ≠ turn by omega]

/-- When each report is dispatched, each slot is kept until its turn. -/
theorem slotKept_of_dispatches (formed : WellFormed table)
    (dispatches : ∀ poll, Dispatches behaviour table env poll) {turn : Nat} (inside : turn < nbrFds table)
    (poll : PollResult) : SlotKept table (afterTurns behaviour table env poll turn).table turn := by
  induction turn using Nat.strongRecOn generalizing poll with
  | ind turn earlierKept =>
      obtain ⟨forced, agree, reported, quiet⟩ : ∃ forced : PollResult,
          afterTurns behaviour table env forced turn = afterTurns behaviour table env poll turn ∧ _ :=
        exists_forced formed inside
      obtain ⟨source, holds⟩ := exists_turnsHold formed (dispatches forced)
      obtain ⟨origin, same⟩ := source.surjective ⟨turn, mem_reportedSlots.mpr ⟨inside, reported⟩⟩
      obtain ⟨originInside, originReported⟩ := mem_reportedSlots.mp origin.2
      have held := holds origin
      rw [same] at held
      rcases Nat.lt_trichotomy origin.1 turn with before | current | behind
      · have kept := earlierKept origin.1 before originInside forced
        rcases held with ⟨used, live⟩ | ⟨free, unregistered⟩
        · rcases kept with ⟨-, own⟩ | ⟨ended, -⟩
          · have again := formed.fd_injective originInside inside (own.symm.trans live)
            omega
          · omega
        · have frozen : afterTurns behaviour table env forced turn = afterTurns behaviour table env forced origin :=
            afterTurns_quiet formed (by omega) fun other lower _ _ => by omega
          rw [← agree, frozen]
          exact .inr ⟨by omega, unregistered⟩
      · rw [current] at held
        rw [← agree]
        exact held
      · rw [quiet origin behind originInside] at originReported
        cases originReported

/-- When each report is dispatched, the calls of each callback keep the pending slots. -/
theorem callsKeepPending_of_dispatches (formed : WellFormed table)
    (dispatches : ∀ poll, Dispatches behaviour table env poll) (poll : PollResult) :
    CallsKeepPending behaviour table env poll := by
  intro idx callback inside reported found later behind used
  -- The turns between the callback and the slot stay quiet under this report.
  let limited := pollOf table fun slot => decide (slot ≤ idx) && poll.reports (table slot).fd
  have agree : afterTurns behaviour table env limited (idx + 1) = afterTurns behaviour table env poll (idx + 1) := by
    apply afterTurns_congr
    intro slot before
    rw [pollOf_reports formed _ (by omega)]
    simp [show slot ≤ idx by omega]
  have quiet : afterTurns behaviour table env limited later = afterTurns behaviour table env limited (idx + 1) := by
    apply afterTurns_quiet formed behind
    intro slot lower upper listed
    rw [pollOf_reports formed _ (by omega)] at listed
    simp [show ¬slot ≤ idx by omega] at listed
  have kept := slotKept_of_dispatches formed dispatches used limited
  rw [quiet, agree, afterTurns_called reported found] at kept
  exact kept

end Turns

/-- A round dispatches exactly when the reported slots hold the reported descriptors in their turns, as they do when
each reported slot keeps its own descriptor. These callbacks let every report be dispatched exactly when their calls
keep the pending slots for every report. -/
theorem pollRound_dispatches_iff (behaviour : Behaviour Callback Env) (history : List (WatchCall Callback))
    (env : Env) :
    (∀ poll, Dispatches behaviour (runCalls watchedFds history) env poll ↔
      ∃ source, TurnsHold behaviour (runCalls watchedFds history) env poll source) ∧
    (∀ poll, (∀ idx ∈ reportedSlots (runCalls watchedFds history) poll,
        SlotKept (runCalls watchedFds history)
          (afterTurns behaviour (runCalls watchedFds history) env poll idx).table idx) →
      Dispatches behaviour (runCalls watchedFds history) env poll) ∧
    ((∀ poll, Dispatches behaviour (runCalls watchedFds history) env poll) ↔
      ∀ poll, CallsKeepPending behaviour (runCalls watchedFds history) env poll) := by
  have formed : WellFormed (runCalls (watchedFds : WatchTable Callback) history) :=
    runCalls_wellFormed watchedFds_wellFormed history
  refine ⟨fun poll => ⟨exists_turnsHold formed, ?_⟩, fun poll kept => ?_, ?_⟩
  · rintro ⟨source, holds⟩
    exact holds.dispatches formed
  · exact @TurnsHold.dispatches _ _ _ _ _ _ formed (Equiv.refl _) fun idx => kept idx idx.2
  · constructor
    · exact callsKeepPending_of_dispatches formed
    · intro keeps poll
      exact dispatches_of_kept formed (keeps poll)

/-- The first callback removes its own descriptor, and the second one makes no calls. -/
def selfRemoval : Behaviour Bool Unit := fun callback _ env => (if callback then [.unwatch 3] else [], env)

/-- The second descriptor moves to a slot whose turn is over, and its callback does not run. -/
theorem selfRemoval_misses :
    ¬Dispatches selfRemoval (runCalls watchedFds [.watch 3 true, .watch 4 false]) () (.ready fun _ => true) := by
  intro dispatched
  have remaining : entries (pollRound selfRemoval (runCalls watchedFds [.watch 3 true, .watch 4 false]) ()
      (.ready fun _ => true)).table = [⟨4, some false⟩] := by rfl
  have invoked : (pollRound selfRemoval (runCalls watchedFds [.watch 3 true, .watch 4 false]) ()
      (.ready fun _ => true)).invocations.map (·.registration.fd) = [3] := by rfl
  have served := dispatched.served ⟨4, some false⟩ (by rw [remaining]; exact List.mem_singleton_self _)
    ⟨rfl, by decide⟩
  rw [invoked] at served
  exact absurd served (by decide)

end SchcWork.Platform
