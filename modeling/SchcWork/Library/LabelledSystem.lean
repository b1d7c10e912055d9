import Mathlib.Data.List.Induction
import Mathlib.Tactic.Common

theorem filterMap_cons_toList {First Second : Type} (function : First → Option Second) (first : First)
    (rest : List First) : (first :: rest).filterMap function = (function first).toList ++ rest.filterMap function := by
  cases found : function first with
  | none => rw [List.filterMap_cons_none found, Option.toList_none, List.nil_append]
  | some second => rw [List.filterMap_cons_some found, Option.toList_some, List.singleton_append]

theorem filterMap_concat {First Second : Type} (function : First → Option Second) (earlier : List First)
    (last : First) :
    (earlier ++ [last]).filterMap function = earlier.filterMap function ++ (function last).toList := by
  rw [List.filterMap_append]
  cases found : function last with
  | none => rw [List.filterMap_cons_none found, List.filterMap_nil, Option.toList_none]
  | some second => rw [List.filterMap_cons_some found, List.filterMap_nil, Option.toList_some]

/-- A labelled system starts in one of its initial states, and each enabled action emits one output. -/
structure LabelledSystem (State Action Output : Type) where
  initial : State → Prop
  step : State → Action → Option (State × Output)

namespace LabelledSystem

variable {State Action Output : Type} {system : LabelledSystem State Action Output}

/-- A run records each action with its output, oldest first. -/
inductive Run (system : LabelledSystem State Action Output) : State → List (Action × Output) → Prop where
  | start {state : State} (initial : system.initial state) : Run system state []
  | extend {state next : State} {trace : List (Action × Output)} {action : Action} {output : Output}
      (previous : Run system state trace) (taken : system.step state action = some (next, output)) :
      Run system next (trace ++ [(action, output)])

/-- A state is reachable when some run ends in it. -/
def Reachable (system : LabelledSystem State Action Output) (state : State) : Prop :=
  ∃ trace, system.Run state trace

theorem Reachable.extend {state next : State} {action : Action} {output : Output}
    (reached : system.Reachable state) (taken : system.step state action = some (next, output)) :
    system.Reachable next := by
  obtain ⟨trace, run⟩ := reached
  exact ⟨_, run.extend taken⟩

/-- A property of states and traces that each step of a run keeps holds at the end of every run. -/
theorem Run.invariant {property : State → List (Action × Output) → Prop}
    (base : ∀ state, system.initial state → property state [])
    (step : ∀ state trace action next output, system.Run state trace → property state trace →
      system.step state action = some (next, output) → property next (trace ++ [(action, output)]))
    {state : State} {trace : List (Action × Output)} (run : system.Run state trace) :
    property state trace := by
  induction run with
  | start initial => exact base _ initial
  | extend previous taken ih => exact step _ _ _ _ _ previous ih taken

/-- A state property that each step from a reachable state keeps holds in every reachable state. -/
theorem Reachable.invariant {property : State → Prop}
    (base : ∀ state, system.initial state → property state)
    (step : ∀ state action next output, system.Reachable state → property state →
      system.step state action = some (next, output) → property next)
    {state : State} (reached : system.Reachable state) : property state := by
  obtain ⟨trace, run⟩ := reached
  apply @Run.invariant _ _ _ system (fun state _ => property state) base _ _ _ run
  intro state trace action next output run holds taken
  exact step state action next output ⟨trace, run⟩ holds taken

/-- Each record of a run comes from a step out of a reachable state. -/
theorem Run.mem {state : State} {trace : List (Action × Output)} (run : system.Run state trace)
    {action : Action} {output : Output} (member : (action, output) ∈ trace) :
    ∃ before after, system.Reachable before ∧ system.step before action = some (after, output) := by
  induction run with
  | start initial => simp at member
  | extend previous taken ih =>
      rcases List.mem_append.mp member with earlier | last
      · exact ih earlier
      · obtain ⟨rfl, rfl⟩ := Prod.mk.inj (List.mem_singleton.mp last)
        exact ⟨_, _, ⟨_, previous⟩, taken⟩

/-- The last record of a run is a step out of the state before it. -/
theorem Run.last {state : State} {trace : List (Action × Output)} {record : Action × Output}
    (run : system.Run state (trace ++ [record])) :
    ∃ before, system.Run before trace ∧ system.step before record.1 = some (state, record.2) := by
  generalize whole : trace ++ [record] = full at run
  cases run with
  | start initial => simp at whole
  | extend previous taken =>
      obtain ⟨rfl, single⟩ := List.append_inj' whole rfl
      obtain rfl := List.singleton_inj.mp single
      exact ⟨_, previous, taken⟩

/-- A run splits at each of its records. -/
theorem Run.split {state : State} {earlier later : List (Action × Output)} {record : Action × Output}
    (run : system.Run state (earlier ++ record :: later)) :
    ∃ before after, system.Run before earlier ∧ system.step before record.1 = some (after, record.2) := by
  induction later using List.reverseRecOn generalizing state with
  | nil =>
      obtain ⟨before, previous, taken⟩ := run.last
      exact ⟨before, state, previous, taken⟩
  | append_singleton later last ih =>
      rw [← List.cons_append, ← List.append_assoc] at run
      obtain ⟨before, previous, -⟩ := run.last
      exact ih previous

/-- This function takes a list of actions from a state, and it fails at the first one without a step. -/
def exec (system : LabelledSystem State Action Output) :
    State → List Action → Option (State × List (Action × Output))
  | state, [] => some (state, [])
  | state, action :: rest =>
      (system.step state action).bind fun reply =>
        (system.exec reply.1 rest).map fun ended => (ended.1, (action, reply.2) :: ended.2)

/-- Two executions in a row are one execution. -/
theorem exec_append {state middle final : State} {first second : List Action}
    {trace suffix : List (Action × Output)} (executed : system.exec state first = some (middle, trace))
    (continued : system.exec middle second = some (final, suffix)) :
    system.exec state (first ++ second) = some (final, trace ++ suffix) := by
  induction first generalizing state trace with
  | nil =>
      obtain ⟨rfl, rfl⟩ := Prod.mk.inj (Option.some.inj executed)
      exact continued
  | cons action rest ih =>
      obtain ⟨⟨next, output⟩, taken, remaining⟩ := Option.bind_eq_some_iff.mp executed
      obtain ⟨⟨last, tail⟩, executedRest, same⟩ := Option.map_eq_some_iff.mp remaining
      obtain ⟨rfl, rfl⟩ := Prod.mk.inj same
      rw [List.cons_append, LabelledSystem.exec, taken, Option.bind_some, ih executedRest]
      rfl

/-- An execution extends a run. -/
theorem Run.exec {state final : State} {trace suffix : List (Action × Output)} {actions : List Action}
    (run : system.Run state trace) (executed : system.exec state actions = some (final, suffix)) :
    system.Run final (trace ++ suffix) := by
  induction actions generalizing state trace suffix with
  | nil =>
      obtain ⟨rfl, rfl⟩ := Prod.mk.inj (Option.some.inj executed)
      rwa [List.append_nil]
  | cons action rest ih =>
      obtain ⟨⟨next, output⟩, taken, remaining⟩ := Option.bind_eq_some_iff.mp executed
      obtain ⟨⟨last, tail⟩, executedRest, same⟩ := Option.map_eq_some_iff.mp remaining
      obtain ⟨rfl, rfl⟩ := Prod.mk.inj same
      have extended := ih (run.extend taken) executedRest
      rwa [List.append_assoc, List.singleton_append] at extended

/-- The later part of a run is an execution from the state after the earlier part. -/
theorem Run.suffix {state : State} {earlier later : List (Action × Output)}
    (run : system.Run state (earlier ++ later)) :
    ∃ middle, system.Run middle earlier ∧ system.exec middle (later.map Prod.fst) = some (state, later) := by
  induction later using List.reverseRecOn generalizing state with
  | nil =>
      rw [List.append_nil] at run
      exact ⟨state, run, rfl⟩
  | append_singleton later last ih =>
      rw [← List.append_assoc] at run
      obtain ⟨before, previous, taken⟩ := run.last
      obtain ⟨middle, reached, executed⟩ := ih previous
      have single : system.exec before [last.1] = some (state, [last]) := by
        rw [LabelledSystem.exec, taken]
        rfl
      refine ⟨middle, reached, ?_⟩
      rw [List.map_append]
      exact exec_append executed single

/-- While no record is a goal, each tick uses up one unit of what the state has left. -/
theorem exec_ticks {waiting : State → Prop} (left : State → Nat) (tick goal : Action → Bool)
    (step : ∀ state action next output, waiting state → system.step state action = some (next, output) →
      goal action = false → waiting next ∧ left next + (if tick action then 1 else 0) ≤ left state)
    {state final : State} {actions : List Action} {trace : List (Action × Output)} (start : waiting state)
    (executed : system.exec state actions = some (final, trace))
    (unserved : trace.any (fun record => goal record.1) = false) :
    left final + trace.countP (fun record => tick record.1) ≤ left state := by
  induction actions generalizing state trace with
  | nil =>
      obtain ⟨rfl, rfl⟩ := Prod.mk.inj (Option.some.inj executed)
      exact Nat.le_refl _
  | cons action rest ih =>
      obtain ⟨⟨next, output⟩, taken, remaining⟩ := Option.bind_eq_some_iff.mp executed
      obtain ⟨⟨last, tail⟩, executedRest, same⟩ := Option.map_eq_some_iff.mp remaining
      obtain ⟨rfl, rfl⟩ := Prod.mk.inj same
      rw [List.any_cons, Bool.or_eq_false_iff] at unserved
      obtain ⟨continues, used⟩ := step _ _ _ _ start taken unserved.1
      have bound : left last + tail.countP (fun record => tick record.1) ≤ left next :=
        ih continues executedRest unserved.2
      change left last + ((action, output) :: tail).countP (fun record => tick record.1) ≤ left state
      rw [List.countP_cons]
      dsimp only
      omega

/-- The restricted system takes only the steps that meet a condition. -/
def restrict (system : LabelledSystem State Action Output) (allowed : State → Action → Prop)
    [∀ state action, Decidable (allowed state action)] : LabelledSystem State Action Output where
  initial := system.initial
  step state action := if allowed state action then system.step state action else none

/-- This system starts only in the initial states that meet a condition. -/
def startingIn (system : LabelledSystem State Action Output) (condition : State → Prop) :
    LabelledSystem State Action Output where
  initial state := system.initial state ∧ condition state
  step := system.step

theorem Run.of_startingIn {condition : State → Prop} {state : State} {trace : List (Action × Output)}
    (run : (system.startingIn condition).Run state trace) : system.Run state trace := by
  induction run with
  | start initial => exact .start initial.1
  | extend previous taken ih => exact ih.extend taken

theorem exec_startingIn (condition : State → Prop) (state : State) (actions : List Action) :
    (system.startingIn condition).exec state actions = system.exec state actions := by
  induction actions generalizing state with
  | nil => rfl
  | cons action rest ih =>
      simp only [LabelledSystem.exec, ih]
      rfl

theorem restrict_step {allowed : State → Action → Prop} [∀ state action, Decidable (allowed state action)]
    {state : State} {action : Action} {result : State × Output}
    (taken : (system.restrict allowed).step state action = some result) :
    allowed state action ∧ system.step state action = some result := by
  unfold restrict at taken
  dsimp only at taken
  split at taken
  · rename_i met
    exact ⟨met, taken⟩
  · cases taken

end LabelledSystem
