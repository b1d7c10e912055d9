import SchcWork.Library.LabelledSystem
import Mathlib.Logic.Function.Basic

namespace SchcWork.Platform

/-- These are the fields of `it_value`. -/
structure Itimerspec where
  tvSec : Nat
  tvNsec : Nat
  deriving Repr, DecidableEq

def nullDuration : Itimerspec := ⟨0, 0⟩

/-- The object refers to its latest kernel timer. -/
structure TimerEvent where
  timerid : Option Nat
  duration : Itimerspec
  started : Bool
  deriving Repr, DecidableEq

/-- The kernel numbers its timers in the order of their creation and knows which of them are armed. -/
structure TimerState where
  obj : TimerEvent
  created : Nat
  armed : Nat → Option Itimerspec

/-- The call succeeds, and it arms a timer exactly for a value other than zero. -/
def timerSettime (armed : Nat → Option Itimerspec) (timerid : Nat) (value : Itimerspec) : Nat → Option Itimerspec :=
  Function.update armed timerid (if value = nullDuration then none else some value)

/-- A failing `sigaction` or `timer_create` leaves the reference to the kernel timer as it was. -/
def timerInit (state : TimerState) (succeeds : Bool) : TimerState :=
  let state := { state with obj := { state.obj with duration := nullDuration, started := false } }
  if succeeds then
    { state with
      obj := { state.obj with timerid := some state.created }
      created := state.created + 1 }
  else state

/-- The value counts milliseconds. -/
def itValue (value : UInt32) : Itimerspec := ⟨value.toNat / 1000, value.toNat % 1000 * 1000000⟩

def timerSetValue (state : TimerState) (value : UInt32) : TimerState :=
  { state with obj := { state.obj with duration := itValue value } }

/-- A start has no step without a kernel timer, because `timer_settime` succeeds. -/
def timerStart (state : TimerState) : Option TimerState :=
  if state.obj.started then some state
  else
    state.obj.timerid.map fun timerid =>
      { state with
        obj := { state.obj with started := true }
        armed := timerSettime state.armed timerid state.obj.duration }

def timerStop (state : TimerState) : Option TimerState :=
  state.obj.timerid.map fun timerid =>
    { state with
      obj := { state.obj with started := false }
      armed := timerSettime state.armed timerid nullDuration }

def timerReset (state : TimerState) : Option TimerState :=
  timerStart { state with obj := { state.obj with started := false } }

/-- The signal of an expired kernel timer carries the object that created the timer. -/
def sighandler (state : TimerState) (timerid : Nat) : Option TimerState :=
  (state.armed timerid).map fun _ =>
    { state with
      obj := { state.obj with started := false }
      armed := Function.update state.armed timerid none }

def cbStartTimer (state : TimerState) (duration : UInt32) : Option TimerState :=
  timerStart (timerSetValue state duration)

/-- A history mixes the five operations with the expiries of the kernel timers. -/
inductive TimerAction where
  | timerInit (succeeds : Bool)
  | timerSetValue (value : UInt32)
  | timerStart
  | timerStop
  | timerReset
  | expire (timerid : Nat)
  deriving Repr, DecidableEq

def timerStep (state : TimerState) : TimerAction → Option TimerState
  | .timerInit succeeds => some (timerInit state succeeds)
  | .timerSetValue value => some (timerSetValue state value)
  | .timerStart => timerStart state
  | .timerStop => timerStop state
  | .timerReset => timerReset state
  | .expire timerid => sighandler state timerid

/-- The static object starts zeroed. -/
def timerSystem : LabelledSystem TimerState TimerAction Unit where
  initial state := state = ⟨⟨none, nullDuration, false⟩, 0, fun _ => none⟩
  step state action := (timerStep state action).map fun next => (next, ())

/-- This is the setting of the kernel timer of the object, if that timer is armed. -/
def TimerState.current (state : TimerState) : Option Itimerspec := state.obj.timerid.bind state.armed

/-- The flag shows the kernel timer, and a start with a duration arms a timer that is not running. -/
structure Restartable (state : TimerState) : Prop where
  flag : state.obj.started = true ↔ state.current.isSome = true
  restarts : ∀ duration, duration ≠ 0 → state.obj.timerid.isSome = true → state.current = none →
    ∃ next, cbStartTimer state duration = some next ∧ next.current = some (itValue duration)

/-- No start or reset reaches the kernel with a zero duration, and no initialization meets an armed timer. -/
def Sane (state : TimerState) : TimerAction → Prop
  | .timerInit _ => state.current = none
  | .timerStart => state.obj.started = true ∨ state.obj.duration ≠ nullDuration
  | .timerReset => state.obj.duration ≠ nullDuration
  | _ => True

instance (state : TimerState) : (action : TimerAction) → Decidable (Sane state action)
  | .timerInit _ => inferInstanceAs (Decidable (_ = none))
  | .timerSetValue _ => inferInstanceAs (Decidable True)
  | .timerStart => inferInstanceAs (Decidable (_ ∨ _))
  | .timerStop => inferInstanceAs (Decidable True)
  | .timerReset => inferInstanceAs (Decidable (_ ≠ _))
  | .expire _ => inferInstanceAs (Decidable True)

/-- Only the latest kernel timer may be armed. -/
structure LatestArmed (state : TimerState) : Prop where
  latest : ∀ timerid, (state.armed timerid).isSome = true → state.obj.timerid = some timerid
  known : ∀ timerid, state.obj.timerid = some timerid → timerid < state.created

/-- The flag shows the latest kernel timer. -/
structure TimerInvariant (state : TimerState) : Prop extends LatestArmed state where
  flag : state.obj.started = true ↔ state.current.isSome = true

theorem itValue_ne_null {value : UInt32} (positive : value ≠ 0) : itValue value ≠ nullDuration := by
  intro null
  apply positive
  simp only [itValue, nullDuration, Itimerspec.mk.injEq] at null
  apply UInt32.toNat_inj.mp
  show value.toNat = 0
  omega

/-- A setting of the kernel timer of the object is what the kernel then holds for it. -/
theorem timerSettime_current (armed : Nat → Option Itimerspec) (timerid : Nat) {value : Itimerspec}
    (positive : value ≠ nullDuration) : timerSettime armed timerid value timerid = some value := by
  rw [timerSettime, Function.update_self, if_neg positive]

theorem timerSettime_null (armed : Nat → Option Itimerspec) (timerid : Nat) :
    timerSettime armed timerid nullDuration timerid = none := by
  rw [timerSettime, Function.update_self, if_pos rfl]

theorem timerSettime_other (armed : Nat → Option Itimerspec) {timerid other : Nat} (value : Itimerspec)
    (differs : other ≠ timerid) : timerSettime armed timerid value other = armed other := by
  rw [timerSettime, Function.update_of_ne differs]

section Steps

variable {state next : TimerState}

/-- One kernel timer has a new setting, and the flag shows whether this arms it. -/
def TimerState.settle (state : TimerState) (timerid : Nat) (value : Option Itimerspec) : TimerState :=
  { state with
    obj := { state.obj with started := value.isSome }
    armed := Function.update state.armed timerid value }

/-- A setting of the latest kernel timer gives the invariant. -/
theorem settle_invariant (invariant : LatestArmed state) {timerid : Nat} (found : state.obj.timerid = some timerid)
    (value : Option Itimerspec) :
    TimerInvariant (state.settle timerid value) ∧ (state.settle timerid value).current = value := by
  have latest (other : Nat) (armed : (Function.update state.armed timerid value other).isSome = true) :
      state.obj.timerid = some other := by
    by_cases same : other = timerid
    · rw [same]
      exact found
    · rw [Function.update_of_ne same] at armed
      exact invariant.latest other armed
  have current : (state.settle timerid value).current = value := by
    show state.obj.timerid.bind (Function.update state.armed timerid value) = value
    rw [found, Option.bind_some, Function.update_self]
  have flag : (state.settle timerid value).obj.started = true ↔
      (state.settle timerid value).current.isSome = true := by
    rw [current]
    rfl
  exact ⟨⟨⟨latest, invariant.known⟩, flag⟩, current⟩

/-- A start that reaches the kernel sets the flag and arms the timer with the duration. -/
theorem timerStart_arms (invariant : LatestArmed state) (stopped : state.obj.started = false)
    (positive : state.obj.duration ≠ nullDuration) (taken : timerStart state = some next) :
    TimerInvariant next ∧ next.current = some state.obj.duration := by
  rw [timerStart, stopped] at taken
  obtain ⟨timerid, found, rfl⟩ := Option.map_eq_some_iff.mp taken
  rw [timerSettime, if_neg positive]
  exact settle_invariant invariant found (some state.obj.duration)

/-- A stop disarms the latest kernel timer and lowers the flag. -/
theorem timerStop_disarms (invariant : LatestArmed state) (taken : timerStop state = some next) :
    TimerInvariant next := by
  obtain ⟨timerid, found, rfl⟩ := Option.map_eq_some_iff.mp taken
  rw [timerSettime, if_pos rfl]
  exact (settle_invariant invariant found none).1

/-- An expiry of the latest kernel timer lowers the flag together with it. -/
theorem sighandler_disarms (invariant : LatestArmed state) {timerid : Nat}
    (taken : sighandler state timerid = some next) : TimerInvariant next := by
  obtain ⟨value, armed, rfl⟩ := Option.map_eq_some_iff.mp taken
  have found := invariant.latest timerid (by rw [armed]; rfl)
  exact (settle_invariant invariant found none).1

/-- An initialization of an unarmed timer leaves no kernel timer armed. -/
theorem timerInit_unarmed (invariant : LatestArmed state) (unarmed : state.current = none) (succeeds : Bool) :
    TimerInvariant (timerInit state succeeds) := by
  have nothing (timerid : Nat) : state.armed timerid = none := by
    by_contra armed
    have found := invariant.latest timerid (Option.isSome_iff_ne_none.mpr armed)
    rw [TimerState.current, found, Option.bind_some] at unarmed
    exact armed unarmed
  have none (timerid : Option Nat) : timerid.bind state.armed = none := by
    cases timerid with
    | none => rfl
    | some timerid => exact nothing timerid
  cases succeeds with
  | true =>
      refine ⟨⟨?_, ?_⟩, ?_⟩
      · intro timerid armed
        change (state.armed timerid).isSome = true at armed
        rw [nothing] at armed
        cases armed
      · intro timerid found
        rw [← Option.some.inj found]
        exact Nat.lt_succ_self _
      · apply iff_of_false Bool.false_ne_true
        show ¬((some state.created).bind state.armed).isSome = true
        rw [none]
        exact Bool.false_ne_true
  | false =>
      refine ⟨⟨invariant.latest, invariant.known⟩, ?_⟩
      apply iff_of_false Bool.false_ne_true
      show ¬(state.obj.timerid.bind state.armed).isSome = true
      rw [none]
      exact Bool.false_ne_true

theorem timerStep_invariant {action : TimerAction} (invariant : TimerInvariant state) (sane : Sane state action)
    (taken : timerStep state action = some next) : TimerInvariant next := by
  have latest := invariant.toLatestArmed
  cases action with
  | timerInit succeeds =>
      rw [← Option.some.inj taken]
      exact timerInit_unarmed latest sane succeeds
  | timerSetValue value =>
      rw [← Option.some.inj taken]
      exact ⟨⟨invariant.latest, invariant.known⟩, invariant.flag⟩
  | timerStart =>
      change timerStart state = some next at taken
      by_cases running : state.obj.started = true
      · rw [timerStart, if_pos running] at taken
        rw [← Option.some.inj taken]
        exact invariant
      · have positive := sane.resolve_left running
        exact (timerStart_arms latest (Bool.eq_false_iff.mpr running) positive taken).1
  | timerStop => exact timerStop_disarms latest taken
  | timerReset =>
      have lowered : LatestArmed { state with obj := { state.obj with started := false } } :=
        ⟨invariant.latest, invariant.known⟩
      exact (timerStart_arms lowered rfl sane taken).1
  | expire timerid => exact sighandler_disarms latest taken

/-- The invariant makes every start with a duration arm a timer that is not running. -/
theorem restartable_of_invariant (invariant : TimerInvariant state) : Restartable state := by
  refine ⟨invariant.flag, ?_⟩
  intro duration positive initialized idle
  have stopped : state.obj.started = false := by
    rw [Bool.eq_false_iff, ne_eq, invariant.flag, idle]
    exact Bool.false_ne_true
  obtain ⟨timerid, found⟩ := Option.isSome_iff_exists.mp initialized
  have set : LatestArmed (timerSetValue state duration) := ⟨invariant.latest, invariant.known⟩
  have taken : cbStartTimer state duration = some
      { timerSetValue state duration with
        obj := { (timerSetValue state duration).obj with started := true }
        armed := timerSettime state.armed timerid (itValue duration) } := by
    rw [cbStartTimer, timerStart, if_neg (by simp [timerSetValue, stopped])]
    show state.obj.timerid.map _ = _
    rw [found]
    rfl
  exact ⟨_, taken, (timerStart_arms set stopped (itValue_ne_null positive) taken).2⟩

/-- The step system takes exactly the steps of the functions. -/
theorem timerSystem_step {action : TimerAction} {output : Unit}
    (taken : timerSystem.step state action = some (next, output)) : timerStep state action = some next := by
  obtain ⟨after, step, same⟩ := Option.map_eq_some_iff.mp taken
  obtain ⟨rfl, -⟩ := Prod.mk.inj same
  exact step

theorem saneRun_invariant {trace : List (TimerAction × Unit)} (run : (timerSystem.restrict Sane).Run state trace) :
    TimerInvariant state := by
  induction run with
  | start initial =>
      cases initial
      refine ⟨⟨?_, ?_⟩, ?_⟩
      · intro timerid armed
        cases armed
      · intro timerid found
        cases found
      · exact iff_of_false Bool.false_ne_true Bool.false_ne_true
  | extend previous taken ih =>
      obtain ⟨sane, step⟩ := LabelledSystem.restrict_step taken
      exact timerStep_invariant ih sane (timerSystem_step step)

/-- The flag and the kernel timer differ after some more actions. -/
def LeadsAstray (state : TimerState) : Prop :=
  ∃ actions final trace, timerSystem.exec state actions = some (final, trace) ∧ ¬Restartable final

theorem leadsAstray_now (differs : ¬(state.obj.started = true ↔ state.current.isSome = true)) : LeadsAstray state :=
  ⟨[], state, [], rfl, fun fine => differs fine.flag⟩

/-- A start that reaches the kernel with a zero duration sets the flag of an unarmed timer. -/
theorem timerStart_zero (stopped : state.obj.started = false) (zero : state.obj.duration = nullDuration)
    (taken : timerStart state = some next) : LeadsAstray next := by
  rw [timerStart, stopped] at taken
  obtain ⟨timerid, found, rfl⟩ := Option.map_eq_some_iff.mp taken
  apply leadsAstray_now
  intro same
  have armed : (state.obj.timerid.bind (timerSettime state.armed timerid state.obj.duration)).isSome = true :=
    same.mp rfl
  rw [found, Option.bind_some, zero, timerSettime_null] at armed
  cases armed

/-- An initialization of an armed timer forgets it, and its expiry later lowers the flag of the new one. -/
theorem timerInit_armed (invariant : LatestArmed state) (armed : state.current ≠ none) (succeeds : Bool) :
    LeadsAstray (timerInit state succeeds) := by
  obtain ⟨value, held⟩ := Option.ne_none_iff_exists'.mp armed
  obtain ⟨old, found, running⟩ := Option.bind_eq_some_iff.mp held
  cases succeeds with
  | false =>
      apply leadsAstray_now
      intro same
      have raised : false = true := same.mpr (by
        show (state.obj.timerid.bind state.armed).isSome = true
        rw [found, Option.bind_some, running]
        rfl)
      cases raised
  | true =>
      have fresh : old ≠ state.created := Nat.ne_of_lt (invariant.known old found)
      have fired : timerSettime state.armed state.created (itValue 1) old = some value := by
        rw [timerSettime_other _ _ fresh, running]
      let final : TimerState :=
        ⟨⟨some state.created, itValue 1, false⟩, state.created + 1,
          Function.update (timerSettime state.armed state.created (itValue 1)) old none⟩
      refine ⟨[.timerSetValue 1, .timerStart, .expire old], final,
        [(.timerSetValue 1, ()), (.timerStart, ()), (.expire old, ())], ?_, ?_⟩
      · simp [LabelledSystem.exec, timerSystem, timerStep, timerInit, timerSetValue, timerStart, sighandler, fired,
          final]
      · intro fine
        have raised : false = true := fine.flag.mpr (by
          show (Function.update (timerSettime state.armed state.created (itValue 1)) old none
            state.created).isSome = true
          rw [Function.update_of_ne fresh.symm, timerSettime_current _ _ (itValue_ne_null (by decide))]
          rfl)
        cases raised

/-- Every other step of a sane history leads astray. -/
theorem insane_astray {action : TimerAction} (invariant : LatestArmed state) (insane : ¬Sane state action)
    (taken : timerStep state action = some next) : LeadsAstray next := by
  cases action with
  | timerInit succeeds =>
      rw [← Option.some.inj taken]
      exact timerInit_armed invariant insane succeeds
  | timerSetValue value => exact absurd trivial insane
  | timerStart =>
      obtain ⟨stopped, zero⟩ := not_or.mp insane
      exact timerStart_zero (Bool.eq_false_iff.mpr stopped) (not_not.mp zero) taken
  | timerStop => exact absurd trivial insane
  | timerReset =>
      have lowered : timerStart { state with obj := { state.obj with started := false } } = some next := taken
      exact @timerStart_zero { state with obj := { state.obj with started := false } } next rfl (not_not.mp insane)
        lowered
  | expire timerid => exact absurd trivial insane

end Steps

/-- In every sane history the timer stays restartable, and every step that is not sane leads astray. -/
theorem timers_restartable {state : TimerState} {trace : List (TimerAction × Unit)}
    (run : (timerSystem.restrict Sane).Run state trace) :
    Restartable state ∧ ∀ action next output, ¬Sane state action →
      timerSystem.step state action = some (next, output) → LeadsAstray next := by
  have invariant := saneRun_invariant run
  refine ⟨restartable_of_invariant invariant, ?_⟩
  intro action next output insane taken
  exact insane_astray invariant.toLatestArmed insane (timerSystem_step taken)

/-- A start for a second arms the timer, and a start after its expiry does so again. -/
def restartHistory : List TimerAction :=
  [.timerInit true, .timerSetValue 1000, .timerStart, .expire 0, .timerSetValue 500, .timerStart]

theorem restartHistory_restartable :
    ∃ state trace, (timerSystem.restrict Sane).exec ⟨⟨none, nullDuration, false⟩, 0, fun _ => none⟩ restartHistory =
        some (state, trace) ∧ state.current = some (itValue 500) ∧ Restartable state := by
  refine ⟨_, _, rfl, rfl, ?_⟩
  exact (timers_restartable ((LabelledSystem.Run.start rfl).exec
    (show (timerSystem.restrict Sane).exec _ restartHistory = _ from rfl))).1

/-- A start with the duration zero sets the flag of an unarmed timer, and no later start arms it. -/
theorem zeroDuration_stuck :
    ∃ state trace, timerSystem.exec ⟨⟨none, nullDuration, false⟩, 0, fun _ => none⟩
        [.timerInit true, .timerSetValue 0, .timerStart] = some (state, trace) ∧
      ¬Restartable state ∧ state.obj.started = true ∧ state.current = none ∧
      ∀ duration next, cbStartTimer state duration = some next → next.current = none := by
  refine ⟨_, _, rfl, ?_, rfl, rfl, ?_⟩
  · intro fine
    cases fine.flag.mp rfl
  · intro duration next taken
    rw [← Option.some.inj taken]
    rfl

end SchcWork.Platform
