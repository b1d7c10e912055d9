import SchcWork.Worker.Progress

namespace SchcWork.Worker

open Net Platform

variable {Context : Type}

/-- The loop stands before one of these statements, or it has ended. -/
inductive LoopPoint where
  | test
  | mgtTest
  | mgtClear
  | mgtCall
  | mgtRunning
  | alTest
  | alCall
  | lowPower
  | finished
  deriving Repr, DecidableEq

/-- The two flags are static variables that the callbacks and the signal handler set. -/
structure MainState (Context : Type) where
  worker : WorkerState Context
  point : LoopPoint
  mgtProcessRequest : Bool
  terminateFlag : Bool

/-- The last four actions are those of the environment. -/
inductive MainAction where
  | advance
  | mgtProcess
  | process (errors : List Errno) (reply : NetSendtoReply)
  | poll (result : PollResult)
  | arrive (packet : List UInt8)
  | report (action : WorkerAction)
  | processingRequired
  | interrupt

/-- The SDK reports results and deliveries only. -/
def WorkerAction.isReport : WorkerAction → Bool
  | .transmissionResult _ _ | .dataReceived _ _ _ _ => true
  | _ => false

/-- The next statement of the loop, when it calls no other function. -/
def MainState.advance (state : MainState Context) : Option (MainState Context) :=
  match state.point with
  | .test => some { state with point := if state.terminateFlag then .finished else .mgtTest }
  | .mgtTest => some { state with point := if state.mgtProcessRequest then .mgtClear else .alTest }
  | .mgtClear => some { state with point := .mgtCall, mgtProcessRequest := false }
  | .mgtRunning => some { state with point := .alTest }
  | .alTest => some { state with point := if state.worker.al.processingRequired then .alCall else .lowPower }
  | .mgtCall | .alCall | .lowPower | .finished => none

/-- A step of the worker takes place, and the loop goes on at a point. -/
def MainState.take (library : Uoscore Context) (build : Build) (state : MainState Context) (point : LoopPoint)
    (action : WorkerAction) : Option (MainState Context × Option (WorkerOutput Context)) :=
  (workerStep library build state.worker action).map fun taken =>
    ({ state with worker := taken.1, point := point }, some taken.2)

/-- Without a watched descriptor the low-power call pauses. -/
def mainStep (library : Uoscore Context) (build : Build) (state : MainState Context) :
    MainAction → Option (MainState Context × Option (WorkerOutput Context))
  | .advance => state.advance.map fun next => (next, none)
  | .mgtProcess => if state.point = .mgtCall then some ({ state with point := .mgtRunning }, none) else none
  | .process errors reply =>
      if state.point = .alCall then state.take library build .lowPower (.process errors reply) else none
  | .poll result =>
      if state.point = .lowPower ∧ 0 < nbrFds state.worker.watched then state.take library build .test (.poll result)
      else none
  | .arrive packet => state.take library build state.point (.arrive packet)
  | .report action => if action.isReport then state.take library build state.point action else none
  | .processingRequired => some ({ state with mgtProcessRequest := true }, none)
  | .interrupt => some ({ state with terminateFlag := true }, none)

/-- The handler of the signals is installed right before the loop. -/
def mainSystem (library : Uoscore Context) (build : Build) (mode : PeerMode) :
    LabelledSystem (MainState Context) MainAction (Option (WorkerOutput Context)) where
  initial state := Started library build mode state.worker ∧ state.point = .test ∧ state.terminateFlag = false
  step := mainStep library build

def MainAction.worker : MainAction → Option WorkerAction
  | .process errors reply => some (.process errors reply)
  | .poll result => some (.poll result)
  | .arrive packet => some (.arrive packet)
  | .report action => some action
  | _ => none

/-- These are the records of the worker in a trace of the loop. -/
def workerTrace (trace : List (MainAction × Option (WorkerOutput Context))) :
    List (WorkerAction × WorkerOutput Context) :=
  trace.filterMap fun record => record.1.worker.bind fun action => record.2.map fun output => (action, output)

section Loop

variable {library : Uoscore Context} {build : Build} {mode : PeerMode}

theorem take_cases {state next : MainState Context} {point : LoopPoint} {action : WorkerAction}
    {output : Option (WorkerOutput Context)} (took : state.take library build point action = some (next, output)) :
    ∃ worker written, workerStep library build state.worker action = some (worker, written) ∧
      next = { state with worker := worker, point := point } ∧ output = some written := by
  obtain ⟨⟨worker, written⟩, stepped, equal⟩ := Option.map_eq_some_iff.mp took
  obtain ⟨rfl, rfl⟩ := Prod.mk.inj equal
  exact ⟨worker, written, stepped, rfl, rfl⟩

/-- Each constructor is one enabled step of the loop or of its environment. -/
inductive MainPath (library : Uoscore Context) (build : Build) (state : MainState Context) :
    MainAction → MainState Context → Option (WorkerOutput Context) → Prop where
  | continues (tested : state.point = .test) (unset : state.terminateFlag = false) :
      MainPath library build state .advance { state with point := .mgtTest } none
  | finishes (tested : state.point = .test) (set : state.terminateFlag = true) :
      MainPath library build state .advance { state with point := .finished } none
  | requested (tested : state.point = .mgtTest) (set : state.mgtProcessRequest = true) :
      MainPath library build state .advance { state with point := .mgtClear } none
  | unrequested (tested : state.point = .mgtTest) (unset : state.mgtProcessRequest = false) :
      MainPath library build state .advance { state with point := .alTest } none
  | clears (cleared : state.point = .mgtClear) :
      MainPath library build state .advance { state with point := .mgtCall, mgtProcessRequest := false } none
  | returns (running : state.point = .mgtRunning) :
      MainPath library build state .advance { state with point := .alTest } none
  | required (tested : state.point = .alTest) (set : state.worker.al.processingRequired = true) :
      MainPath library build state .advance { state with point := .alCall } none
  | unrequired (tested : state.point = .alTest) (unset : state.worker.al.processingRequired = false) :
      MainPath library build state .advance { state with point := .lowPower } none
  | mgtProcess (called : state.point = .mgtCall) :
      MainPath library build state .mgtProcess { state with point := .mgtRunning } none
  | process (called : state.point = .alCall) (errors : List Errno) (reply : NetSendtoReply)
      (worker : WorkerState Context) (output : WorkerOutput Context)
      (taken : workerStep library build state.worker (.process errors reply) = some (worker, output)) :
      MainPath library build state (.process errors reply) { state with worker := worker, point := .lowPower }
        (some output)
  | poll (called : state.point = .lowPower) (result : PollResult) (worker : WorkerState Context)
      (output : WorkerOutput Context)
      (taken : workerStep library build state.worker (.poll result) = some (worker, output)) :
      MainPath library build state (.poll result) { state with worker := worker, point := .test } (some output)
  | arrive (packet : List UInt8) (worker : WorkerState Context) (output : WorkerOutput Context)
      (taken : workerStep library build state.worker (.arrive packet) = some (worker, output)) :
      MainPath library build state (.arrive packet) { state with worker := worker } (some output)
  | report (action : WorkerAction) (reports : action.isReport = true) (worker : WorkerState Context)
      (output : WorkerOutput Context)
      (taken : workerStep library build state.worker action = some (worker, output)) :
      MainPath library build state (.report action) { state with worker := worker } (some output)
  | processingRequired :
      MainPath library build state .processingRequired { state with mgtProcessRequest := true } none
  | interrupt : MainPath library build state .interrupt { state with terminateFlag := true } none

theorem advance_path {state next : MainState Context} (advanced : state.advance = some next) :
    MainPath library build state .advance next none := by
  unfold MainState.advance at advanced
  cases point : state.point with
  | test =>
      simp only [point, Option.some.injEq] at advanced
      split at advanced
      · rename_i set
        rw [← advanced]
        exact .finishes point set
      · rename_i unset
        rw [← advanced]
        exact .continues point (Bool.eq_false_iff.mpr unset)
  | mgtTest =>
      simp only [point, Option.some.injEq] at advanced
      split at advanced
      · rename_i set
        rw [← advanced]
        exact .requested point set
      · rename_i unset
        rw [← advanced]
        exact .unrequested point (Bool.eq_false_iff.mpr unset)
  | mgtClear =>
      simp only [point, Option.some.injEq] at advanced
      rw [← advanced]
      exact .clears point
  | mgtRunning =>
      simp only [point, Option.some.injEq] at advanced
      rw [← advanced]
      exact .returns point
  | alTest =>
      simp only [point, Option.some.injEq] at advanced
      split at advanced
      · rename_i set
        rw [← advanced]
        exact .required point set
      · rename_i unset
        rw [← advanced]
        exact .unrequired point (Bool.eq_false_iff.mpr unset)
  | mgtCall => simp only [point, reduceCtorEq] at advanced
  | alCall => simp only [point, reduceCtorEq] at advanced
  | lowPower => simp only [point, reduceCtorEq] at advanced
  | finished => simp only [point, reduceCtorEq] at advanced

theorem mainStep_path {state next : MainState Context} {action : MainAction}
    {output : Option (WorkerOutput Context)} (taken : mainStep library build state action = some (next, output)) :
    MainPath library build state action next output := by
  cases action with
  | advance =>
      obtain ⟨following, advanced, equal⟩ := Option.map_eq_some_iff.mp taken
      obtain ⟨rfl, rfl⟩ := Prod.mk.inj equal
      exact advance_path advanced
  | mgtProcess =>
      simp only [mainStep] at taken
      split at taken
      · rename_i called
        obtain ⟨rfl, rfl⟩ := Prod.mk.inj (Option.some.inj taken)
        exact .mgtProcess called
      · contradiction
  | process errors reply =>
      simp only [mainStep] at taken
      split at taken
      · rename_i called
        obtain ⟨worker, written, stepped, rfl, rfl⟩ := take_cases taken
        exact .process called errors reply worker written stepped
      · contradiction
  | poll result =>
      simp only [mainStep] at taken
      split at taken
      · rename_i called
        obtain ⟨worker, written, stepped, rfl, rfl⟩ := take_cases taken
        exact .poll called.1 result worker written stepped
      · contradiction
  | arrive packet =>
      obtain ⟨worker, written, stepped, rfl, rfl⟩ :=
        take_cases (show state.take library build state.point _ = _ from taken)
      exact .arrive packet worker written stepped
  | report action =>
      simp only [mainStep] at taken
      split at taken
      · rename_i reports
        obtain ⟨worker, written, stepped, rfl, rfl⟩ := take_cases taken
        exact .report action reports worker written stepped
      · contradiction
  | processingRequired =>
      obtain ⟨rfl, rfl⟩ := Prod.mk.inj (Option.some.inj taken)
      exact .processingRequired
  | interrupt =>
      obtain ⟨rfl, rfl⟩ := Prod.mk.inj (Option.some.inj taken)
      exact .interrupt

/-- A step is a step of the worker, or it leaves the worker alone. -/
theorem MainPath.worker {state next : MainState Context} {action : MainAction}
    {output : Option (WorkerOutput Context)} (path : MainPath library build state action next output) :
    (output = none ∧ next.worker = state.worker) ∨
      ∃ moved written, action.worker = some moved ∧ output = some written ∧
        workerStep library build state.worker moved = some (next.worker, written) := by
  cases path with
  | process called errors reply worker written taken => exact .inr ⟨_, _, rfl, rfl, taken⟩
  | poll called result worker written taken => exact .inr ⟨_, _, rfl, rfl, taken⟩
  | arrive packet worker written taken => exact .inr ⟨_, _, rfl, rfl, taken⟩
  | report action reports worker written taken => exact .inr ⟨_, _, rfl, rfl, taken⟩
  | continues | finishes | requested | unrequested | clears | returns | required | unrequired | mgtProcess
  | processingRequired | interrupt => exact .inl ⟨rfl, rfl⟩

/-- Every run of the loop is a run of the worker. -/
theorem mainSystem_refines {state : MainState Context} {trace : List (MainAction × Option (WorkerOutput Context))}
    (run : (mainSystem library build mode).Run state trace) :
    (workerSystem library build mode).Run state.worker (workerTrace trace) := by
  induction run with
  | start initial => exact .start initial.1
  | @extend before next trace action output previous taken ih =>
      rw [workerTrace, filterMap_concat]
      rcases (mainStep_path taken).worker with ⟨rfl, same⟩ | ⟨moved, written, moves, rfl, stepped⟩
      · rw [same]
        have nothing : (action.worker.bind fun action => (none : Option (WorkerOutput Context)).map fun output =>
            (action, output)) = none := by cases action.worker <;> rfl
        rw [nothing, Option.toList_none, List.append_nil]
        exact ih
      · rw [moves]
        exact ih.extend stepped

def MainAction.isPoll : MainAction → Bool
  | .poll _ => true
  | _ => false

def MainAction.isMgtProcess : MainAction → Bool
  | .mgtProcess => true
  | _ => false

def MainAction.isProcess : MainAction → Bool
  | .process _ _ => true
  | _ => false

/-- The loop itself takes these steps. -/
def MainAction.isLoop : MainAction → Bool
  | .advance | .mgtProcess | .process _ _ | .poll _ => true
  | _ => false

/-- These low-power calls return before `mgt_process` starts. -/
def LoopPoint.pollsToMgt : LoopPoint → Nat
  | .mgtRunning | .alTest | .alCall | .lowPower => 1
  | _ => 0

/-- These low-power calls return before the layer processes. -/
def LoopPoint.pollsToAl : LoopPoint → Nat
  | .lowPower => 1
  | _ => 0

/-- These low-power calls return before the next test of the loop. -/
def LoopPoint.pollsToTest : LoopPoint → Nat
  | .test | .finished => 0
  | _ => 1

/-- The loop takes these steps before a pending request comes to its call. -/
def LoopPoint.stepsToMgt : LoopPoint → Nat
  | .mgtRunning => 7
  | .alTest => 6
  | .alCall => 5
  | .lowPower => 4
  | .test => 3
  | .mgtTest => 2
  | .mgtClear => 1
  | .mgtCall | .finished => 0

/-- The loop takes these steps before a layer that is due comes to its call. -/
def LoopPoint.stepsToAl : LoopPoint → Nat
  | .lowPower => 7
  | .test => 6
  | .mgtTest => 5
  | .mgtClear => 4
  | .mgtCall => 3
  | .mgtRunning => 2
  | .alTest => 1
  | .alCall | .finished => 0

/-- The loop takes these steps before it ends, once the termination flag is up. -/
def LoopPoint.stepsToEnd : LoopPoint → Nat
  | .mgtTest => 8
  | .mgtClear => 7
  | .mgtCall => 6
  | .mgtRunning => 5
  | .alTest => 4
  | .alCall => 3
  | .lowPower => 2
  | .test => 1
  | .finished => 0

def LoopPoint.mgtToTest : LoopPoint → Nat
  | .mgtTest | .mgtClear | .mgtCall => 1
  | _ => 0

def LoopPoint.alToTest : LoopPoint → Nat
  | .test | .lowPower | .finished => 0
  | _ => 1

/-- Only the processing of the layer takes the notification back. -/
theorem workerStep_required {worker next : WorkerState Context} {action : WorkerAction}
    {output : WorkerOutput Context} (other : ∀ errors reply, action ≠ .process errors reply)
    (required : worker.al.processingRequired = true)
    (taken : workerStep library build worker action = some (next, output)) :
    next.al.processingRequired = true := by
  cases workerStep_path taken with
  | arrive packet => exact required
  | poll result truthful =>
      let property (current : WorkerState Context) : Prop := current.al.processingRequired = true
      have base : property worker := required
      show property (platformEnterLowPowerLl WorkerState.watched runCallback result worker)
      apply platformEnterLowPowerLl_invariant base
      intro readable current idx callback reported inside ready found holds
      cases callback with
      | l2 index => exact holds
      | schcAlTunReceivedHandler => exact (rfl : true = true)
  | process errors reply result path => exact absurd rfl (other errors reply)
  | transmissionResult status error pending => exact required
  | delivered buffer dataSize writeFails =>
      obtain ⟨oscCtx, state, -⟩ := schcAlForwardUp_state library build worker.al buffer dataSize writeFails
      rw [state]
      exact required
  | undelivered => exact required

/-- A step uses up the low-power calls and the steps that its point has left. -/
structure Uses (pollsLeft stepsLeft : LoopPoint → Nat) (before after : LoopPoint) (action : MainAction) : Prop where
  polls : pollsLeft after + (if action.isPoll then 1 else 0) ≤ pollsLeft before
  steps : stepsLeft after + (if action.isLoop then 1 else 0) ≤ stepsLeft before

theorem Uses.of_counts {pollsLeft stepsLeft : LoopPoint → Nat} {before after point : LoopPoint} {action : MainAction}
    (stands : before = point)
    (polls : Nat.ble (pollsLeft after + (if action.isPoll then 1 else 0)) (pollsLeft point) = true)
    (steps : Nat.ble (stepsLeft after + (if action.isLoop then 1 else 0)) (stepsLeft point) = true) :
    Uses pollsLeft stepsLeft before after action := by
  rw [stands]
  exact ⟨Nat.le_of_ble_eq_true polls, Nat.le_of_ble_eq_true steps⟩

theorem Uses.environment {pollsLeft stepsLeft : LoopPoint → Nat} {point : LoopPoint} {action : MainAction}
    (silent : action.isPoll = false) (other : action.isLoop = false) : Uses pollsLeft stepsLeft point point action := by
  constructor
  · rw [silent]
    exact Nat.le_refl _
  · rw [other]
    exact Nat.le_refl _

/-- A request is pending while its flag is set or `mgt_process` is the next call. -/
def Requested (state : MainState Context) : Prop := state.mgtProcessRequest = true ∨ state.point = .mgtCall

theorem requested_step {state next : MainState Context} {action : MainAction}
    {output : Option (WorkerOutput Context)} (requested : Requested state)
    (taken : mainStep library build state action = some (next, output)) (unserved : action.isMgtProcess = false) :
    Requested next ∧ Uses LoopPoint.pollsToMgt LoopPoint.stepsToMgt state.point next.point action := by
  cases mainStep_path taken with
  | continues tested unset =>
      rw [Requested, tested] at requested
      exact ⟨.inl (requested.resolve_right nofun), .of_counts tested rfl rfl⟩
  | finishes tested set =>
      rw [Requested, tested] at requested
      exact ⟨.inl (requested.resolve_right nofun), .of_counts tested rfl rfl⟩
  | requested tested set => exact ⟨.inl set, .of_counts tested rfl rfl⟩
  | unrequested tested unset =>
      rw [Requested, tested, unset] at requested
      exact absurd requested nofun
  | clears cleared => exact ⟨.inr rfl, .of_counts cleared rfl rfl⟩
  | returns running =>
      rw [Requested, running] at requested
      exact ⟨.inl (requested.resolve_right nofun), .of_counts running rfl rfl⟩
  | required tested set =>
      rw [Requested, tested] at requested
      exact ⟨.inl (requested.resolve_right nofun), .of_counts tested rfl rfl⟩
  | unrequired tested unset =>
      rw [Requested, tested] at requested
      exact ⟨.inl (requested.resolve_right nofun), .of_counts tested rfl rfl⟩
  | mgtProcess called => contradiction
  | process called errors reply worker output stepped =>
      rw [Requested, called] at requested
      exact ⟨.inl (requested.resolve_right nofun), .of_counts called rfl rfl⟩
  | poll called result worker output stepped =>
      rw [Requested, called] at requested
      exact ⟨.inl (requested.resolve_right nofun), .of_counts called rfl rfl⟩
  | arrive packet worker output stepped => exact ⟨requested, .environment rfl rfl⟩
  | report moved reports worker output stepped => exact ⟨requested, .environment rfl rfl⟩
  | processingRequired => exact ⟨.inl rfl, .environment rfl rfl⟩
  | interrupt => exact ⟨requested, .environment rfl rfl⟩

/-- The layer is due while its notification is up. -/
theorem required_step {state next : MainState Context} {action : MainAction}
    {output : Option (WorkerOutput Context)} (required : state.worker.al.processingRequired = true)
    (taken : mainStep library build state action = some (next, output)) (unserved : action.isProcess = false) :
    next.worker.al.processingRequired = true ∧
      Uses LoopPoint.pollsToAl LoopPoint.stepsToAl state.point next.point action := by
  cases mainStep_path taken with
  | continues tested unset => exact ⟨required, .of_counts tested rfl rfl⟩
  | finishes tested set => exact ⟨required, .of_counts tested rfl rfl⟩
  | requested tested set => exact ⟨required, .of_counts tested rfl rfl⟩
  | unrequested tested unset => exact ⟨required, .of_counts tested rfl rfl⟩
  | clears cleared => exact ⟨required, .of_counts cleared rfl rfl⟩
  | returns running => exact ⟨required, .of_counts running rfl rfl⟩
  | required tested set => exact ⟨required, .of_counts tested rfl rfl⟩
  | unrequired tested unset => exact absurd (required.symm.trans unset) nofun
  | mgtProcess called => exact ⟨required, .of_counts called rfl rfl⟩
  | process called errors reply worker output stepped => contradiction
  | poll called result worker output stepped =>
      exact ⟨workerStep_required (by rintro _ _ ⟨⟩) required stepped, .of_counts called rfl rfl⟩
  | arrive packet worker output stepped =>
      exact ⟨workerStep_required (by rintro _ _ ⟨⟩) required stepped, .environment rfl rfl⟩
  | report moved reports worker output stepped =>
      refine ⟨workerStep_required ?_ required stepped, .environment rfl rfl⟩
      rintro errors reply rfl
      contradiction
  | processingRequired => exact ⟨required, .environment rfl rfl⟩
  | interrupt => exact ⟨required, .environment rfl rfl⟩

/-- With the termination flag up the loop only finishes its turn. -/
structure Winds (before after : LoopPoint) (action : MainAction) : Prop where
  uses : Uses LoopPoint.pollsToTest LoopPoint.stepsToEnd before after action
  mgt : after.mgtToTest + (if action.isMgtProcess then 1 else 0) ≤ before.mgtToTest
  al : after.alToTest + (if action.isProcess then 1 else 0) ≤ before.alToTest

theorem Winds.of_counts {before after point : LoopPoint} {action : MainAction} (stands : before = point)
    (polls : Nat.ble (after.pollsToTest + (if action.isPoll then 1 else 0)) point.pollsToTest = true)
    (steps : Nat.ble (after.stepsToEnd + (if action.isLoop then 1 else 0)) point.stepsToEnd = true)
    (mgt : Nat.ble (after.mgtToTest + (if action.isMgtProcess then 1 else 0)) point.mgtToTest = true)
    (al : Nat.ble (after.alToTest + (if action.isProcess then 1 else 0)) point.alToTest = true) :
    Winds before after action := by
  refine ⟨.of_counts stands polls steps, ?_, ?_⟩
  · rw [stands]
    exact Nat.le_of_ble_eq_true mgt
  · rw [stands]
    exact Nat.le_of_ble_eq_true al

theorem terminating_step {state next : MainState Context} {action : MainAction}
    {output : Option (WorkerOutput Context)} (terminating : state.terminateFlag = true)
    (taken : mainStep library build state action = some (next, output)) :
    next.terminateFlag = true ∧ Winds state.point next.point action := by
  cases mainStep_path taken with
  | continues tested unset => exact absurd (terminating.symm.trans unset) nofun
  | finishes tested set => exact ⟨terminating, .of_counts tested rfl rfl rfl rfl⟩
  | requested tested set => exact ⟨terminating, .of_counts tested rfl rfl rfl rfl⟩
  | unrequested tested unset => exact ⟨terminating, .of_counts tested rfl rfl rfl rfl⟩
  | clears cleared => exact ⟨terminating, .of_counts cleared rfl rfl rfl rfl⟩
  | returns running => exact ⟨terminating, .of_counts running rfl rfl rfl rfl⟩
  | required tested set => exact ⟨terminating, .of_counts tested rfl rfl rfl rfl⟩
  | unrequired tested unset => exact ⟨terminating, .of_counts tested rfl rfl rfl rfl⟩
  | mgtProcess called => exact ⟨terminating, .of_counts called rfl rfl rfl rfl⟩
  | process called errors reply worker output stepped =>
      exact ⟨terminating, .of_counts called rfl rfl rfl rfl⟩
  | poll called result worker output stepped =>
      exact ⟨terminating, .of_counts called rfl rfl rfl rfl⟩
  | arrive packet worker output stepped =>
      exact ⟨terminating, ⟨.environment rfl rfl, Nat.le_refl _, Nat.le_refl _⟩⟩
  | report moved reports worker output stepped =>
      exact ⟨terminating, ⟨.environment rfl rfl, Nat.le_refl _, Nat.le_refl _⟩⟩
  | processingRequired => exact ⟨terminating, ⟨.environment rfl rfl, Nat.le_refl _, Nat.le_refl _⟩⟩
  | interrupt => exact ⟨rfl, ⟨.environment rfl rfl, Nat.le_refl _, Nat.le_refl _⟩⟩

def pollsIn (trace : List (MainAction × Option (WorkerOutput Context))) : Nat :=
  trace.countP fun record => record.1.isPoll

def loopSteps (trace : List (MainAction × Option (WorkerOutput Context))) : Nat :=
  trace.countP fun record => record.1.isLoop

def serves (trace : List (MainAction × Option (WorkerOutput Context))) : Bool :=
  trace.any fun record => record.1.isMgtProcess

def processes (trace : List (MainAction × Option (WorkerOutput Context))) : Bool :=
  trace.any fun record => record.1.isProcess

/-- While no record is a goal, an execution uses up what its first point has left. -/
theorem exec_uses (waiting : MainState Context → Prop) (goal : MainAction → Bool)
    {pollsLeft stepsLeft : LoopPoint → Nat}
    (step : ∀ state action next output, waiting state → mainStep library build state action = some (next, output) →
      goal action = false → waiting next ∧ Uses pollsLeft stepsLeft state.point next.point action)
    {state final : MainState Context} {actions : List MainAction}
    {trace : List (MainAction × Option (WorkerOutput Context))} (start : waiting state)
    (executed : (mainSystem library build mode).exec state actions = some (final, trace))
    (unserved : (trace.any fun record => goal record.1) = false) :
    pollsIn trace ≤ pollsLeft state.point ∧ loopSteps trace ≤ stepsLeft state.point := by
  have polls := LabelledSystem.exec_ticks (fun state : MainState Context => pollsLeft state.point) MainAction.isPoll
    goal
    (fun state action next output holds taken other =>
      ⟨(step state action next output holds taken other).1, (step state action next output holds taken other).2.polls⟩)
    start executed unserved
  have steps := LabelledSystem.exec_ticks (fun state : MainState Context => stepsLeft state.point) MainAction.isLoop
    goal
    (fun state action next output holds taken other =>
      ⟨(step state action next output holds taken other).1, (step state action next output holds taken other).2.steps⟩)
    start executed unserved
  exact ⟨(Nat.le_add_left _ _).trans polls, (Nat.le_add_left _ _).trans steps⟩

theorem pollsToMgt_le (point : LoopPoint) : point.pollsToMgt ≤ 1 := by cases point <;> decide

theorem stepsToMgt_le (point : LoopPoint) : point.stepsToMgt ≤ 7 := by cases point <;> decide

theorem pollsToTest_le (point : LoopPoint) : point.pollsToTest ≤ 1 := by cases point <;> decide

theorem stepsToEnd_le (point : LoopPoint) : point.stepsToEnd ≤ 8 := by cases point <;> decide

theorem mgtToTest_le (point : LoopPoint) : point.mgtToTest ≤ 1 := by cases point <;> decide

theorem alToTest_le (point : LoopPoint) : point.alToTest ≤ 1 := by cases point <;> decide

/-- A pending request is served before a second low-power call returns and within eight steps. -/
theorem requested_served {state final : MainState Context} {actions : List MainAction}
    {trace : List (MainAction × Option (WorkerOutput Context))} (requested : Requested state)
    (executed : (mainSystem library build mode).exec state actions = some (final, trace))
    (long : 2 ≤ pollsIn trace ∨ 8 ≤ loopSteps trace) : serves trace = true := by
  by_contra unserved
  obtain ⟨polls, steps⟩ := exec_uses Requested MainAction.isMgtProcess
    (fun _ _ _ _ requested taken other => requested_step requested taken other) requested executed
    (Bool.eq_false_iff.mpr unserved)
  have mostPolls := pollsToMgt_le state.point
  have mostSteps := stepsToMgt_le state.point
  omega

/-- A layer that is due at the test processes before the next low-power call returns and within seven steps. -/
theorem required_processed {state final : MainState Context} {actions : List MainAction}
    {trace : List (MainAction × Option (WorkerOutput Context))} (required : state.worker.al.processingRequired = true)
    (started : state.point = .test)
    (executed : (mainSystem library build mode).exec state actions = some (final, trace))
    (long : 1 ≤ pollsIn trace ∨ 7 ≤ loopSteps trace) : processes trace = true := by
  by_contra unserved
  obtain ⟨polls, steps⟩ := exec_uses
    (fun state : MainState Context => state.worker.al.processingRequired = true) MainAction.isProcess
    (fun _ _ _ _ required taken other => required_step required taken other) required executed
    (Bool.eq_false_iff.mpr unserved)
  rw [started] at polls steps
  simp only [LoopPoint.pollsToAl, LoopPoint.stepsToAl] at polls steps
  omega

/-- This part of a trace only finishes one turn of the loop. -/
structure WindsDown (trace : List (MainAction × Option (WorkerOutput Context))) : Prop where
  polls : pollsIn trace ≤ 1
  steps : loopSteps trace ≤ 8
  mgt : (trace.countP fun record => record.1.isMgtProcess) ≤ 1
  al : (trace.countP fun record => record.1.isProcess) ≤ 1

/-- A loop with the termination flag up only finishes its turn. -/
theorem terminating_winds {state final : MainState Context} {actions : List MainAction}
    {trace : List (MainAction × Option (WorkerOutput Context))} (terminating : state.terminateFlag = true)
    (executed : (mainSystem library build mode).exec state actions = some (final, trace)) : WindsDown trace := by
  have never : (trace.any fun _ => false) = false := List.any_eq_false.mpr fun _ _ => Bool.false_ne_true
  obtain ⟨polls, steps⟩ := exec_uses (fun state : MainState Context => state.terminateFlag = true) (fun _ => false)
    (fun _ _ _ _ terminating taken _ =>
      ⟨(terminating_step terminating taken).1, (terminating_step terminating taken).2.uses⟩)
    terminating executed never
  have mgt := LabelledSystem.exec_ticks (fun state : MainState Context => state.point.mgtToTest)
    MainAction.isMgtProcess (fun _ => false) (fun _ _ _ _ terminating taken _ =>
      ⟨(terminating_step terminating taken).1, (terminating_step terminating taken).2.mgt⟩) terminating executed never
  have al := LabelledSystem.exec_ticks (fun state : MainState Context => state.point.alToTest) MainAction.isProcess
    (fun _ => false) (fun _ _ _ _ terminating taken _ =>
      ⟨(terminating_step terminating taken).1, (terminating_step terminating taken).2.al⟩) terminating executed never
  exact ⟨polls.trans (pollsToTest_le state.point), steps.trans (stepsToEnd_le state.point),
    ((Nat.le_add_left _ _).trans mgt).trans (mgtToTest_le state.point),
    ((Nat.le_add_left _ _).trans al).trans (alToTest_le state.point)⟩

/-- A request is served and a reported packet is processed in time, and a termination signal ends the loop. -/
structure Prompt (trace : List (MainAction × Option (WorkerOutput Context))) : Prop where
  requests : ∀ earlier output later, trace = earlier ++ (.processingRequired, output) :: later →
    2 ≤ pollsIn later ∨ 8 ≤ loopSteps later → serves later = true
  packets : ∀ earlier readable output later, trace = earlier ++ (.poll (.ready readable), output) :: later →
    (takenPackets (workerTrace earlier)).length < (arrivals (workerTrace earlier)).length →
      1 ≤ pollsIn later ∨ 7 ≤ loopSteps later → processes later = true
  interrupts : ∀ earlier output later, trace = earlier ++ (.interrupt, output) :: later → WindsDown later

/-- A run goes on from the state after one of its records. -/
theorem run_after {state : MainState Context} {earlier later : List (MainAction × Option (WorkerOutput Context))}
    {action : MainAction} {output : Option (WorkerOutput Context)}
    (run : (mainSystem library build mode).Run state (earlier ++ (action, output) :: later)) :
    ∃ before after, (mainSystem library build mode).Run before earlier ∧
      mainStep library build before action = some (after, output) ∧
      (mainSystem library build mode).exec after (later.map Prod.fst) = some (state, later) := by
  obtain ⟨before, reached, executed⟩ := run.suffix
  obtain ⟨⟨after, written⟩, taken, remaining⟩ := Option.bind_eq_some_iff.mp executed
  obtain ⟨⟨last, tail⟩, executedRest, same⟩ := Option.map_eq_some_iff.mp remaining
  obtain ⟨rfl, sameTail⟩ := Prod.mk.inj same
  obtain ⟨sameRecord, rfl⟩ := List.cons.inj sameTail
  obtain ⟨-, rfl⟩ := Prod.mk.inj sameRecord
  exact ⟨before, after, reached, taken, executedRest⟩

/-- A poll that reports something finds each waiting packet, so the layer is due. -/
theorem poll_required {before after : MainState Context} {readable : Int → Bool}
    {output : Option (WorkerOutput Context)} (reached : (workerSystem library build mode).Reachable before.worker)
    (waiting : before.worker.tun ≠ [])
    (taken : mainStep library build before (.poll (.ready readable)) = some (after, output)) :
    after.worker.al.processingRequired = true ∧ after.point = .test := by
  have watching := reachable_watching reached
  cases mainStep_path taken with
  | poll called result worker written stepped =>
      have moved : (workerSystem library build mode).step before.worker (.poll (.ready readable)) =
        some (worker, written) := stepped
      refine ⟨?_, rfl⟩
      cases workerStep_path stepped with
      | poll result truthful =>
          have truth : readable before.worker.al.tunFd = !before.worker.tun.isEmpty := truthful
          rw [List.isEmpty_eq_false_iff.mpr waiting] at truth
          exact ((reachable_invariant (reached.extend moved)).notified (poll_raises watching truth)).1

/-- The loop has these steps while the SDK answers a submission with a reply. -/
def loopChoices (reply : NetSendtoReply) : List MainAction :=
  [.advance, .mgtProcess, .process [] reply, .poll .nothing]

/-- A loop that has not ended has a step. -/
theorem mainStep_enabled {state : MainState Context}
    (reached : (workerSystem library build mode).Reachable state.worker)
    (running : state.point ≠ .finished) {reply : NetSendtoReply} (legal : reply.Legal) :
    ∃ action ∈ loopChoices reply, (mainStep library build state action).isSome = true := by
  have advances (advanced : state.advance.isSome = true) :
      ∃ action ∈ loopChoices reply, (mainStep library build state action).isSome = true := by
    refine ⟨.advance, List.mem_cons_self, ?_⟩
    simp only [mainStep, Option.isSome_map, advanced]
  cases point : state.point with
  | test | mgtTest | mgtClear | mgtRunning | alTest =>
      apply advances
      rw [MainState.advance, point]
      rfl
  | mgtCall =>
      refine ⟨.mgtProcess, List.mem_cons_of_mem _ List.mem_cons_self, ?_⟩
      simp only [mainStep, point, if_true, Option.isSome_some]
  | alCall =>
      refine ⟨.process [] reply, List.mem_cons_of_mem _ (List.mem_cons_of_mem _ List.mem_cons_self), ?_⟩
      have ready := schcAlProcess_isSome library build
        (fun notified => ((reachable_invariant reached).notified notified).2)
        [] reply
      simp only [mainStep, point, if_true, MainState.take, workerStep, if_pos legal, Option.isSome_map, ready]
  | lowPower =>
      refine ⟨.poll .nothing, List.mem_of_mem_getLast? rfl, ?_⟩
      obtain ⟨idx, inside, -⟩ := reachable_watching reached
      have watched : 0 < nbrFds state.worker.watched := Nat.zero_lt_of_lt inside
      simp only [mainStep, point, watched, and_self, if_true, MainState.take, Option.isSome_map]
      rfl
  | finished => exact absurd point running

/-- The loop ends only after a termination signal. -/
theorem finished_terminating {state : MainState Context} (reached : (mainSystem library build mode).Reachable state)
    (finished : state.point = .finished) : state.terminateFlag = true := by
  have ends : state.point = .finished → state.terminateFlag = true := by
    apply @LabelledSystem.Reachable.invariant _ _ _ (mainSystem library build mode)
      (fun state => state.point = .finished → state.terminateFlag = true) _ _ state reached
    · intro state initial finished
      rw [initial.2.1] at finished
      contradiction
    · intro state action next output _ kept taken finished
      cases mainStep_path taken with
      | finishes tested set => exact set
      | interrupt => rfl
      | arrive | report | processingRequired => exact kept finished
      | continues | requested | unrequested | clears | returns | required | unrequired | mgtProcess | process | poll =>
          contradiction
  exact ends finished

/-- A loop of a reachable state ends only after a signal, and until then it has a step. -/
structure Lively (library : Uoscore Context) (build : Build) (state : MainState Context) : Prop where
  ends : state.point = .finished → state.terminateFlag = true
  enabled : state.point ≠ .finished → ∀ reply : NetSendtoReply, reply.Legal →
    ∃ action ∈ loopChoices reply, (mainStep library build state action).isSome = true

/-- The loop keeps its promises in every run, it never gets stuck, and its runs are runs of the worker. -/
theorem main_prompt {state : MainState Context} {trace : List (MainAction × Option (WorkerOutput Context))}
    (run : (mainSystem library build mode).Run state trace) :
    Prompt trace ∧ Lively library build state ∧
      (workerSystem library build mode).Run state.worker (workerTrace trace) := by
  have refines := mainSystem_refines run
  refine ⟨⟨?_, ?_, ?_⟩, ⟨finished_terminating ⟨trace, run⟩, ?_⟩, refines⟩
  · rintro earlier output later rfl long
    obtain ⟨before, after, reached, taken, executed⟩ := run_after run
    obtain ⟨rfl, -⟩ := Prod.mk.inj (Option.some.inj taken)
    exact requested_served (.inl rfl) executed long
  · rintro earlier readable output later rfl behind long
    obtain ⟨before, after, reached, taken, executed⟩ := run_after run
    have worker := mainSystem_refines reached
    have waiting : before.worker.tun ≠ [] := by
      intro empty
      have conserved := run_conserved worker
      rw [empty, List.append_nil] at conserved
      rw [conserved] at behind
      exact Nat.lt_irrefl _ behind
    obtain ⟨required, started⟩ := poll_required ⟨_, worker⟩ waiting taken
    exact required_processed required started executed long
  · rintro earlier output later rfl
    obtain ⟨before, after, reached, taken, executed⟩ := run_after run
    obtain ⟨rfl, -⟩ := Prod.mk.inj (Option.some.inj taken)
    exact terminating_winds rfl executed
  · intro running reply legal
    exact mainStep_enabled ⟨_, refines⟩ running legal

end Loop

/-- A request comes before a packet is reported, and a signal comes before it is processed. -/
def promptActions : List MainAction :=
  [.arrive shortTailPacket, .processingRequired, .advance, .advance, .advance, .mgtProcess, .advance, .advance,
    .process [] ⟨.success, none⟩, .poll (.ready fun _ => true), .advance, .advance, .advance, .interrupt,
    .process [] ⟨.success, none⟩, .poll .nothing, .advance]

/-- The loop serves the request, processes the packet and ends. -/
theorem plainBuild_prompt :
    ∃ state trace, state.point = .finished ∧ loopSteps trace = 14 ∧ pollsIn trace = 2 ∧ Prompt trace ∧
      Lively copyLibrary plainBuild state ∧
      (workerSystem copyLibrary plainBuild .device).Run state.worker (workerTrace trace) := by
  let started : MainState Unit := ⟨bootedWorker copyLibrary plainBuild, .test, false, false⟩
  have booted : (mainSystem copyLibrary plainBuild .device).Run started [] :=
    .start ⟨bootedWorker_started (by decide), rfl, rfl⟩
  have ends : ((mainSystem copyLibrary plainBuild .device).exec started promptActions).map
      (fun ended => (ended.1.point, loopSteps ended.2, pollsIn ended.2)) = some (.finished, 14, 2) := by
    decide +kernel
  obtain ⟨⟨state, trace⟩, executed, counts⟩ := Option.map_eq_some_iff.mp ends
  obtain ⟨finished, steps, polls⟩ : state.point = .finished ∧ loopSteps trace = 14 ∧ pollsIn trace = 2 := by
    simpa only [Prod.mk.injEq] using counts
  exact ⟨state, trace, finished, steps, polls, main_prompt (booted.exec executed)⟩

end SchcWork.Worker
