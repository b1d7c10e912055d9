import SchcWork.Library.EventFlags
import SchcWork.Library.LabelledSystem

namespace SchcWork.L2

def connectivityAvailableEvent : Nat := 0
def transmissionResultEvent : Nat := 1
def downlinkAvailableEvent : Nat := 2

/-- The layer is idle between `l2a_process` calls. A failed read makes the last `data_received` call. -/
inductive Phase where
  | idle
  | inConnectivityAvailable
  | inTransmissionResult
  | readDownlink
  | inDataReceived (last : Bool)
  deriving Repr, DecidableEq

/-- The client runs between the calls and inside the callbacks. -/
def Phase.clientRuns : Phase → Bool
  | .readDownlink => false
  | _ => true

/-- A send is outstanding from its success until its `transmission_result` call begins. -/
structure L2a where
  event : EventWord
  phase : Phase
  outstanding : Bool
  deriving DecidableEq

inductive WriteReply where
  | written
  | interrupted
  | failed
  deriving Repr, DecidableEq

inductive ReadReply where
  | readOk
  | interrupted
  | failed
  deriving Repr, DecidableEq

/-- A client starts sends, the platform reports input, and the modem delivers packets. -/
inductive L2aAction where
  | l2aSendData (replies : List WriteReply)
  | downlinkAvailableCallback
  | l2aProcess
  | callbackReturns
  | packetConsumer
  | statelessReadReturns (reply : ReadReply)
  deriving Repr, DecidableEq

/-- The write is repeated while it is interrupted. -/
def writeLoop : List WriteReply → Option Bool
  | [] => none
  | .written :: _ => some true
  | .failed :: _ => some false
  | .interrupted :: rest => writeLoop rest

/-- The state after `l2a_initialize` has connected to the modem. -/
def l2aInitialize : L2a := ⟨EventWord.none.raise connectivityAvailableEvent, .idle, false⟩

def l2aSendData (state : L2a) (replies : List WriteReply) : Option L2a :=
  (writeLoop replies).map fun written =>
    if written then { state with event := state.event.raise transmissionResultEvent, outstanding := true }
    else state

/-- The end of `l2a_process` clears the whole word. -/
def endProcess (state : L2a) : L2a := { state with event := EventWord.none, phase := .idle }

def testDownlink (state : L2a) : L2a :=
  if state.event.has downlinkAvailableEvent then { state with phase := .readDownlink } else endProcess state

def testTransmissionResult (state : L2a) : L2a :=
  if state.event.has transmissionResultEvent then
    { state with phase := .inTransmissionResult, outstanding := false }
  else testDownlink state

/-- A step of the client inside a callback comes between the two tests. -/
def l2aProcess (state : L2a) : L2a :=
  if state.event.has connectivityAvailableEvent then { state with phase := .inConnectivityAvailable }
  else testTransmissionResult state

/-- A client sends only when no result is outstanding. Each step outputs the state after it. -/
def l2aStep (state : L2a) (action : L2aAction) : Option L2a :=
  match action with
  | .l2aSendData replies =>
      if state.phase.clientRuns && !state.outstanding then l2aSendData state replies else none
  | .downlinkAvailableCallback =>
      if state.phase = .idle then some { state with event := state.event.raise downlinkAvailableEvent } else none
  | .l2aProcess => if state.phase = .idle then some (l2aProcess state) else none
  | .callbackReturns =>
      match state.phase with
      | .inConnectivityAvailable => some (testTransmissionResult state)
      | .inTransmissionResult => some (testDownlink state)
      | .inDataReceived false => some { state with phase := .readDownlink }
      | .inDataReceived true => some (endProcess state)
      | _ => none
  | .packetConsumer =>
      if state.phase = .readDownlink then some { state with phase := .inDataReceived false } else none
  | .statelessReadReturns reply =>
      if state.phase = .readDownlink then
        match reply with
        | .readOk => some (endProcess state)
        | .interrupted => some state
        | .failed => some { state with phase := .inDataReceived true }
      else none

def l2aSystem : LabelledSystem L2a L2aAction L2a where
  initial state := state = l2aInitialize
  step state action := (l2aStep state action).map fun next => (next, next)

/-- Between `l2a_process` calls an outstanding result has its event. -/
def KeepsResult (state : L2a) : Prop :=
  state.phase = .idle → state.outstanding = true → state.event.has transmissionResultEvent = true

/-- These are the callbacks that run after the test of the result event. -/
def Phase.afterResultTest : Phase → Bool
  | .inTransmissionResult => true
  | .readDownlink => true
  | .inDataReceived _ => true
  | _ => false

/-- The record is a successful send from inside `transmission_result` or `data_received`. -/
def SendsInside (record : L2aAction × L2a) : Prop :=
  ∃ replies, record.1 = .l2aSendData replies ∧ writeLoop replies = some true ∧
    record.2.phase.afterResultTest = true

/-- An outstanding result has its event, and no later callback of the same call runs. -/
def Kept (state : L2a) : Prop :=
  state.outstanding = true →
    state.event.has transmissionResultEvent = true ∧ state.phase.afterResultTest = false

/-- An outstanding result comes too late for the test of the running call. -/
def Lost (state : L2a) : Prop := state.outstanding = true ∧ state.phase.afterResultTest = true

theorem Kept.keepsResult {state : L2a} (kept : Kept state) : KeepsResult state := fun _ outstanding =>
  (kept outstanding).1

theorem kept_of_delivered {state : L2a} (delivered : state.outstanding = false) : Kept state := by
  intro outstanding
  rw [delivered] at outstanding
  cases outstanding

/-- Raising an event keeps the events that are set. -/
theorem raise_has {word : EventWord} {raised tested : Nat} (raisedInside : raised < 32) (testedInside : tested < 32)
    (set : word.has tested = true) : (word.raise raised).has tested = true := by
  rw [EventWord.has_raise word raisedInside testedInside, set, Bool.true_or]

theorem testDownlink_outstanding (state : L2a) : (testDownlink state).outstanding = state.outstanding := by
  unfold testDownlink
  split <;> rfl

theorem testTransmissionResult_kept {state : L2a} (kept : Kept state) : Kept (testTransmissionResult state) := by
  unfold testTransmissionResult
  split
  · exact kept_of_delivered rfl
  · rename_i unset
    apply kept_of_delivered
    rw [testDownlink_outstanding]
    apply Bool.eq_false_iff.mpr
    intro outstanding
    exact unset (kept outstanding).1

theorem l2aProcess_kept {state : L2a} (kept : Kept state) : Kept (l2aProcess state) := by
  unfold l2aProcess
  split
  · intro outstanding
    exact ⟨(kept outstanding).1, rfl⟩
  · exact testTransmissionResult_kept kept

/-- A result that is outstanding at the end of a call has lost its event. -/
theorem endProcess_loses {state : L2a} (outstanding : state.outstanding = true) :
    ¬KeepsResult (endProcess state) := by
  intro keeps
  have event : EventWord.none.has transmissionResultEvent = true := keeps rfl outstanding
  rw [EventWord.has_none] at event
  cases event

theorem testDownlink_loses {state : L2a} (outstanding : state.outstanding = true) :
    Lost (testDownlink state) ∨ ¬KeepsResult (testDownlink state) := by
  unfold testDownlink
  split
  · exact Or.inl ⟨outstanding, rfl⟩
  · exact Or.inr (endProcess_loses outstanding)

/-- A send step starts without an outstanding result, and it raises the event exactly when it succeeds. -/
theorem l2aStep_send {state next : L2a} {replies : List WriteReply}
    (taken : l2aStep state (.l2aSendData replies) = some next) :
    state.outstanding = false ∧
      ((writeLoop replies = some true ∧
          next = { state with event := state.event.raise transmissionResultEvent, outstanding := true }) ∨
        (writeLoop replies = some false ∧ next = state)) := by
  unfold l2aStep at taken
  dsimp only at taken
  split at taken
  · rename_i allowed
    have free : state.outstanding = false := by simpa using (Bool.and_eq_true_iff.mp allowed).2
    obtain ⟨written, reply, rfl⟩ := Option.map_eq_some_iff.mp taken
    refine ⟨free, ?_⟩
    cases written with
    | true => exact Or.inl ⟨reply, rfl⟩
    | false => exact Or.inr ⟨reply, rfl⟩
  · cases taken

/-- Before the test of the result event the layer only raises an event or goes on to that test. After it the
layer goes on to the next callback or to the end of the call. -/
theorem l2aStep_layer {state next : L2a} {action : L2aAction} (layer : ∀ replies, action ≠ .l2aSendData replies)
    (taken : l2aStep state action = some next) :
    (state.phase.afterResultTest = false ∧
      (next = { state with event := state.event.raise downlinkAvailableEvent } ∨ next = l2aProcess state ∨
        next = testTransmissionResult state)) ∨
    (state.phase.afterResultTest = true ∧
      (next = testDownlink state ∨ next = endProcess state ∨
        ∃ phase : Phase, phase.afterResultTest = true ∧ next = { state with phase := phase })) := by
  cases action with
  | l2aSendData replies => exact absurd rfl (layer replies)
  | downlinkAvailableCallback =>
      obtain ⟨idle, same⟩ := Option.ite_none_right_eq_some.mp taken
      exact Or.inl ⟨by rw [idle]; rfl, Or.inl (Option.some.inj same).symm⟩
  | l2aProcess =>
      obtain ⟨idle, same⟩ := Option.ite_none_right_eq_some.mp taken
      exact Or.inl ⟨by rw [idle]; rfl, Or.inr (Or.inl (Option.some.inj same).symm)⟩
  | callbackReturns =>
      unfold l2aStep at taken
      dsimp only at taken
      split at taken
      · rename_i inside
        exact Or.inl ⟨by rw [inside]; rfl, Or.inr (Or.inr (Option.some.inj taken).symm)⟩
      · rename_i inside
        exact Or.inr ⟨by rw [inside]; rfl, Or.inl (Option.some.inj taken).symm⟩
      · rename_i inside
        exact Or.inr ⟨by rw [inside]; rfl, Or.inr (Or.inr ⟨.readDownlink, rfl, (Option.some.inj taken).symm⟩)⟩
      · rename_i inside
        exact Or.inr ⟨by rw [inside]; rfl, Or.inr (Or.inl (Option.some.inj taken).symm)⟩
      · cases taken
  | packetConsumer =>
      obtain ⟨reading, same⟩ := Option.ite_none_right_eq_some.mp taken
      exact Or.inr ⟨by rw [reading]; rfl,
        Or.inr (Or.inr ⟨.inDataReceived false, rfl, (Option.some.inj same).symm⟩)⟩
  | statelessReadReturns reply =>
      unfold l2aStep at taken
      dsimp only at taken
      split at taken
      · rename_i reading
        refine Or.inr ⟨by rw [reading]; rfl, Or.inr ?_⟩
        cases reply with
        | readOk => exact Or.inl (Option.some.inj taken).symm
        | interrupted =>
            obtain rfl := Option.some.inj taken
            exact Or.inr ⟨state.phase, by rw [reading]; rfl, rfl⟩
        | failed => exact Or.inr ⟨.inDataReceived true, rfl, (Option.some.inj taken).symm⟩
      · cases taken

/-- Every step but a successful send inside a late callback keeps the event of an outstanding result. -/
theorem l2aStep_kept {state next : L2a} {action : L2aAction} (kept : Kept state)
    (taken : l2aStep state action = some next) (outside : ¬SendsInside (action, next)) : Kept next := by
  by_cases send : ∃ replies, action = .l2aSendData replies
  · obtain ⟨replies, rfl⟩ := send
    obtain ⟨free, ⟨written, rfl⟩ | ⟨-, rfl⟩⟩ := l2aStep_send taken
    · intro _
      refine ⟨by rw [EventWord.has_raise _ (by decide) (by decide)]; simp, ?_⟩
      apply Bool.eq_false_iff.mpr
      intro late
      exact outside ⟨replies, rfl, written, late⟩
    · exact kept
  · rcases l2aStep_layer (not_exists.mp send) taken with ⟨-, raised | processed | tested⟩ | ⟨late, after⟩
    · subst raised
      intro outstanding
      exact ⟨raise_has (by decide) (by decide) (kept outstanding).1, (kept outstanding).2⟩
    · exact processed ▸ l2aProcess_kept kept
    · exact tested ▸ testTransmissionResult_kept kept
    · have delivered : state.outstanding = false := by
        apply Bool.eq_false_iff.mpr
        intro outstanding
        rw [(kept outstanding).2] at late
        cases late
      apply kept_of_delivered
      rcases after with same | same | ⟨phase, -, same⟩
      · rw [same, testDownlink_outstanding, delivered]
      · rw [same]
        exact delivered
      · rw [same]
        exact delivered

/-- A successful send inside a late callback comes too late. -/
theorem l2aStep_inside {state next : L2a} {action : L2aAction} (taken : l2aStep state action = some next)
    (inside : SendsInside (action, next)) : Lost next := by
  obtain ⟨replies, send, written, late⟩ := inside
  change action = _ at send
  subst send
  obtain ⟨-, ⟨-, rfl⟩ | ⟨unwritten, -⟩⟩ := l2aStep_send taken
  · exact ⟨rfl, late⟩
  · rw [written] at unwritten
    cases unwritten

/-- A lost result stays lost until the call ends without its event. -/
theorem l2aStep_lost {state next : L2a} {action : L2aAction} (lost : Lost state)
    (taken : l2aStep state action = some next) : Lost next ∨ ¬KeepsResult next := by
  obtain ⟨outstanding, late⟩ := lost
  by_cases send : ∃ replies, action = .l2aSendData replies
  · obtain ⟨replies, rfl⟩ := send
    have free := (l2aStep_send taken).1
    rw [outstanding] at free
    cases free
  · rcases l2aStep_layer (not_exists.mp send) taken with ⟨early, -⟩ | ⟨-, same | same | ⟨phase, later, same⟩⟩
    · rw [late] at early
      cases early
    · exact same ▸ testDownlink_loses outstanding
    · exact Or.inr (same ▸ endProcess_loses outstanding)
    · subst same
      exact Or.inl ⟨outstanding, later⟩

/-- Without late sends every state keeps its result, and a late send costs the result of one state. -/
structure RunInvariant (state : L2a) (trace : List (L2aAction × L2a)) : Prop where
  kept : (∀ record ∈ trace, ¬SendsInside record) → Kept state ∧ ∀ record ∈ trace, KeepsResult record.2
  lost : (∃ record ∈ trace, SendsInside record) → Lost state ∨ ∃ record ∈ trace, ¬KeepsResult record.2

theorem run_invariant {state : L2a} {trace : List (L2aAction × L2a)} (run : l2aSystem.Run state trace) :
    RunInvariant state trace := by
  induction run with
  | start initial =>
      cases initial
      refine ⟨fun _ => ⟨kept_of_delivered rfl, ?_⟩, ?_⟩
      · intro record member
        cases member
      · rintro ⟨record, member, -⟩
        cases member
  | extend previous step ih =>
      rename_i before after trace action output
      obtain ⟨next, taken, same⟩ := Option.map_eq_some_iff.mp step
      obtain ⟨rfl, rfl⟩ := Prod.mk.inj same
      constructor
      · intro outside
        obtain ⟨kept, earlier⟩ := ih.kept fun record member => outside record (List.mem_append_left _ member)
        have keptNext := l2aStep_kept kept taken (outside _ (by simp))
        refine ⟨keptNext, ?_⟩
        intro record member
        rcases List.mem_append.mp member with old | last
        · exact earlier record old
        · rw [List.mem_singleton.mp last]
          exact keptNext.keepsResult
      · rintro ⟨record, member, inside⟩
        rcases List.mem_append.mp member with old | last
        · rcases ih.lost ⟨record, old, inside⟩ with lost | ⟨failed, among, violates⟩
          · rcases l2aStep_lost lost taken with stillLost | violates
            · exact Or.inl stillLost
            · exact Or.inr ⟨_, List.mem_append_right _ (List.mem_singleton.mpr rfl), violates⟩
          · exact Or.inr ⟨failed, List.mem_append_left _ among, violates⟩
        · rw [List.mem_singleton.mp last] at inside
          exact Or.inl (l2aStep_inside taken inside)

/-- A run between `l2a_process` calls has kept every result exactly when no send has succeeded inside
`transmission_result` or `data_received`. -/
theorem keepsResult_iff (state : L2a) (trace : List (L2aAction × L2a)) (run : l2aSystem.Run state trace)
    (between : state.phase = .idle) :
    (∀ record ∈ trace, KeepsResult record.2) ↔ ∀ record ∈ trace, ¬SendsInside record := by
  have invariant := run_invariant run
  constructor
  · intro kept record member inside
    rcases invariant.lost ⟨record, member, inside⟩ with ⟨-, late⟩ | ⟨failed, among, violates⟩
    · rw [between] at late
      cases late
    · exact violates (kept failed among)
  · intro outside
    exact (invariant.kept outside).2

theorem firstSend_kept :
    ∃ state trace, l2aSystem.Run state trace ∧
      trace.map Prod.fst = [.l2aProcess, .callbackReturns, .l2aSendData [.interrupted, .written]] ∧
      state.outstanding = true ∧ ∀ record ∈ trace, KeepsResult record.2 := by
  have executed : l2aSystem.exec l2aInitialize [.l2aProcess, .callbackReturns, .l2aSendData [.interrupted, .written]] =
      some (_, [_, _, _]) := rfl
  have run := (LabelledSystem.Run.start rfl).exec executed
  refine ⟨_, _, run, rfl, rfl, (keepsResult_iff _ _ run rfl).mpr ?_⟩
  intro record member
  rintro ⟨replies, -, -, late⟩
  simp only [List.nil_append, List.mem_cons, List.not_mem_nil, or_false] at member
  rcases member with rfl | rfl | rfl <;> cases late

/-- These actions send a second packet inside the callback for the first one. -/
def resultSendActions : List L2aAction :=
  [.l2aProcess, .callbackReturns, .l2aSendData [.written], .l2aProcess, .l2aSendData [.written], .callbackReturns]

theorem resultSend_lost :
    ∃ trace, l2aSystem.Run ⟨EventWord.none, .idle, true⟩ trace ∧ trace.map Prod.fst = resultSendActions ∧
      ¬KeepsResult ⟨EventWord.none, .idle, true⟩ := by
  have executed : l2aSystem.exec l2aInitialize resultSendActions =
      some (⟨EventWord.none, .idle, true⟩, [_, _, _, _, _, _]) := rfl
  refine ⟨_, (LabelledSystem.Run.start rfl).exec executed, rfl, ?_⟩
  intro keeps
  cases keeps rfl rfl

end SchcWork.L2
