import SchcWork.Library.LabelledSystem
import SchcWork.Library.TextInput
import SchcWork.Net.Udp
import Mathlib.Logic.Function.Basic

namespace SchcWork.Schc

open TextInput

def maxTemplateParams : Nat := 50
def ipv6AddrBytes : Nat := 16
def ipv6AddrPrefixBytes : Nat := 8
def udpPortBytes : Nat := 2

/-- The value pointer of a parameter owns its bytes, and a null pointer owns none. -/
structure TemplateParam where
  value : List UInt8
  size : Nat
  initialized : Bool
  deriving Repr, DecidableEq

def TemplateParam.cleared : TemplateParam := ⟨[], 0, false⟩

/-- The macro allocates a zeroed buffer for a parameter that is not initialized. -/
def TemplateParam.initParam (param : TemplateParam) (size : Nat) : TemplateParam :=
  if param.initialized then { param with size := size } else ⟨List.replicate size 0, size, true⟩

/-- The copy overwrites the first bytes of the buffer. -/
def TemplateParam.memcpy (param : TemplateParam) (bytes : List UInt8) : TemplateParam :=
  { param with value := bytes ++ param.value.drop bytes.length }

inductive ConfigResult where
  | schcConfigOk
  | schcConfigKo
  deriving Repr, DecidableEq

/-- These are the replies of the SDK to one configuration. The parameter count fits the table. -/
structure ConfigReplies where
  mgtInitialized : Bool
  nbParams : Nat
  fits : nbParams ≤ maxTemplateParams
  refusesParam : Nat → Bool
  netInitialized : Bool

/-- An address call carries the buffer that `inet_pton` leaves, and a port call carries its text. -/
inductive ApiCall where
  | startConfig
  | withIpv6SrcParam (srcAddr : Vector UInt8 16)
  | withIpv6DstParam (dstAddr : Vector UInt8 16)
  | withIpv6UdpSrcParam (srcParam : List Char)
  | withIpv6UdpDstParam (dstParam : List Char)
  | configSchc (replies : ConfigReplies)

/-- The output of a configuration lists the slots and values that `mgt_set_template_param` receives. -/
structure ApiOutput where
  result : ConfigResult
  reachedLoop : Bool
  calls : List (Nat × List UInt8)

/-- This is the output of every call but a configuration. -/
def ApiOutput.accepted : ApiOutput := ⟨.schcConfigOk, false, []⟩

/-- The flag, the parameter pointer, and the table are the static data of the helper. -/
structure Staging where
  initialized : Bool
  paramsSet : Bool
  templateParams : Nat → TemplateParam

def cleanParams (params : Nat → TemplateParam) : Nat → TemplateParam := fun slot =>
  if slot < maxTemplateParams then .cleared else params slot

def startConfig (state : Staging) : Staging where
  initialized := true
  paramsSet := true
  templateParams := if state.initialized then cleanParams state.templateParams else state.templateParams

def setParam (params : Nat → TemplateParam) (slot size : Nat) (bytes : List UInt8) : Nat → TemplateParam :=
  Function.update params slot (((params slot).initParam size).memcpy bytes)

/-- An address setter stages the prefix and the interface identifier in two slots. -/
def setAddress (state : Staging) (slot : Nat) (addr : Vector UInt8 16) : Staging :=
  let params := setParam state.templateParams slot ipv6AddrPrefixBytes (addr.toList.take ipv6AddrPrefixBytes)
  { state with
    templateParams := setParam params (slot + 1) (ipv6AddrBytes - ipv6AddrPrefixBytes)
      (addr.toList.drop ipv6AddrPrefixBytes) }

/-- These are the bytes of the stored `htons(atoi(text))`. -/
def portBytes (text : List Char) : List UInt8 :=
  let port := Net.htons ((atoi text) % 65536).toNat
  [UInt8.ofNat port, UInt8.ofNat (port / 256)]

def setPort (state : Staging) (slot : Nat) (text : List Char) : Staging :=
  { state with templateParams := setParam state.templateParams slot udpPortBytes (portBytes text) }

def withIpv6SrcParam (state : Staging) (srcAddr : Vector UInt8 16) : Staging := setAddress state 0 srcAddr
def withIpv6DstParam (state : Staging) (dstAddr : Vector UInt8 16) : Staging := setAddress state 2 dstAddr
def withIpv6UdpSrcParam (state : Staging) (srcParam : List Char) : Staging := setPort state 4 srcParam
def withIpv6UdpDstParam (state : Staging) (dstParam : List Char) : Staging := setPort state 5 dstParam

/-- The loop passes each initialized slot and stops at the first refusal. -/
def applyParams (params : Nat → TemplateParam) (refuses : Nat → Bool) : Nat → Nat → List (Nat × List UInt8) × Bool
  | 0, _ => ([], true)
  | count + 1, slot =>
      if (params slot).initialized then
        let call := (slot, (params slot).value.take (params slot).size)
        if refuses slot then ([call], false)
        else
          let rest := applyParams params refuses count (slot + 1)
          (call :: rest.1, rest.2)
      else applyParams params refuses count (slot + 1)

/-- Both labels at the end of `config_schc` clean the table and reset the flag. -/
def finish (state : Staging) : Staging :=
  { state with initialized := false, templateParams := cleanParams state.templateParams }

def configSchc (state : Staging) (replies : ConfigReplies) : Staging × ApiOutput :=
  if !state.initialized then (finish state, ⟨.schcConfigKo, false, []⟩)
  else if !replies.mgtInitialized then (finish state, ⟨.schcConfigKo, false, []⟩)
  else
    let applied := applyParams state.templateParams replies.refusesParam replies.nbParams 0
    if !applied.2 then (finish state, ⟨.schcConfigKo, true, applied.1⟩)
    -- This path alone returns without cleaning.
    else if !replies.netInitialized then (state, ⟨.schcConfigKo, true, applied.1⟩)
    else (finish state, ⟨.schcConfigOk, true, applied.1⟩)

/-- Every call but `start_config` follows the parameter pointer, so it has no step while that is null. -/
def apiStep (state : Staging) (call : ApiCall) : Option (Staging × ApiOutput) :=
  match call with
  | .startConfig => if state.initialized && !state.paramsSet then none else some (startConfig state, .accepted)
  | .withIpv6SrcParam srcAddr => if state.paramsSet then some (withIpv6SrcParam state srcAddr, .accepted) else none
  | .withIpv6DstParam dstAddr => if state.paramsSet then some (withIpv6DstParam state dstAddr, .accepted) else none
  | .withIpv6UdpSrcParam srcParam =>
      if state.paramsSet then some (withIpv6UdpSrcParam state srcParam, .accepted) else none
  | .withIpv6UdpDstParam dstParam =>
      if state.paramsSet then some (withIpv6UdpDstParam state dstParam, .accepted) else none
  | .configSchc replies => if state.paramsSet then some (configSchc state replies) else none

/-- The static data start zeroed, so the first call of a run is `start_config`. -/
def stagingSystem : LabelledSystem Staging ApiCall ApiOutput where
  initial state := state = ⟨false, false, fun _ => .cleared⟩
  step := apiStep

/-- A call sets these slots to these values. -/
def setsValues (values : Nat → Option (List UInt8)) : ApiCall → Nat → Option (List UInt8)
  | .startConfig => fun _ => none
  | .withIpv6SrcParam srcAddr =>
      Function.update (Function.update values 0 (some (srcAddr.toList.take 8))) 1 (some (srcAddr.toList.drop 8))
  | .withIpv6DstParam dstAddr =>
      Function.update (Function.update values 2 (some (dstAddr.toList.take 8))) 3 (some (dstAddr.toList.drop 8))
  | .withIpv6UdpSrcParam srcParam => Function.update values 4 (some (portBytes srcParam))
  | .withIpv6UdpDstParam dstParam => Function.update values 5 (some (portBytes dstParam))
  | .configSchc _ => values

/-- These are the most recent values since the latest `start_config`. -/
def latestValues (calls : List ApiCall) : Nat → Option (List UInt8) := calls.foldl setsValues fun _ => none

/-- The list ends at the first element that stops it. -/
def throughFirst {α : Type} (stops : α → Bool) : List α → List α
  | [] => []
  | first :: rest => if stops first then [first] else first :: throughFirst stops rest

/-- Each slot below the parameter count that has a value is passed, up to the first refusal. -/
def expectedCalls (values : Nat → Option (List UInt8)) (replies : ConfigReplies) : List (Nat × List UInt8) :=
  throughFirst (fun call => replies.refusesParam call.1)
    ((List.range replies.nbParams).filterMap fun slot => (values slot).map fun value => (slot, value))

/-- A configuration after a run passes exactly the most recent values if it reaches the loop. -/
def AppliesLatest (system : LabelledSystem Staging ApiCall ApiOutput) (state : Staging)
    (trace : List (ApiCall × ApiOutput)) : Prop :=
  system.Run state trace → ∀ replies next output,
    system.step state (.configSchc replies) = some (next, output) → output.reachedLoop = true →
      output.calls = expectedCalls (latestValues (trace.map Prod.fst)) replies

def ApiCall.isSetter : ApiCall → Bool
  | .startConfig => false
  | .configSchc _ => false
  | _ => true

/-- A setter needs an open configuration. -/
def SetterInside (state : Staging) (call : ApiCall) : Prop := call.isSetter = true → state.initialized = true

instance (state : Staging) (call : ApiCall) : Decidable (SetterInside state call) :=
  inferInstanceAs (Decidable (_ → _))

/-- This is the value that the loop passes for a parameter. -/
def TemplateParam.applied (param : TemplateParam) : Option (List UInt8) :=
  if param.initialized then some (param.value.take param.size) else none

def Staging.applied (state : Staging) (slot : Nat) : Option (List UInt8) := (state.templateParams slot).applied

@[simp] theorem cleared_applied : TemplateParam.cleared.applied = none := rfl

/-- A staged value replaces whatever the buffer held. -/
theorem memcpy_applied (param : TemplateParam) {size : Nat} {bytes : List UInt8} (whole : bytes.length = size) :
    ((param.initParam size).memcpy bytes).applied = some bytes := by
  have initialized : (param.initParam size).initialized = true := by
    unfold TemplateParam.initParam
    split <;> simp_all
  have stored : (param.initParam size).size = size := by
    unfold TemplateParam.initParam
    split <;> rfl
  simp only [TemplateParam.applied, TemplateParam.memcpy, initialized, stored, if_true]
  rw [List.take_left' whole]

theorem setParam_applied (params : Nat → TemplateParam) (slot : Nat) {size : Nat} {bytes : List UInt8}
    (whole : bytes.length = size) :
    (fun other => (setParam params slot size bytes other).applied) =
      Function.update (fun other => (params other).applied) slot (some bytes) := by
  funext other
  by_cases same : other = slot
  · subst same
    rw [setParam, Function.update_self, Function.update_self, memcpy_applied _ whole]
  · rw [setParam, Function.update_of_ne same, Function.update_of_ne same]

theorem setAddress_applied (state : Staging) (slot : Nat) (addr : Vector UInt8 16) :
    (setAddress state slot addr).applied =
      Function.update (Function.update state.applied slot (some (addr.toList.take 8))) (slot + 1)
        (some (addr.toList.drop 8)) := by
  have head : (addr.toList.take ipv6AddrPrefixBytes).length = ipv6AddrPrefixBytes := by
    simp [ipv6AddrPrefixBytes]
  have tail : (addr.toList.drop ipv6AddrPrefixBytes).length = ipv6AddrBytes - ipv6AddrPrefixBytes := by
    simp [ipv6AddrPrefixBytes, ipv6AddrBytes]
  change (fun other => (setParam _ (slot + 1) _ _ other).applied) = _
  rw [setParam_applied _ _ tail, setParam_applied _ _ head]
  rfl

theorem setPort_applied (state : Staging) (slot : Nat) (text : List Char) :
    (setPort state slot text).applied = Function.update state.applied slot (some (portBytes text)) :=
  setParam_applied state.templateParams slot rfl

/-- A setter keeps the flag and changes the staged values as it should. -/
theorem apiStep_setter {state next : Staging} {call : ApiCall} {output : ApiOutput} (setter : call.isSetter = true)
    (taken : apiStep state call = some (next, output)) :
    next.initialized = state.initialized ∧ next.paramsSet = true ∧ next.applied = setsValues state.applied call := by
  have taken_set (after : Staging) (reply : ApiOutput)
      (step : (if state.paramsSet then some (after, reply) else none) = some (next, output)) :
      state.paramsSet = true ∧ next = after := by
    split at step
    · rename_i pointer
      exact ⟨pointer, (congrArg Prod.fst (Option.some.inj step)).symm⟩
    · cases step
  cases call with
  | startConfig => cases setter
  | configSchc replies => cases setter
  | withIpv6SrcParam srcAddr =>
      obtain ⟨pointer, rfl⟩ := taken_set _ _ taken
      exact ⟨rfl, pointer, setAddress_applied state 0 srcAddr⟩
  | withIpv6DstParam dstAddr =>
      obtain ⟨pointer, rfl⟩ := taken_set _ _ taken
      exact ⟨rfl, pointer, setAddress_applied state 2 dstAddr⟩
  | withIpv6UdpSrcParam srcParam =>
      obtain ⟨pointer, rfl⟩ := taken_set _ _ taken
      exact ⟨rfl, pointer, setPort_applied state 4 srcParam⟩
  | withIpv6UdpDstParam dstParam =>
      obtain ⟨pointer, rfl⟩ := taken_set _ _ taken
      exact ⟨rfl, pointer, setPort_applied state 5 dstParam⟩

theorem apiStep_start {state next : Staging} {output : ApiOutput}
    (taken : apiStep state .startConfig = some (next, output)) : next = startConfig state := by
  unfold apiStep at taken
  dsimp only at taken
  split at taken
  · cases taken
  · exact (congrArg Prod.fst (Option.some.inj taken)).symm

theorem apiStep_config {state next : Staging} {output : ApiOutput} {replies : ConfigReplies}
    (taken : apiStep state (.configSchc replies) = some (next, output)) :
    state.paramsSet = true ∧ configSchc state replies = (next, output) := by
  unfold apiStep at taken
  dsimp only at taken
  split at taken
  · rename_i set
    exact ⟨set, Option.some.inj taken⟩
  · cases taken

/-- A configuration cleans the helper, or it leaves every static datum as it was. -/
theorem configSchc_next (state : Staging) (replies : ConfigReplies) :
    (configSchc state replies).1 = finish state ∨ (configSchc state replies).1 = state := by
  unfold configSchc
  dsimp only
  split
  · exact Or.inl rfl
  · split
    · exact Or.inl rfl
    · split
      · exact Or.inl rfl
      · split
        · exact Or.inr rfl
        · exact Or.inl rfl

/-- A configuration that reaches the loop is open, and its calls are those of the loop. -/
theorem configSchc_calls {state : Staging} {replies : ConfigReplies}
    (reached : (configSchc state replies).2.reachedLoop = true) :
    state.initialized = true ∧
      (configSchc state replies).2.calls =
        (applyParams state.templateParams replies.refusesParam replies.nbParams 0).1 := by
  unfold configSchc at reached ⊢
  dsimp only at reached ⊢
  split at reached
  · cases reached
  · rename_i opened
    rw [if_neg opened]
    split at reached
    · cases reached
    · rename_i ready
      rw [if_neg ready]
      refine ⟨by simpa using opened, ?_⟩
      split
      · rfl
      · split <;> rfl

theorem finish_applied (state : Staging) {slot : Nat} (inside : slot < maxTemplateParams) :
    (finish state).applied slot = none := by
  change (cleanParams state.templateParams slot).applied = none
  rw [cleanParams, if_pos inside, cleared_applied]

/-- The loop passes the applied values of its slots, up to the first refusal. -/
theorem applyParams_calls (state : Staging) (refuses : Nat → Bool) (count slot : Nat) :
    (applyParams state.templateParams refuses count slot).1 =
      throughFirst (fun call => refuses call.1)
        ((List.range' slot count).filterMap fun other => (state.applied other).map fun value => (other, value)) := by
  induction count generalizing slot with
  | zero => rfl
  | succ count ih =>
      rw [applyParams, List.range'_succ, List.filterMap_cons]
      by_cases staged : (state.templateParams slot).initialized = true
      · have value : state.applied slot =
            some ((state.templateParams slot).value.take (state.templateParams slot).size) := if_pos staged
        rw [if_pos staged, value]
        dsimp only [Option.map_some]
        rw [throughFirst]
        by_cases refused : refuses slot = true
        · rw [if_pos refused, if_pos refused]
        · rw [if_neg refused, if_neg refused, ih]
      · have value : state.applied slot = none := if_neg staged
        rw [if_neg staged, value, ih]
        rfl

/-- Only the slots below the parameter count matter. -/
theorem expectedCalls_congr {first second : Nat → Option (List UInt8)} {replies : ConfigReplies}
    (same : ∀ slot, slot < maxTemplateParams → first slot = second slot) :
    expectedCalls first replies = expectedCalls second replies := by
  unfold expectedCalls
  congr 1
  apply List.filterMap_congr
  intro slot member
  have inside := List.mem_range.mp member
  rw [same slot (Nat.lt_of_lt_of_le inside replies.fits)]

theorem configSchc_expected {state : Staging} {replies : ConfigReplies}
    (reached : (configSchc state replies).2.reachedLoop = true) :
    (configSchc state replies).2.calls = expectedCalls state.applied replies := by
  rw [(configSchc_calls reached).2, applyParams_calls, expectedCalls, List.range_eq_range']

theorem latestValues_append (calls : List ApiCall) (call : ApiCall) :
    latestValues (calls ++ [call]) = setsValues (latestValues calls) call := by
  rw [latestValues, List.foldl_append]
  rfl

theorem setsValues_congr {first second : Nat → Option (List UInt8)} (call : ApiCall) {slot : Nat}
    (same : first slot = second slot) : setsValues first call slot = setsValues second call slot := by
  cases call <;> simp only [setsValues, Function.update_apply, same]

/-- An open configuration holds exactly the latest values, and a closed one holds none. -/
structure StagingInvariant (state : Staging) (values : Nat → Option (List UInt8)) : Prop where
  opened : state.initialized = true → ∀ slot, slot < maxTemplateParams → state.applied slot = values slot
  closed : state.initialized = false → ∀ slot, slot < maxTemplateParams → state.applied slot = none

/-- Each call keeps the invariant when setters stay inside a configuration. -/
theorem apiStep_keeps {state next : Staging} {values : Nat → Option (List UInt8)} {call : ApiCall}
    {output : ApiOutput} (invariant : StagingInvariant state values) (inside : SetterInside state call)
    (taken : apiStep state call = some (next, output)) : StagingInvariant next (setsValues values call) := by
  by_cases setter : call.isSetter = true
  · obtain ⟨flag, -, applied⟩ := apiStep_setter setter taken
    have opened := inside setter
    refine ⟨?_, fun shut => absurd (shut.symm.trans (flag.trans opened)) (by decide)⟩
    intro _ slot fits
    rw [applied]
    exact setsValues_congr call (invariant.opened opened slot fits)
  · cases call with
    | startConfig =>
        rw [apiStep_start taken]
        refine ⟨?_, fun shut => absurd (show true = false from shut) (by decide)⟩
        intro _ slot fits
        change ((if state.initialized then cleanParams state.templateParams
          else state.templateParams) slot).applied = none
        by_cases opened : state.initialized = true
        · rw [if_pos opened]
          exact finish_applied state fits
        · rw [if_neg opened]
          exact invariant.closed (Bool.eq_false_iff.mpr opened) slot fits
    | configSchc replies =>
        have outcome := (apiStep_config taken).2
        rcases configSchc_next state replies with finished | kept
        · rw [outcome] at finished
          subst finished
          exact ⟨fun opened => absurd (show false = true from opened) (by decide),
            fun _ slot fits => finish_applied state fits⟩
        · rw [outcome] at kept
          subst kept
          exact invariant
    | withIpv6SrcParam srcAddr => exact absurd rfl setter
    | withIpv6DstParam dstAddr => exact absurd rfl setter
    | withIpv6UdpSrcParam srcParam => exact absurd rfl setter
    | withIpv6UdpDstParam dstParam => exact absurd rfl setter

theorem restricted_invariant {state : Staging} {trace : List (ApiCall × ApiOutput)}
    (run : (stagingSystem.restrict SetterInside).Run state trace) :
    StagingInvariant state (latestValues (trace.map Prod.fst)) := by
  apply @LabelledSystem.Run.invariant _ _ _ (stagingSystem.restrict SetterInside) (fun state trace =>
    StagingInvariant state (latestValues (trace.map Prod.fst))) _ _ _ _ run
  · rintro state rfl
    exact ⟨fun opened => absurd opened (by decide), fun _ slot _ => rfl⟩
  · intro state trace call next output _ invariant taken
    obtain ⟨inside, step⟩ := LabelledSystem.restrict_step taken
    rw [List.map_append, List.map_singleton, latestValues_append]
    exact apiStep_keeps invariant inside step

theorem apiStep_paramsSet {state next : Staging} {call : ApiCall} {output : ApiOutput}
    (taken : apiStep state call = some (next, output)) : next.paramsSet = true := by
  by_cases setter : call.isSetter = true
  · exact (apiStep_setter setter taken).2.1
  · cases call with
    | startConfig => rw [apiStep_start taken, startConfig]
    | configSchc replies =>
        obtain ⟨pointer, outcome⟩ := apiStep_config taken
        rcases configSchc_next state replies with finished | kept
        · rw [outcome] at finished
          subst finished
          exact pointer
        · rw [outcome] at kept
          subst kept
          exact pointer
    | withIpv6SrcParam srcAddr => exact absurd rfl setter
    | withIpv6DstParam dstAddr => exact absurd rfl setter
    | withIpv6UdpSrcParam srcParam => exact absurd rfl setter
    | withIpv6UdpDstParam dstParam => exact absurd rfl setter

/-- After the first call the parameter pointer is set. -/
theorem run_paramsSet {state : Staging} {trace : List (ApiCall × ApiOutput)} (run : stagingSystem.Run state trace)
    (nonempty : trace ≠ []) : state.paramsSet = true := by
  cases run with
  | start initial => exact absurd rfl nonempty
  | extend previous taken => exact apiStep_paramsSet taken

/-- This SDK accepts every parameter of the six slots. -/
def acceptingReplies : ConfigReplies := ⟨true, 6, by decide, fun _ => false, true⟩

theorem expectedCalls_none (replies : ConfigReplies) : expectedCalls (fun _ => none) replies = [] := by
  simp [expectedCalls, throughFirst]

theorem expectedCalls_ne_nil {values : Nat → Option (List UInt8)} {replies : ConfigReplies} {slot : Nat}
    {value : List UInt8} (inside : slot < replies.nbParams) (staged : values slot = some value) :
    expectedCalls values replies ≠ [] := by
  have member : (slot, value) ∈ (List.range replies.nbParams).filterMap
      fun other => (values other).map fun staged => (other, staged) := by
    rw [List.mem_filterMap]
    exact ⟨slot, List.mem_range.mpr inside, by rw [staged]; rfl⟩
  unfold expectedCalls
  generalize (List.range replies.nbParams).filterMap (fun other => (values other).map fun staged => (other, staged)) =
    calls at member
  cases calls with
  | nil => cases member
  | cons first rest =>
      rw [throughFirst]
      split <;> simp

theorem setter_stages (values : Nat → Option (List UInt8)) {call : ApiCall} (setter : call.isSetter = true) :
    ∃ slot value, slot < 6 ∧ setsValues values call slot = some value := by
  cases call with
  | startConfig => cases setter
  | configSchc replies => cases setter
  | withIpv6SrcParam srcAddr => exact ⟨1, _, by decide, by rw [setsValues, Function.update_self]⟩
  | withIpv6DstParam dstAddr => exact ⟨3, _, by decide, by rw [setsValues, Function.update_self]⟩
  | withIpv6UdpSrcParam srcParam => exact ⟨4, _, by decide, by rw [setsValues, Function.update_self]⟩
  | withIpv6UdpDstParam dstParam => exact ⟨5, _, by decide, by rw [setsValues, Function.update_self]⟩

theorem apiStep_of_setter {state : Staging} {call : ApiCall} (setter : call.isSetter = true)
    (pointer : state.paramsSet = true) : ∃ next, apiStep state call = some (next, .accepted) := by
  cases call with
  | startConfig => cases setter
  | configSchc replies => cases setter
  | withIpv6SrcParam srcAddr => exact ⟨_, if_pos pointer⟩
  | withIpv6DstParam dstAddr => exact ⟨_, if_pos pointer⟩
  | withIpv6UdpSrcParam srcParam => exact ⟨_, if_pos pointer⟩
  | withIpv6UdpDstParam dstParam => exact ⟨_, if_pos pointer⟩

theorem configSchc_reached {state : Staging} {replies : ConfigReplies} (opened : state.initialized = true)
    (ready : replies.mgtInitialized = true) : (configSchc state replies).2.reachedLoop = true := by
  simp only [configSchc, opened, ready, Bool.not_true, Bool.false_eq_true, if_false]
  split
  · rfl
  · split <;> rfl

/-- After the call, `start_config` and an accepted configuration pass another list than the latest values. -/
def LeaksValue (trace : List (ApiCall × ApiOutput)) (call : ApiCall) : Prop :=
  ∃ started final output,
    stagingSystem.Run started (trace ++ [(call, .accepted)] ++ [(.startConfig, .accepted)]) ∧
    stagingSystem.step started (.configSchc acceptingReplies) = some (final, output) ∧
    output.reachedLoop = true ∧
    output.calls ≠ expectedCalls (latestValues (trace.map Prod.fst ++ [call] ++ [.startConfig])) acceptingReplies

/-- A setter outside a configuration leaves its value for the next one. -/
theorem lateSetter_leaks {state : Staging} {trace : List (ApiCall × ApiOutput)} (run : stagingSystem.Run state trace)
    (nonempty : trace ≠ []) (shut : state.initialized = false) {call : ApiCall} (setter : call.isSetter = true) :
    LeaksValue trace call := by
  obtain ⟨staged, set⟩ := apiStep_of_setter setter (run_paramsSet run nonempty)
  obtain ⟨flag, pointer, applied⟩ := apiStep_setter setter set
  have closed : staged.initialized = false := flag.trans shut
  have start : apiStep staged .startConfig = some (startConfig staged, .accepted) := by
    unfold apiStep
    rw [closed]
    rfl
  have config : apiStep (startConfig staged) (.configSchc acceptingReplies) =
      some ((configSchc (startConfig staged) acceptingReplies).1,
        (configSchc (startConfig staged) acceptingReplies).2) := rfl
  have reached : (configSchc (startConfig staged) acceptingReplies).2.reachedLoop = true :=
    configSchc_reached rfl rfl
  have kept : (startConfig staged).applied = setsValues state.applied call := by
    rw [← applied]
    funext slot
    unfold startConfig
    rw [closed]
    rfl
  obtain ⟨slot, value, inside, stages⟩ := setter_stages state.applied setter
  refine ⟨startConfig staged, _, _, (run.extend set).extend start, config, reached, ?_⟩
  rw [configSchc_expected reached, kept, latestValues_append]
  change _ ≠ expectedCalls (fun _ => none) acceptingReplies
  rw [expectedCalls_none]
  exact expectedCalls_ne_nil inside stages

/-- With setters inside a configuration every configuration passes exactly the latest values, and a setter
outside one always leads to a configuration that does not. -/
theorem appliesLatest_inside (state : Staging) (trace : List (ApiCall × ApiOutput)) :
    AppliesLatest (stagingSystem.restrict SetterInside) state trace ∧
      (stagingSystem.Run state trace → trace ≠ [] → state.initialized = false →
        ∀ call : ApiCall, call.isSetter = true → LeaksValue trace call) := by
  constructor
  · intro run replies next output taken reached
    obtain ⟨-, step⟩ := LabelledSystem.restrict_step taken
    have outcome := (apiStep_config step).2
    have reachedCode : (configSchc state replies).2.reachedLoop = true := by
      rw [outcome]
      exact reached
    have calls := configSchc_expected reachedCode
    rw [outcome] at calls
    rw [calls]
    exact expectedCalls_congr ((restricted_invariant run).opened (configSchc_calls reachedCode).1)
  · intro run nonempty shut call setter
    exact lateSetter_leaks run nonempty shut setter

/-- These calls set a port after a finished configuration and configure again without one. -/
def latePortCalls : List ApiCall :=
  [.startConfig, .configSchc acceptingReplies, .withIpv6UdpSrcParam "5683".toList, .startConfig]

theorem latePort_applied :
    ((stagingSystem.exec ⟨false, false, fun _ => .cleared⟩ latePortCalls).bind fun reply =>
        apiStep reply.1 (.configSchc acceptingReplies)).map (fun reply => (reply.2.reachedLoop, reply.2.calls)) =
        some (true, [(4, [0x16, 0x33])]) ∧
      expectedCalls (latestValues latePortCalls) acceptingReplies = [] ∧
      ¬∀ state trace, AppliesLatest stagingSystem state trace := by
  refine ⟨by decide, by decide, ?_⟩
  intro always
  let zeroed : Staging := ⟨false, false, fun _ => .cleared⟩
  have opened : stagingSystem.step zeroed .startConfig = some (startConfig zeroed, .accepted) := rfl
  have configured : stagingSystem.step (startConfig zeroed) (.configSchc acceptingReplies) =
      some (finish (startConfig zeroed), ⟨.schcConfigOk, true, []⟩) := rfl
  have run := ((LabelledSystem.Run.start rfl).extend opened).extend configured
  obtain ⟨started, final, output, leaking, config, reached, leaked⟩ :=
    lateSetter_leaks run (by simp) rfl (show (ApiCall.withIpv6UdpSrcParam "5683".toList).isSetter = true from rfl)
  apply leaked
  rw [always started _ leaking acceptingReplies final output config reached]
  rfl

end SchcWork.Schc
