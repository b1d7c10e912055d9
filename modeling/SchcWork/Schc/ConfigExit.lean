import SchcWork.Schc.Helper

namespace SchcWork.Schc

/-- No staged slot below the parameter count is refused. -/
def RefusesNone (state : Staging) (replies : ConfigReplies) : Prop :=
  ∀ slot < replies.nbParams, (state.templateParams slot).initialized = true → replies.refusesParam slot = false

/-- A `start_config` is open until the next configuration. -/
def opensAfter (opened : Bool) : ApiCall → Bool
  | .startConfig => true
  | .configSchc _ => false
  | _ => opened

def opensLast (calls : List ApiCall) : Bool := calls.foldl opensAfter false

/-- The configuration returns, it leaves the flag down and every slot freed and zeroed, and it reports the failure
when no `start_config` precedes it. -/
def ExitsClean (calls : List ApiCall) (state : Staging) (replies : ConfigReplies) : Prop :=
  ∃ next output, stagingSystem.step state (.configSchc replies) = some (next, output) ∧ next.initialized = false ∧
    (∀ slot < maxTemplateParams, next.templateParams slot = .cleared) ∧
    (opensLast calls = false → output.result = .schcConfigKo)

/-- Each constructor is one exit of `config_schc` with its guards. -/
inductive ConfigExit (state : Staging) (replies : ConfigReplies) : Staging × ApiOutput → Prop where
  | closed (shut : state.initialized = false) : ConfigExit state replies (finish state, ⟨.schcConfigKo, false, []⟩)
  | mgtFailed (opened : state.initialized = true) (failed : replies.mgtInitialized = false) :
      ConfigExit state replies (finish state, ⟨.schcConfigKo, false, []⟩)
  | paramRefused (opened : state.initialized = true) (ready : replies.mgtInitialized = true)
      (refused : ¬RefusesNone state replies) (calls : List (Nat × List UInt8)) :
      ConfigExit state replies (finish state, ⟨.schcConfigKo, true, calls⟩)
  | netFailed (opened : state.initialized = true) (ready : replies.mgtInitialized = true)
      (applied : RefusesNone state replies) (failed : replies.netInitialized = false)
      (calls : List (Nat × List UInt8)) : ConfigExit state replies (state, ⟨.schcConfigKo, true, calls⟩)
  | succeeded (opened : state.initialized = true) (ready : replies.mgtInitialized = true)
      (applied : RefusesNone state replies) (started : replies.netInitialized = true)
      (calls : List (Nat × List UInt8)) : ConfigExit state replies (finish state, ⟨.schcConfigOk, true, calls⟩)

/-- The loop ends without a failure exactly when it meets no refusal. -/
theorem applyParams_passes (params : Nat → TemplateParam) (refuses : Nat → Bool) (count slot : Nat) :
    (applyParams params refuses count slot).2 = true ↔
      ∀ other, slot ≤ other → other < slot + count → (params other).initialized = true → refuses other = false := by
  induction count generalizing slot with
  | zero =>
      apply iff_of_true rfl
      intro other lower upper
      omega
  | succ count ih =>
      have split (first : (params slot).initialized = true → refuses slot = false) :
          (∀ other, slot ≤ other → other < slot + (count + 1) → (params other).initialized = true →
              refuses other = false) ↔
            ∀ other, slot + 1 ≤ other → other < slot + 1 + count → (params other).initialized = true →
              refuses other = false := by
        constructor
        · intro all other lower upper
          exact all other (by omega) (by omega)
        · intro later other lower upper
          by_cases here : other = slot
          · rw [here]
            exact first
          · exact later other (by omega) (by omega)
      rw [applyParams]
      by_cases staged : (params slot).initialized = true
      · rw [if_pos staged]
        by_cases refused : refuses slot = true
        · rw [if_pos refused]
          apply iff_of_false Bool.false_ne_true
          intro all
          rw [all slot (Nat.le_refl slot) (by omega) staged] at refused
          cases refused
        · rw [if_neg refused]
          show (applyParams params refuses count (slot + 1)).2 = true ↔ _
          rw [ih, split fun _ => Bool.eq_false_iff.mpr refused]
      · rw [if_neg staged, ih, split fun initialized => absurd initialized staged]

theorem refusesNone_iff (state : Staging) (replies : ConfigReplies) :
    (applyParams state.templateParams replies.refusesParam replies.nbParams 0).2 = true ↔
      RefusesNone state replies := by
  rw [applyParams_passes, RefusesNone]
  constructor
  · intro all slot inside
    exact all slot (Nat.zero_le slot) (by omega)
  · intro all slot _ inside
    exact all slot (by omega)

theorem configSchc_exit (state : Staging) (replies : ConfigReplies) :
    ConfigExit state replies (configSchc state replies) := by
  have passes := refusesNone_iff state replies
  unfold configSchc
  dsimp only
  split
  · rename_i shut
    exact .closed (by simpa using shut)
  · rename_i opened
    split
    · rename_i failed
      exact .mgtFailed (by simpa using opened) (by simpa using failed)
    · rename_i ready
      split
      · rename_i refused
        apply ConfigExit.paramRefused (by simpa using opened) (by simpa using ready)
        rw [← passes]
        simpa using refused
      · rename_i applied
        have none : RefusesNone state replies := passes.mp (by simpa using applied)
        split
        · rename_i failed
          exact .netFailed (by simpa using opened) (by simpa using ready) none (by simpa using failed) _
        · rename_i started
          exact .succeeded (by simpa using opened) (by simpa using ready) none (by simpa using started) _

/-- No call but `start_config` has a step while the parameter pointer is null. -/
theorem apiStep_pointer {state next : Staging} {call : ApiCall} {output : ApiOutput}
    (taken : apiStep state call = some (next, output)) : state.paramsSet = true ∨ call = .startConfig := by
  by_contra neither
  obtain ⟨unset, other⟩ := not_or.mp neither
  have crash : apiStep state call = none := by
    cases call with
    | startConfig => exact absurd rfl other
    | withIpv6SrcParam srcAddr => exact if_neg unset
    | withIpv6DstParam dstAddr => exact if_neg unset
    | withIpv6UdpSrcParam srcParam => exact if_neg unset
    | withIpv6UdpDstParam dstParam => exact if_neg unset
    | configSchc replies => exact if_neg unset
  cases crash.symm.trans taken

/-- The parameter pointer of a run is set exactly when the run has a `start_config`. -/
theorem run_paramsSet_iff {state : Staging} {trace : List (ApiCall × ApiOutput)} (run : stagingSystem.Run state trace) :
    state.paramsSet = true ↔ ApiCall.startConfig ∈ trace.map Prod.fst := by
  constructor
  · induction run with
    | start initial =>
        cases initial
        intro set
        cases set
    | extend previous taken ih =>
        intro _
        rw [List.map_append, List.map_singleton, List.mem_append, List.mem_singleton]
        rcases apiStep_pointer taken with pointer | start
        · exact .inl (ih pointer)
        · exact .inr start.symm
  · intro started
    apply run_paramsSet run
    rintro rfl
    cases started

/-- A configuration that has its pointer ends clean unless it stops at the network or needs no `start_config`. -/
theorem configSchc_clean_iff {state : Staging} {replies : ConfigReplies} {calls : List ApiCall}
    (pointer : state.paramsSet = true) :
    ExitsClean calls state replies ↔
      (state.initialized = false ∨ replies.mgtInitialized = false ∨ ¬RefusesNone state replies ∨
        replies.netInitialized = true ∧ opensLast calls = true) := by
  have taken : stagingSystem.step state (.configSchc replies) = some (configSchc state replies) := if_pos pointer
  have exits : ExitsClean calls state replies ↔
      (configSchc state replies).1.initialized = false ∧
        (∀ slot < maxTemplateParams, (configSchc state replies).1.templateParams slot = .cleared) ∧
        (opensLast calls = false → (configSchc state replies).2.result = .schcConfigKo) := by
    constructor
    · rintro ⟨next, output, step, clean⟩
      rw [Option.some.inj (taken.symm.trans step)]
      exact clean
    · intro clean
      exact ⟨_, _, taken, clean⟩
  have cleaned : ∀ slot < maxTemplateParams, (finish state).templateParams slot = .cleared :=
    fun slot inside => if_pos inside
  have path := configSchc_exit state replies
  rw [exits]
  generalize configSchc state replies = result at path
  cases path with
  | closed shut => exact iff_of_true ⟨rfl, cleaned, fun _ => rfl⟩ (.inl shut)
  | mgtFailed opened failed => exact iff_of_true ⟨rfl, cleaned, fun _ => rfl⟩ (.inr (.inl failed))
  | paramRefused opened ready refused => exact iff_of_true ⟨rfl, cleaned, fun _ => rfl⟩ (.inr (.inr (.inl refused)))
  | netFailed opened ready applied failed =>
      apply iff_of_false
      · intro clean
        cases opened.symm.trans clean.1
      · simp [opened, ready, applied, failed]
  | succeeded opened ready applied started =>
      have condition : (state.initialized = false ∨ replies.mgtInitialized = false ∨ ¬RefusesNone state replies ∨
          replies.netInitialized = true ∧ opensLast calls = true) ↔ opensLast calls = true := by
        simp [opened, ready, applied, started]
      rw [condition]
      constructor
      · intro clean
        by_contra closed
        cases clean.2.2 (Bool.eq_false_iff.mpr closed)
      · intro opens
        refine ⟨rfl, cleaned, ?_⟩
        intro closed
        cases opens.symm.trans closed

/-- After every run a configuration ends clean exactly when some `start_config` was made, and the call is closed, or
the SDK refuses it before the network starts, or the network starts in an open configuration. -/
theorem exitsClean_iff {state : Staging} {trace : List (ApiCall × ApiOutput)} (run : stagingSystem.Run state trace)
    (replies : ConfigReplies) :
    ExitsClean (trace.map Prod.fst) state replies ↔
      ApiCall.startConfig ∈ trace.map Prod.fst ∧
        (state.initialized = false ∨ replies.mgtInitialized = false ∨ ¬RefusesNone state replies ∨
          replies.netInitialized = true ∧ opensLast (trace.map Prod.fst) = true) := by
  rw [← run_paramsSet_iff run]
  constructor
  · intro clean
    have pointer : state.paramsSet = true := by
      by_contra unset
      obtain ⟨next, output, step, -⟩ := clean
      have crash : stagingSystem.step state (.configSchc replies) = none := if_neg unset
      cases crash.symm.trans step
    exact ⟨pointer, (configSchc_clean_iff pointer).mp clean⟩
  · rintro ⟨pointer, condition⟩
    exact (configSchc_clean_iff pointer).mpr condition

/-- The helper starts with zeroed static data. -/
def zeroedStaging : Staging := ⟨false, false, fun _ => .cleared⟩

theorem startConfig_run : stagingSystem.Run (startConfig zeroedStaging) [(.startConfig, .accepted)] :=
  (LabelledSystem.Run.start rfl).extend (show stagingSystem.step zeroedStaging .startConfig = _ from rfl)

theorem acceptedConfig_exitsClean : ExitsClean [.startConfig] (startConfig zeroedStaging) acceptingReplies :=
  (exitsClean_iff startConfig_run acceptingReplies).mpr
    ⟨List.mem_singleton_self _, .inr (.inr (.inr ⟨rfl, rfl⟩))⟩

/-- A first call to `config_schc` crashes, and a network failure leaves the flag and the parameters. -/
theorem networkFailure_unclean :
    let failing : ConfigReplies := ⟨true, 6, by decide, fun _ => false, false⟩
    ¬ExitsClean [] zeroedStaging acceptingReplies ∧
      (configSchc (startConfig zeroedStaging) failing).1.initialized = true ∧
      ¬ExitsClean [.startConfig] (startConfig zeroedStaging) failing := by
  refine ⟨?_, rfl, ?_⟩
  · rintro ⟨next, output, step, -⟩
    cases step
  · rintro ⟨next, output, step, down, -⟩
    obtain ⟨rfl, -⟩ := Prod.mk.inj (Option.some.inj step)
    cases down

end SchcWork.Schc
