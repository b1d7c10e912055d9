import SchcWork.Library.Memory

namespace SchcWork.Schc

inductive MgtStatus where
  | mgtSuccess
  | mgtError
  deriving Repr, DecidableEq

inductive CompStatus where
  | compSuccess
  | compRulesNotFoundErr
  | other (code : Nat)
  deriving Repr, DecidableEq

/-- The rule array of the inner rules is a null pointer, so only its identifiers and the default remain. -/
structure InnerRules where
  ruleIds : List Nat
  defaultRuleId : UInt8
  deriving Repr, DecidableEq

def noCompRuleId : UInt8 := 0x1c

def getInnerRules : InnerRules := ⟨[], noCompRuleId⟩

@[simp] theorem getInnerRules_default : getInnerRules.defaultRuleId = noCompRuleId := rfl

/-- An SDK call returns a status, and it may write the output buffer and the output size. -/
structure CompReply where
  status : CompStatus
  outBuf : ByteMemory
  outDataSize : Nat

/-- Each buffer pointer that the SDK gets is the base of its own memory. -/
structure InnerSdk where
  schcOscoreInnerDecompress (rules : InnerRules) (outBuf : ByteMemory) (outBufSize outDataSize : Nat)
    (inData : List UInt8) : CompReply

/-- The outcome lists the bytes of `in_data` that the function itself reads and its copy length. -/
structure InnerOutcome where
  status : MgtStatus
  outBuf : ByteMemory
  outDataSize : Nat
  reads : List ByteSpan
  copied : Option Nat

/-- The length of the copy is an `int` that `memcpy` takes as a 64-bit size. -/
def copyLength (inDataSize : Nat) : Nat := (2 ^ 64 - 1 + inDataSize) % 2 ^ 64

/-- The output size has 16 bits. -/
def strippedSize (inDataSize : Nat) : Nat := (2 ^ 16 - 1 + inDataSize) % 2 ^ 16

def mgtExtOscoreInnerDecompression (sdk : InnerSdk) (outBuf : ByteMemory) (outBufSize outDataSize : Nat)
    (inData : ByteMemory) (inDataSize : Nat) : InnerOutcome :=
  let rules := getInnerRules
  let reply := sdk.schcOscoreInnerDecompress rules outBuf outBufSize outDataSize (inData.slice 0 inDataSize)
  if reply.status ≠ .compSuccess then
    -- The first byte is read only when the status is not the one for missing rules.
    let firstByte : List ByteSpan := if reply.status = .compRulesNotFoundErr then [] else [⟨0, 1⟩]
    if ¬(reply.status = .compRulesNotFoundErr ∨ inData 0 = rules.defaultRuleId) then
      ⟨.mgtError, reply.outBuf, reply.outDataSize, firstByte, none⟩
    else
      ⟨.mgtSuccess, reply.outBuf.store 0 (inData.slice 1 (copyLength inDataSize)), strippedSize inDataSize,
        firstByte ++ [⟨1, copyLength inDataSize⟩], some (copyLength inDataSize)⟩
  else ⟨.mgtSuccess, reply.outBuf, reply.outDataSize, [], none⟩

/-- The SDK takes a callback for the extension fields, which maps output bits and input bits to a success flag. -/
structure CompCallbacks where
  extCompress : List Bool → List Bool → Bool

/-- The callback ignores its two arguments. -/
def extCompress (_outputBb _inputBs : List Bool) : Bool := true

/-- The worker uses the SDK in both directions. -/
structure InnerCodecSdk extends InnerSdk where
  schcOscoreInnerCompress (rules : InnerRules) (outBuf : ByteMemory) (outBufSize outDataSize : Nat)
    (inData : List UInt8) (callbacks : CompCallbacks) : CompReply

/-- A compression returns its status and the output that the SDK left. -/
structure InnerCompressed where
  status : MgtStatus
  outBuf : ByteMemory
  outDataSize : Nat

def mgtExtOscoreInnerCompression (sdk : InnerCodecSdk) (outBuf : ByteMemory) (outBufSize outDataSize : Nat)
    (inData : ByteMemory) (inDataSize : Nat) : InnerCompressed :=
  let rules := getInnerRules
  let callbacks : CompCallbacks := ⟨extCompress⟩
  let reply := sdk.schcOscoreInnerCompress rules outBuf outBufSize outDataSize (inData.slice 0 inDataSize) callbacks
  if reply.status ≠ .compSuccess then ⟨.mgtError, reply.outBuf, reply.outDataSize⟩
  else ⟨.mgtSuccess, reply.outBuf, reply.outDataSize⟩

/-- Without a matching rule the SDK reports missing rules. -/
def InnerSdk.ReportsMissingRules (sdk : InnerSdk) : Prop :=
  ∀ rules outBuf outBufSize outDataSize inData, rules.ruleIds = [] →
    (sdk.schcOscoreInnerDecompress rules outBuf outBufSize outDataSize inData).status = .compRulesNotFoundErr

/-- Without a matching rule the SDK puts the default identifier before the input, or it fails for lack of room. -/
def InnerCodecSdk.EmitsDefaultRule (sdk : InnerCodecSdk) : Prop :=
  ∀ rules outBuf outBufSize outDataSize inData callbacks, rules.ruleIds = [] →
    let reply := sdk.schcOscoreInnerCompress rules outBuf outBufSize outDataSize inData callbacks
    if inData.length + 1 ≤ outBufSize then
      reply.status = .compSuccess ∧ reply.outDataSize = inData.length + 1 ∧
        reply.outBuf.slice 0 (inData.length + 1) = rules.defaultRuleId :: inData
    else reply.status ≠ .compSuccess

/-- The SDK keeps to the output buffer, and a success reports a size inside it. -/
structure InnerSdk.StaysInside (sdk : InnerSdk) : Prop where
  written : ∀ rules outBuf outBufSize outDataSize inData index, outBufSize ≤ index →
    (sdk.schcOscoreInnerDecompress rules outBuf outBufSize outDataSize inData).outBuf index = outBuf index
  reported : ∀ rules outBuf outBufSize outDataSize inData,
    (sdk.schcOscoreInnerDecompress rules outBuf outBufSize outDataSize inData).status = .compSuccess →
      (sdk.schcOscoreInnerDecompress rules outBuf outBufSize outDataSize inData).outDataSize ≤ outBufSize

/-- The call strips an input with the default identifier and rejects every other input. -/
def StripsOnlyDefault (sdk : InnerSdk) (outBuf : ByteMemory) (outBufSize outDataSize : Nat) (inData : ByteMemory)
    (inDataSize : Nat) : Prop :=
  let outcome := mgtExtOscoreInnerDecompression sdk outBuf outBufSize outDataSize inData inDataSize
  if inData 0 = noCompRuleId then
    outcome.status = .mgtSuccess ∧ outcome.outDataSize = inDataSize - 1 ∧
      outcome.outBuf.slice 0 (inDataSize - 1) = inData.slice 1 (inDataSize - 1)
  else outcome.status = .mgtError

section Decompression

variable {sdk : InnerSdk} {outBuf : ByteMemory} {outBufSize outDataSize : Nat}
variable {inData : ByteMemory} {inDataSize : Nat}

/-- A 16-bit size is exact after the first byte is removed. -/
theorem copyLength_eq (nonempty : 1 ≤ inDataSize) (fits : inDataSize < 2 ^ 16) :
    copyLength inDataSize = inDataSize - 1 ∧ strippedSize inDataSize = inDataSize - 1 := by
  unfold copyLength strippedSize
  omega

/-- With missing rules the call copies everything behind the first byte, whatever that byte is. -/
theorem innerDecompression_missingRules (missing : sdk.ReportsMissingRules) (nonempty : 1 ≤ inDataSize)
    (fits : inDataSize < 2 ^ 16) :
    let outcome := mgtExtOscoreInnerDecompression sdk outBuf outBufSize outDataSize inData inDataSize
    outcome.status = .mgtSuccess ∧ outcome.outDataSize = inDataSize - 1 ∧
      outcome.outBuf.slice 0 (inDataSize - 1) = inData.slice 1 (inDataSize - 1) := by
  have status := missing getInnerRules outBuf outBufSize outDataSize (inData.slice 0 inDataSize) rfl
  obtain ⟨copy, stripped⟩ := copyLength_eq nonempty fits
  have failed : CompStatus.compRulesNotFoundErr ≠ .compSuccess := by decide
  simp only [mgtExtOscoreInnerDecompression, status, ne_eq, failed, not_false_eq_true, if_true, true_or,
    not_true_eq_false, if_false, copy, stripped, true_and]
  exact ByteMemory.slice_store_eq _ _ (ByteMemory.length_slice _ _ _)

end Decompression

section Lengths

variable (sdk : InnerSdk) (outBuf : ByteMemory) (outBufSize outDataSize : Nat)
variable (inData : ByteMemory) (inDataSize : Nat)

/-- This is the reply of the SDK to the call that the function makes. -/
def decompressionReply : CompReply :=
  sdk.schcOscoreInnerDecompress getInnerRules outBuf outBufSize outDataSize (inData.slice 0 inDataSize)

/-- Each constructor is one path of the function with its guards and its outcome. -/
inductive DecompressionPath (reply : CompReply) : InnerOutcome → Prop where
  | accepted (success : reply.status = .compSuccess) :
      DecompressionPath reply ⟨.mgtSuccess, reply.outBuf, reply.outDataSize, [], none⟩
  | rejected (failed : reply.status ≠ .compSuccess) (known : reply.status ≠ .compRulesNotFoundErr)
      (foreign : inData 0 ≠ noCompRuleId) :
      DecompressionPath reply ⟨.mgtError, reply.outBuf, reply.outDataSize, [⟨0, 1⟩], none⟩
  | stripped (failed : reply.status ≠ .compSuccess)
      (fallback : reply.status = .compRulesNotFoundErr ∨ inData 0 = noCompRuleId) :
      DecompressionPath reply
        ⟨.mgtSuccess, reply.outBuf.store 0 (inData.slice 1 (copyLength inDataSize)), strippedSize inDataSize,
          (if reply.status = .compRulesNotFoundErr then [] else [⟨0, 1⟩]) ++ [⟨1, copyLength inDataSize⟩],
          some (copyLength inDataSize)⟩

theorem innerDecompression_path :
    DecompressionPath inData inDataSize (decompressionReply sdk outBuf outBufSize outDataSize inData inDataSize)
      (mgtExtOscoreInnerDecompression sdk outBuf outBufSize outDataSize inData inDataSize) := by
  unfold mgtExtOscoreInnerDecompression
  dsimp only
  split
  · rename_i failed
    split
    · rename_i rejected
      obtain ⟨known, foreign⟩ := not_or.mp rejected
      rw [if_neg known]
      exact .rejected failed known foreign
    · rename_i fallback
      exact .stripped failed (not_not.mp fallback)
  · rename_i success
    exact .accepted (not_not.mp success)

/-- A safe call stays inside both buffers, reports a size inside the output buffer, and copies exactly the bytes
behind the first one. -/
structure LengthSafe (outcome : InnerOutcome) : Prop where
  written : outcome.status = .mgtSuccess → ∀ index, outBufSize ≤ index → outcome.outBuf index = outBuf index
  room : outcome.status = .mgtSuccess → ∀ length, outcome.copied = some length → length ≤ outBufSize
  reported : outcome.status = .mgtSuccess → outcome.outDataSize ≤ outBufSize
  exactLength : ∀ length, outcome.copied = some length → length + 1 = inDataSize
  read : ∀ span ∈ outcome.reads, span.Within inDataSize

/-- The SDK accepts the input, or the input is not empty and the fallback rejects it or has room for its rest. -/
def FallbackFits (reply : CompReply) : Prop :=
  reply.status = .compSuccess ∨
    1 ≤ inDataSize ∧ (inDataSize ≤ outBufSize + 1 ∨
      reply.status ≠ .compRulesNotFoundErr ∧ inData 0 ≠ noCompRuleId)

variable {sdk outBuf outBufSize outDataSize inData inDataSize}

/-- The copy length of the fallback is exact only behind a first byte. -/
theorem copyLength_exact (fits : inDataSize < 2 ^ 16) : copyLength inDataSize + 1 = inDataSize ↔ 1 ≤ inDataSize := by
  constructor
  · intro exactLength
    omega
  · intro nonempty
    rw [(copyLength_eq nonempty fits).1]
    omega

/-- A copy inside the output buffer leaves the bytes behind the buffer as the SDK left them. -/
theorem strippedCopy_outside {reply : CompReply} {length : Nat} (room : length ≤ outBufSize) {index : Nat}
    (outside : outBufSize ≤ index) : reply.outBuf.store 0 (inData.slice 1 length) index = reply.outBuf index := by
  apply ByteMemory.store_above
  rw [ByteMemory.length_slice]
  omega

/-- The test of the first byte reads nothing or one byte. -/
theorem firstByte_short (missing : Prop) [Decidable missing] :
    ∀ span ∈ (if missing then [] else [⟨0, 1⟩] : List ByteSpan), span = ⟨0, 1⟩ := by
  intro span member
  split at member
  · cases member
  · exact List.mem_singleton.mp member

/-- The fallback is safe exactly for a nonempty input whose rest fits. -/
theorem lengthSafe_stripped {reply : CompReply} (fits : inDataSize < 2 ^ 16)
    (kept : ∀ index, outBufSize ≤ index → reply.outBuf index = outBuf index) (firstByte : List ByteSpan)
    (short : ∀ span ∈ firstByte, span = ⟨0, 1⟩) :
    LengthSafe outBuf outBufSize inDataSize
        ⟨.mgtSuccess, reply.outBuf.store 0 (inData.slice 1 (copyLength inDataSize)), strippedSize inDataSize,
          firstByte ++ [⟨1, copyLength inDataSize⟩], some (copyLength inDataSize)⟩ ↔
      1 ≤ inDataSize ∧ inDataSize ≤ outBufSize + 1 := by
  constructor
  · intro safe
    have exactLength := safe.exactLength _ rfl
    have room := safe.room rfl _ rfl
    exact ⟨(copyLength_exact fits).mp exactLength, by omega⟩
  · intro ⟨nonempty, rest⟩
    obtain ⟨copy, stripped⟩ := copyLength_eq nonempty fits
    have room : inDataSize - 1 ≤ outBufSize := by omega
    rw [copy, stripped]
    constructor
    · intro _ index outside
      rw [← kept index outside]
      exact strippedCopy_outside room outside
    · intro _ length same
      cases same
      exact room
    · intro _
      exact room
    · intro length same
      cases same
      omega
    · intro span member
      rw [List.mem_append, List.mem_singleton] at member
      cases member with
      | inl first =>
          rw [short span first]
          exact nonempty
      | inr rest =>
          rw [rest]
          change 1 + (inDataSize - 1) ≤ inDataSize
          omega

/-- One call is safe exactly when the input fits the fallback or does not reach it. -/
theorem lengthSafe_iff (inside : sdk.StaysInside) (fits : inDataSize < 2 ^ 16) :
    LengthSafe outBuf outBufSize inDataSize
        (mgtExtOscoreInnerDecompression sdk outBuf outBufSize outDataSize inData inDataSize) ↔
      FallbackFits outBufSize inData inDataSize
        (decompressionReply sdk outBuf outBufSize outDataSize inData inDataSize) := by
  have path := @innerDecompression_path sdk outBuf outBufSize outDataSize inData inDataSize
  have kept := inside.written getInnerRules outBuf outBufSize outDataSize (inData.slice 0 inDataSize)
  have reported := inside.reported getInnerRules outBuf outBufSize outDataSize (inData.slice 0 inDataSize)
  change ∀ index, outBufSize ≤ index →
    (decompressionReply sdk outBuf outBufSize outDataSize inData inDataSize).outBuf index = outBuf index at kept
  generalize mgtExtOscoreInnerDecompression sdk outBuf outBufSize outDataSize inData inDataSize = outcome at path
  cases path with
  | accepted success =>
      refine iff_of_true ⟨?_, ?_, ?_, ?_, ?_⟩ (.inl success)
      · exact fun _ index outside => kept index outside
      · exact fun _ length copied => by cases copied
      · exact fun _ => reported success
      · exact fun length copied => by cases copied
      · exact fun span member => by cases member
  | rejected failed known foreign =>
      rw [FallbackFits]
      constructor
      · intro safe
        exact .inr ⟨safe.read _ (List.mem_singleton_self _), .inr ⟨known, foreign⟩⟩
      · intro condition
        obtain ⟨nonempty, -⟩ := condition.resolve_left failed
        constructor
        · exact fun success => by cases success
        · exact fun success => by cases success
        · exact fun success => by cases success
        · exact fun length copied => by cases copied
        · intro span member
          rw [List.mem_singleton.mp member]
          exact nonempty
  | stripped failed fallback =>
      rw [lengthSafe_stripped fits kept _ (firstByte_short _), FallbackFits]
      have reached : ¬((decompressionReply sdk outBuf outBufSize outDataSize inData inDataSize).status ≠
          .compRulesNotFoundErr ∧ inData 0 ≠ noCompRuleId) := by
        rintro ⟨known, foreign⟩
        exact fallback.elim known foreign
      simp only [failed, reached, or_false, false_or]

end Lengths

/-- The call meets its purpose exactly for inputs that start with the default identifier. -/
theorem stripsOnlyDefault_iff (sdk : InnerSdk) (missing : sdk.ReportsMissingRules) (outBuf : ByteMemory)
    (outBufSize outDataSize : Nat) (inData : ByteMemory) (inDataSize : Nat) (nonempty : 1 ≤ inDataSize)
    (fits : inDataSize < 2 ^ 16) :
    StripsOnlyDefault sdk outBuf outBufSize outDataSize inData inDataSize ↔ inData 0 = noCompRuleId := by
  have stripped := @innerDecompression_missingRules sdk outBuf outBufSize outDataSize inData inDataSize missing
    nonempty fits
  unfold StripsOnlyDefault
  by_cases first : inData 0 = noCompRuleId
  · simp only [first, if_true, iff_true]
    exact stripped
  · simp only [first, if_false, iff_false]
    intro rejected
    rw [stripped.1] at rejected
    cases rejected

/-- This SDK finds no rule and writes nothing. -/
def missingRulesSdk : InnerSdk := ⟨fun _ outBuf _ outDataSize _ => ⟨.compRulesNotFoundErr, outBuf, outDataSize⟩⟩

theorem defaultInput_stripped :
    StripsOnlyDefault missingRulesSdk (fun _ => 0) 8 0 (fun index => if index = 0 then 0x1c else 7) 3 :=
  (stripsOnlyDefault_iff missingRulesSdk (fun _ _ _ _ _ _ => rfl) (fun _ => 0) 8 0 _ 3 (by decide) (by decide)).mpr
    rfl

/-- A plain GET request loses its code. -/
theorem plainRequest_stripped :
    let plain : List UInt8 := [0x01, 0xB3, 0x74, 0x76, 0x31]
    let inData : ByteMemory := ByteMemory.store (fun _ => 0) 0 plain
    let outcome := mgtExtOscoreInnerDecompression missingRulesSdk (fun _ => 0) 8 0 inData 5
    ¬StripsOnlyDefault missingRulesSdk (fun _ => 0) 8 0 inData 5 ∧
      outcome.status = .mgtSuccess ∧ outcome.outBuf.slice 0 outcome.outDataSize = plain.tail := by
  intro plain inData outcome
  obtain ⟨success, size, copied⟩ := @innerDecompression_missingRules missingRulesSdk (fun _ => 0) 8 0 inData 5
    (fun _ _ _ _ _ _ => rfl) (by decide) (by decide)
  refine ⟨?_, success, ?_⟩
  · intro strips
    have first : ¬inData 0 = noCompRuleId := by decide
    rw [StripsOnlyDefault, if_neg first, success] at strips
    cases strips
  · change outcome.outDataSize = 4 at size
    rw [size]
    exact copied.trans rfl

end SchcWork.Schc
