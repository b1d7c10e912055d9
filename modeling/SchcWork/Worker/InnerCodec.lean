import SchcWork.Schc.ExtensionApi

namespace SchcWork.Worker

open Schc

def oscoreInnerMaxSize : Nat := 128

/-- A callback returns its success, the plaintext and its size, and it records the length of its copy. -/
structure InnerMessage where
  accepted : Bool
  plaintext : ByteMemory
  plaintextSize : Nat
  copied : Option Nat

/-- Both callbacks copy the local buffer back after a success. -/
def moveBack (status : MgtStatus) (outBuf : ByteMemory) (outDataSize : Nat) (plaintext : ByteMemory)
    (plaintextSize : Nat) : InnerMessage :=
  if status ≠ .mgtSuccess then ⟨false, plaintext, plaintextSize, none⟩
  else ⟨true, plaintext.store 0 (outBuf.slice 0 outDataSize), outDataSize, some outDataSize⟩

/-- The local buffer starts with zeros. -/
def innerBuf : ByteMemory := fun _ => 0

/-- The parameter of the extension API has 16 bits, and the size of the plaintext has 32. -/
def narrowedSize (plaintextSize : Nat) : Nat := plaintextSize % 2 ^ 16

def oscoreMsgInnerCompression (sdk : InnerCodecSdk) (plaintext : ByteMemory) (plaintextSize : Nat) : InnerMessage :=
  let compressed := mgtExtOscoreInnerCompression sdk innerBuf oscoreInnerMaxSize 0 plaintext
    (narrowedSize plaintextSize)
  moveBack compressed.status compressed.outBuf compressed.outDataSize plaintext plaintextSize

/-- This callback leaves the output size uninitialised. -/
def oscoreMsgInnerDecompression (sdk : InnerSdk) (outDataSize : Nat) (plaintext : ByteMemory) (plaintextSize : Nat) :
    InnerMessage :=
  let outcome := mgtExtOscoreInnerDecompression sdk innerBuf oscoreInnerMaxSize outDataSize plaintext
    (narrowedSize plaintextSize)
  moveBack outcome.status outcome.outBuf outcome.outDataSize plaintext plaintextSize

theorem narrowedSize_lt (plaintextSize : Nat) : narrowedSize plaintextSize < 2 ^ 16 :=
  Nat.mod_lt _ (by decide)

theorem narrowedSize_eq {plaintextSize : Nat} (fits : plaintextSize < 2 ^ 16) :
    narrowedSize plaintextSize = plaintextSize :=
  Nat.mod_eq_of_lt fits

section MoveBack

variable (outBuf : ByteMemory) (outDataSize : Nat) (plaintext : ByteMemory) (plaintextSize : Nat)

theorem moveBack_error :
    moveBack .mgtError outBuf outDataSize plaintext plaintextSize = ⟨false, plaintext, plaintextSize, none⟩ := rfl

theorem moveBack_success :
    moveBack .mgtSuccess outBuf outDataSize plaintext plaintextSize =
      ⟨true, plaintext.store 0 (outBuf.slice 0 outDataSize), outDataSize, some outDataSize⟩ := rfl

/-- The copy back has the length that a successful call reported. -/
theorem moveBack_copied {status : MgtStatus} {length : Nat}
    (copied : (moveBack status outBuf outDataSize plaintext plaintextSize).copied = some length) :
    status = .mgtSuccess ∧ length = outDataSize := by
  cases status with
  | mgtSuccess => exact ⟨rfl, (Option.some.inj copied).symm⟩
  | mgtError => cases copied

/-- The plaintext starts with the result after a success. -/
theorem moveBack_slice (bytes : List UInt8) (held : outBuf.slice 0 outDataSize = bytes) :
    (moveBack .mgtSuccess outBuf outDataSize plaintext plaintextSize).plaintext.slice 0 outDataSize = bytes := by
  rw [moveBack_success, held]
  show (plaintext.store 0 bytes).slice 0 outDataSize = bytes
  apply ByteMemory.slice_store_eq
  rw [← held, ByteMemory.length_slice]

end MoveBack

/-- A safe decompression makes a safe call and copies at most the local buffer back. -/
structure MessageSafe (sdk : InnerSdk) (outDataSize : Nat) (plaintext : ByteMemory) (plaintextSize : Nat) : Prop where
  call : LengthSafe innerBuf oscoreInnerMaxSize (narrowedSize plaintextSize)
    (mgtExtOscoreInnerDecompression sdk innerBuf oscoreInnerMaxSize outDataSize plaintext (narrowedSize plaintextSize))
  copyBack : ∀ length, (oscoreMsgInnerDecompression sdk outDataSize plaintext plaintextSize).copied = some length →
    length ≤ oscoreInnerMaxSize

/-- A safe call makes the copy back safe. -/
theorem messageSafe_of_call {sdk : InnerSdk} {outDataSize : Nat} {plaintext : ByteMemory} {plaintextSize : Nat}
    (call : LengthSafe innerBuf oscoreInnerMaxSize (narrowedSize plaintextSize)
      (mgtExtOscoreInnerDecompression sdk innerBuf oscoreInnerMaxSize outDataSize plaintext
        (narrowedSize plaintextSize))) :
    MessageSafe sdk outDataSize plaintext plaintextSize := by
  refine ⟨call, ?_⟩
  intro length copied
  obtain ⟨success, reported⟩ := moveBack_copied _ _ _ _ copied
  rw [reported]
  exact call.reported success

/-- A decompression is length safe exactly when the SDK accepts the input, or the input has a first byte and the
fallback rejects it or has room for the bytes behind that byte. -/
theorem innerDecompression_safe_iff (sdk : InnerSdk) (inside : sdk.StaysInside) :
    (∀ outBuf outBufSize outDataSize inData inDataSize, inDataSize < 2 ^ 16 →
      (LengthSafe outBuf outBufSize inDataSize
          (mgtExtOscoreInnerDecompression sdk outBuf outBufSize outDataSize inData inDataSize) ↔
        FallbackFits outBufSize inData inDataSize
          (decompressionReply sdk outBuf outBufSize outDataSize inData inDataSize))) ∧
      ∀ outDataSize plaintext plaintextSize,
        MessageSafe sdk outDataSize plaintext plaintextSize ↔
          FallbackFits oscoreInnerMaxSize plaintext (narrowedSize plaintextSize)
            (decompressionReply sdk innerBuf oscoreInnerMaxSize outDataSize plaintext
              (narrowedSize plaintextSize)) := by
  refine ⟨fun _ _ _ _ _ fits => lengthSafe_iff inside fits, ?_⟩
  intro outDataSize plaintext plaintextSize
  have safe := @lengthSafe_iff sdk innerBuf oscoreInnerMaxSize outDataSize plaintext _ inside
    (narrowedSize_lt plaintextSize)
  exact ⟨fun message => safe.mp message.call, fun condition => messageSafe_of_call (safe.mpr condition)⟩

/-- An SDK that writes nothing stays inside every buffer. -/
theorem missingRulesSdk_stays : missingRulesSdk.StaysInside :=
  ⟨fun _ _ _ _ _ _ _ => rfl, fun _ _ _ _ _ success => by cases success⟩

/-- A plaintext of 129 bytes fills the local buffer. -/
theorem fullMessage_safe : MessageSafe missingRulesSdk 0 (fun _ => 0x1c) 129 :=
  ((innerDecompression_safe_iff missingRulesSdk missingRulesSdk_stays).2 0 (fun _ => 0x1c) 129).mpr
    (.inr ⟨by decide, .inl (by decide)⟩)

/-- An empty input makes the copy length wrap, and an input of 130 bytes overflows the local buffer. -/
theorem innerDecompression_unsafe :
    let empty := mgtExtOscoreInnerDecompression missingRulesSdk innerBuf 128 0 (fun _ => 0x1c) 0
    let long := mgtExtOscoreInnerDecompression missingRulesSdk innerBuf 128 0 (fun _ => 0x1c) 130
    (empty.status = .mgtSuccess ∧ empty.copied = some (2 ^ 64 - 1) ∧ empty.outDataSize = 2 ^ 16 - 1) ∧
      (long.status = .mgtSuccess ∧ long.copied = some 129) ∧
      (¬LengthSafe innerBuf 128 0 empty ∧ ¬LengthSafe innerBuf 128 130 long) ∧
      ¬MessageSafe missingRulesSdk 0 (fun _ => 0x1c) 0 ∧ ¬MessageSafe missingRulesSdk 0 (fun _ => 0x1c) 130 := by
  refine ⟨⟨rfl, rfl, rfl⟩, ⟨rfl, rfl⟩, ⟨?_, ?_⟩, ?_, ?_⟩
  · intro safe
    exact absurd (safe.reported rfl) (by decide)
  · intro safe
    exact absurd (safe.reported rfl) (by decide)
  · intro safe
    exact absurd (safe.copyBack (2 ^ 16 - 1) rfl) (by decide)
  · intro safe
    exact absurd (safe.copyBack 129 rfl) (by decide)

/-- A compression that fails leaves the plaintext alone, and one that succeeds is undone by the decompression. -/
def MessageRoundTrips (sdk : InnerCodecSdk) (outDataSize : Nat) (plaintext : ByteMemory) (plaintextSize : Nat) : Prop :=
  let compressed := oscoreMsgInnerCompression sdk plaintext plaintextSize
  let restored := oscoreMsgInnerDecompression sdk.toInnerSdk outDataSize compressed.plaintext compressed.plaintextSize
  compressed.accepted = false ∧ compressed.plaintext = plaintext ∧ compressed.plaintextSize = plaintextSize ∨
    compressed.accepted = true ∧ restored.accepted = true ∧ restored.plaintextSize = plaintextSize ∧
      restored.plaintext.slice 0 plaintextSize = plaintext.slice 0 plaintextSize

/-- A compression that succeeds puts the default identifier in front of the plaintext. -/
structure MessageAccepted (sdk : InnerCodecSdk) (plaintext : ByteMemory) (plaintextSize : Nat) : Prop where
  accepted : (oscoreMsgInnerCompression sdk plaintext plaintextSize).accepted = true
  size : (oscoreMsgInnerCompression sdk plaintext plaintextSize).plaintextSize = plaintextSize + 1
  bytes : (oscoreMsgInnerCompression sdk plaintext plaintextSize).plaintext.slice 0 (plaintextSize + 1) =
    noCompRuleId :: plaintext.slice 0 plaintextSize

section RoundTrip

variable {sdk : InnerCodecSdk} (plaintext : ByteMemory) {plaintextSize : Nat}

/-- A plaintext that fits behind the identifier becomes the identifier and the plaintext. -/
theorem innerCompression_fits (emits : sdk.EmitsDefaultRule) (fits : plaintextSize + 1 ≤ oscoreInnerMaxSize) :
    MessageAccepted sdk plaintext plaintextSize := by
  have small : plaintextSize < 2 ^ 16 := by
    rw [oscoreInnerMaxSize] at fits
    omega
  have emitted := emits getInnerRules innerBuf oscoreInnerMaxSize 0 (plaintext.slice 0 plaintextSize) ⟨extCompress⟩ rfl
  simp only [ByteMemory.length_slice, fits, if_true, getInnerRules_default] at emitted
  obtain ⟨success, size, held⟩ := emitted
  have moved := moveBack_slice _ _ plaintext plaintextSize _ held
  let reply := sdk.schcOscoreInnerCompress getInnerRules innerBuf oscoreInnerMaxSize 0
    (plaintext.slice 0 plaintextSize) ⟨extCompress⟩
  have compressed : oscoreMsgInnerCompression sdk plaintext plaintextSize =
      moveBack .mgtSuccess reply.outBuf reply.outDataSize plaintext plaintextSize := by
    simp only [oscoreMsgInnerCompression, mgtExtOscoreInnerCompression, narrowedSize_eq small, success, ne_eq,
      not_true_eq_false, if_false, reply]
  have sameSize : reply.outDataSize = plaintextSize + 1 := size
  rw [sameSize] at compressed
  constructor
  · rw [compressed]
    rfl
  · rw [compressed]
    rfl
  · rw [compressed]
    exact moved

/-- A plaintext without room behind the identifier is refused and stays as it is. -/
theorem innerCompression_refuses (emits : sdk.EmitsDefaultRule) (small : plaintextSize < 2 ^ 16)
    (large : ¬plaintextSize + 1 ≤ oscoreInnerMaxSize) :
    oscoreMsgInnerCompression sdk plaintext plaintextSize = ⟨false, plaintext, plaintextSize, none⟩ := by
  have refused := emits getInnerRules innerBuf oscoreInnerMaxSize 0 (plaintext.slice 0 plaintextSize) ⟨extCompress⟩ rfl
  simp only [ByteMemory.length_slice, large, if_false] at refused
  simp only [oscoreMsgInnerCompression, mgtExtOscoreInnerCompression, narrowedSize_eq small, refused, ne_eq,
    not_false_eq_true, if_true]
  exact moveBack_error _ _ _ _

/-- The decompression removes the first byte of every message that reaches the fallback. -/
theorem innerDecompression_strips {sdk : InnerSdk} (missing : sdk.ReportsMissingRules) (outDataSize : Nat)
    (nonempty : 1 ≤ plaintextSize) (small : plaintextSize < 2 ^ 16) :
    (oscoreMsgInnerDecompression sdk outDataSize plaintext plaintextSize).accepted = true ∧
      (oscoreMsgInnerDecompression sdk outDataSize plaintext plaintextSize).plaintextSize = plaintextSize - 1 ∧
      (oscoreMsgInnerDecompression sdk outDataSize plaintext plaintextSize).plaintext.slice 0 (plaintextSize - 1) =
        plaintext.slice 1 (plaintextSize - 1) := by
  obtain ⟨success, size, held⟩ := @innerDecompression_missingRules sdk innerBuf oscoreInnerMaxSize outDataSize
    plaintext plaintextSize missing nonempty small
  simp only [oscoreMsgInnerDecompression, narrowedSize_eq small, success]
  refine ⟨rfl, size, ?_⟩
  rw [← size] at held ⊢
  exact moveBack_slice _ _ plaintext plaintextSize _ held

/-- The decompression of a compressed plaintext returns the plaintext, and a plaintext with room for the identifier is
compressed. -/
theorem innerCodec_roundTrips (sdk : InnerCodecSdk) (emits : sdk.EmitsDefaultRule)
    (missing : sdk.toInnerSdk.ReportsMissingRules) (outDataSize : Nat) (plaintext : ByteMemory) (plaintextSize : Nat)
    (nonempty : 1 ≤ plaintextSize) (small : plaintextSize ≤ 65535) :
    MessageRoundTrips sdk outDataSize plaintext plaintextSize ∧
      (plaintextSize + 1 ≤ oscoreInnerMaxSize → MessageAccepted sdk plaintext plaintextSize) := by
  refine ⟨?_, innerCompression_fits plaintext emits⟩
  by_cases fits : plaintextSize + 1 ≤ oscoreInnerMaxSize
  · obtain ⟨accepted, size, held⟩ := innerCompression_fits plaintext emits fits
    have short : plaintextSize + 1 < 2 ^ 16 := by
      rw [oscoreInnerMaxSize] at fits
      omega
    obtain ⟨restored, back, stripped⟩ := innerDecompression_strips
      (oscoreMsgInnerCompression sdk plaintext plaintextSize).plaintext missing outDataSize
      (Nat.le_add_left 1 plaintextSize) short
    have tail : (oscoreMsgInnerCompression sdk plaintext plaintextSize).plaintext.slice 1 plaintextSize =
        plaintext.slice 0 plaintextSize := by
      have dropped := congrArg (List.drop 1) held
      rw [ByteMemory.drop_slice] at dropped
      exact dropped
    rw [MessageRoundTrips]
    right
    rw [size]
    exact ⟨accepted, restored, back, stripped.trans tail⟩
  · rw [MessageRoundTrips, innerCompression_refuses plaintext emits (by omega) fits]
    exact .inl ⟨rfl, rfl, rfl⟩

end RoundTrip

/-- This SDK puts the default identifier before the input and finds no rule for a decompression. -/
def defaultRuleSdk : InnerCodecSdk where
  toInnerSdk := missingRulesSdk
  schcOscoreInnerCompress rules outBuf outBufSize outDataSize inData _callbacks :=
    if inData.length + 1 ≤ outBufSize then
      ⟨.compSuccess, outBuf.store 0 (rules.defaultRuleId :: inData), inData.length + 1⟩
    else ⟨.other 1, outBuf, outDataSize⟩

theorem defaultRuleSdk_emits : defaultRuleSdk.EmitsDefaultRule := by
  intro rules outBuf outBufSize outDataSize inData callbacks _
  by_cases room : inData.length + 1 ≤ outBufSize
  · simp only [defaultRuleSdk, room, if_true, true_and]
    apply ByteMemory.slice_store_eq
    rfl
  · simp only [defaultRuleSdk, room, if_false, ne_eq]
    decide

theorem defaultRuleSdk_roundTrips :
    MessageRoundTrips defaultRuleSdk 0 (fun index => UInt8.ofNat index) 127 ∧
      (127 + 1 ≤ oscoreInnerMaxSize → MessageAccepted defaultRuleSdk (fun index => UInt8.ofNat index) 127) :=
  innerCodec_roundTrips defaultRuleSdk defaultRuleSdk_emits (fun _ _ _ _ _ _ => rfl) 0 _ 127 (by decide) (by decide)

end SchcWork.Worker
