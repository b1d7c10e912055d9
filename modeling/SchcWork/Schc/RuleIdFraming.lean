import Mathlib.Data.List.Nodup
import SchcWork.Library.BitString

namespace SchcWork.Schc

open BitString

/-- The bits before the last index are written, and the reader stands at the other index. -/
structure BitBuffer where
  buffer : List UInt8
  getBitIndex : Nat
  lastBitIndex : Nat
  inside : lastBitIndex ≤ 8 * buffer.length
  deriving Repr, DecidableEq

namespace BitBuffer

def bits (bitBuffer : BitBuffer) : Bits := (bytesBits bitBuffer.buffer).take bitBuffer.lastBitIndex

def unread (bitBuffer : BitBuffer) : Bits := bitBuffer.bits.drop bitBuffer.getBitIndex

@[simp] theorem length_bits (bitBuffer : BitBuffer) : bitBuffer.bits.length = bitBuffer.lastBitIndex := by
  have inside := bitBuffer.inside
  rw [bits, List.length_take, bytesBits_length]
  omega

/-- A window of the written bits is a window of the bytes. -/
theorem window_bytes (bitBuffer : BitBuffer) {index count : Nat} (written : index + count ≤ bitBuffer.lastBitIndex) :
    ((bytesBits bitBuffer.buffer).drop index).take count = (bitBuffer.bits.drop index).take count := by
  rw [bits, List.drop_take, List.take_take, Nat.min_eq_left (by omega)]

end BitBuffer

inductive RuleIdError where
  | compInternalErr
  | emptyDataBuffer
  | compRulesNotFoundErr
  deriving Repr, DecidableEq

/-- These are the bit primitives and the rule search of the SDK. -/
structure RuleIdSdk (Rule : Type) where
  ruleId (rule : Rule) : UInt16
  push16Bits (output : BitBuffer) (value : UInt16) (start count : Nat) : BitBuffer
  moveNBits (dst : List UInt8) (dstBit : Nat) (src : List UInt8) (srcBit count : Nat) : List UInt8
  findRuleFromId (rules : List Rule) (id : UInt16) : Option Rule

variable {Rule : Type}

/-- The push appends a window of the word, the move copies bits between two offsets, and the search returns a rule
with the identifier. -/
structure RuleIdSdk.Lawful (sdk : RuleIdSdk Rule) : Prop where
  push_appends : ∀ output value start count, start + count ≤ 16 →
    (sdk.push16Bits output value start count).bits =
      output.bits ++ ((wordBits value.toBitVec).drop start).take count
  move_copies : ∀ dst dstBit src srcBit count, dstBit + count ≤ 8 * dst.length → srcBit + count ≤ 8 * src.length →
    bytesBits (sdk.moveNBits dst dstBit src srcBit count) =
      (bytesBits dst).take dstBit ++ ((bytesBits src).drop srcBit).take count ++
        (bytesBits dst).drop (dstBit + count)
  find_sound : ∀ rules id rule, sdk.findRuleFromId rules id = some rule → rule ∈ rules ∧ sdk.ruleId rule = id
  find_complete : ∀ rules rule, rule ∈ rules → (sdk.findRuleFromId rules (sdk.ruleId rule)).isSome = true

/-- An undefined `RULE_ID_BITS` is `none`. The compression actions of the rule follow the identifier. -/
def compress (sdk : RuleIdSdk Rule) (ruleIdBits : Option Nat) (rule : Rule)
    (compActions : BitBuffer → Except RuleIdError BitBuffer) (output : BitBuffer) : Except RuleIdError BitBuffer :=
  match ruleIdBits with
  | none => compActions (sdk.push16Bits output (sdk.ruleId rule) 8 8)
  | some bits =>
      if bits > 16 then .error .compInternalErr
      else compActions (sdk.push16Bits output (sdk.ruleId rule) (16 - bits) bits)

/-- The first byte is the high byte on each host. -/
def ruleIdWord (ruleIdBytes : List UInt8) : UInt16 :=
  ((ruleIdBytes.getD 0 0).toUInt16 <<< 8) ||| (ruleIdBytes.getD 1 0).toUInt16

/-- The decompressor returns the rule and the buffer from which it restores the fields. -/
def schcDecompressInternal (sdk : RuleIdSdk Rule) (ruleIdBits : Option Nat) (rules : List Rule) (comp : BitBuffer) :
    Except RuleIdError (Rule × BitBuffer) :=
  let ruleBits := ruleIdBits.getD 8
  if ruleBits > 16 then .error .compInternalErr
  else if comp.lastBitIndex < ruleBits then .error .emptyDataBuffer
  else
    let ruleIdBytes := sdk.moveNBits [0, 0] (16 - ruleBits) comp.buffer comp.getBitIndex ruleBits
    match sdk.findRuleFromId rules (ruleIdWord ruleIdBytes) with
    | none => .error .compRulesNotFoundErr
    | some rule => .ok (rule, { comp with getBitIndex := comp.getBitIndex + ruleBits })

/-- Two bytes with the bits of a word give this word. -/
theorem ruleIdWord_of_bits {ruleIdBytes : List UInt8} {id : UInt16}
    (same : bytesBits ruleIdBytes = wordBits id.toBitVec) : ruleIdWord ruleIdBytes = id := by
  have size : 8 * ruleIdBytes.length = 16 := by rw [← bytesBits_length, same, wordBits_length]
  obtain ⟨high, low, rfl⟩ := List.length_eq_two.mp (show ruleIdBytes.length = 2 by omega)
  have joined : wordBits (high.toBitVec ++ low.toBitVec) = wordBits id.toBitVec := by
    rw [wordBits_append, ← same, bytesBits_cons, bytesBits_cons]
    exact congrArg (byteBits high ++ ·) (List.append_nil _).symm
  apply UInt16.toBitVec_inj.mp
  rw [← wordBits_injective joined]
  exact shiftLeft_or_eq_append high low

/-- A small word is zero bits and its last bits. -/
theorem wordBits_eq_replicate_append {width : Nat} (id : UInt16) (fits : id.toNat < 2 ^ width) :
    List.replicate (16 - width) false ++ (wordBits id.toBitVec).drop (16 - width) = wordBits id.toBitVec := by
  have zeros : (wordBits id.toBitVec).take (16 - width) = List.replicate (16 - width) false :=
    wordBits_take_eq_replicate id.toBitVec fits
  rw [← zeros, List.take_append_drop]

/-- The scratch bytes hold the identifier when the reader stands on its last bits. -/
theorem ruleIdWord_moved {sdk : RuleIdSdk Rule} (lawful : sdk.Lawful) {width : Nat} (narrow : width ≤ 16)
    {id : UInt16} (fits : id.toNat < 2 ^ width) {src : List UInt8} {srcBit : Nat}
    (inside : srcBit + width ≤ 8 * src.length)
    (window : ((bytesBits src).drop srcBit).take width = (wordBits id.toBitVec).drop (16 - width)) :
    ruleIdWord (sdk.moveNBits [0, 0] (16 - width) src srcBit width) = id := by
  apply ruleIdWord_of_bits
  have full : 16 - width + width = 16 := by omega
  have zeros : bytesBits [0, 0] = List.replicate 16 false := by decide
  rw [lawful.move_copies _ _ _ _ _ (by simp [full]) inside, window, full, zeros, List.take_replicate,
    Nat.min_eq_left (by omega), List.drop_replicate, Nat.sub_self, List.replicate_zero, List.append_nil]
  exact wordBits_eq_replicate_append id fits

/-- A rule whose identifier occurs once is the one that the search returns. -/
theorem RuleIdSdk.Lawful.find_eq {sdk : RuleIdSdk Rule} (lawful : sdk.Lawful) {rules : List Rule}
    (distinct : (rules.map sdk.ruleId).Nodup) {rule : Rule} (listed : rule ∈ rules) :
    sdk.findRuleFromId rules (sdk.ruleId rule) = some rule := by
  obtain ⟨found, search⟩ := Option.isSome_iff_exists.mp (lawful.find_complete rules rule listed)
  have ⟨member, sameId⟩ := lawful.find_sound rules _ found search
  rw [search, List.inj_on_of_nodup_map distinct member listed sameId]

/-- The identifier bits of a rule are the last bits of its word. -/
def ruleIdBitString (sdk : RuleIdSdk Rule) (width : Nat) (rule : Rule) : Bits :=
  (wordBits (sdk.ruleId rule).toBitVec).drop (16 - width)

theorem length_ruleIdBitString (sdk : RuleIdSdk Rule) {width : Nat} (narrow : width ≤ 16) (rule : Rule) :
    (ruleIdBitString sdk width rule).length = width := by
  rw [ruleIdBitString, List.length_drop, wordBits_length]
  omega

/-- The compressor appends the identifier bits and the residue. -/
theorem compress_bits {sdk : RuleIdSdk Rule} (lawful : sdk.Lawful) {width : Nat} (narrow : width ≤ 16) (rule : Rule)
    {residue : Bits} {compActions : BitBuffer → Except RuleIdError BitBuffer} {output : BitBuffer}
    (appends : ∃ compressed,
      compActions (sdk.push16Bits output (sdk.ruleId rule) (16 - width) width) = .ok compressed ∧
        compressed.bits = (sdk.push16Bits output (sdk.ruleId rule) (16 - width) width).bits ++ residue) :
    ∃ compressed, compress sdk (some width) rule compActions output = .ok compressed ∧
      compressed.bits = output.bits ++ ruleIdBitString sdk width rule ++ residue := by
  have pushed : (sdk.push16Bits output (sdk.ruleId rule) (16 - width) width).bits =
      output.bits ++ ruleIdBitString sdk width rule := by
    rw [lawful.push_appends _ _ _ _ (by omega)]
    exact congrArg (output.bits ++ ·) (List.take_of_length_le (Nat.le_of_eq (length_ruleIdBitString sdk narrow rule)))
  obtain ⟨compressed, applied, joined⟩ := appends
  use compressed
  constructor
  · rw [compress, if_neg (by omega), applied]
  · rw [joined, pushed]

/-- A reader on the identifier bits of a listed rule selects this rule and skips these bits. -/
theorem schcDecompressInternal_selects {sdk : RuleIdSdk Rule} (lawful : sdk.Lawful) {width : Nat}
    (narrow : width ≤ 16) {rules : List Rule} (distinct : (rules.map sdk.ruleId).Nodup) {rule : Rule}
    (fits : (sdk.ruleId rule).toNat < 2 ^ width) (listed : rule ∈ rules) {comp : BitBuffer} {before residue : Bits}
    (framed : comp.bits = before ++ ruleIdBitString sdk width rule ++ residue)
    (start : comp.getBitIndex = before.length) :
    ∃ read, schcDecompressInternal sdk (some width) rules comp = .ok (rule, read) ∧
      read.getBitIndex = before.length + width ∧ read.unread = residue := by
  have idLength := length_ruleIdBitString sdk narrow rule
  have size : comp.lastBitIndex = before.length + width + residue.length := by
    rw [← comp.length_bits, framed, List.length_append, List.length_append, idLength]
  have inside := comp.inside
  have window : ((bytesBits comp.buffer).drop comp.getBitIndex).take width = ruleIdBitString sdk width rule := by
    rw [comp.window_bytes (by omega), framed, start, List.append_assoc, List.drop_left, List.take_left' idLength]
  have word := ruleIdWord_moved lawful narrow fits (by omega) window
  use { comp with getBitIndex := comp.getBitIndex + width }
  constructor
  · simp only [schcDecompressInternal, Option.getD_some, word, lawful.find_eq distinct listed]
    rw [if_neg (by omega), if_neg (by omega)]
  constructor
  · rw [start]
  · change comp.bits.drop (comp.getBitIndex + width) = residue
    rw [framed, start, List.drop_left' (by rw [List.length_append, idLength])]

/-- The decompressor selects the rule of the compressor, and it leaves the reader at the first bit of the residue. -/
theorem ruleId_framed (sdk : RuleIdSdk Rule) (lawful : sdk.Lawful) (width : Nat) (narrow : width ≤ 16)
    (rules : List Rule) (distinct : (rules.map sdk.ruleId).Nodup)
    (fits : ∀ rule ∈ rules, (sdk.ruleId rule).toNat < 2 ^ width) (rule : Rule) (listed : rule ∈ rules)
    (residue : Bits) (output : BitBuffer) (compActions : BitBuffer → Except RuleIdError BitBuffer)
    (appends : ∃ compressed,
      compActions (sdk.push16Bits output (sdk.ruleId rule) (16 - width) width) = .ok compressed ∧
        compressed.bits = (sdk.push16Bits output (sdk.ruleId rule) (16 - width) width).bits ++ residue) :
    ∃ compressed, compress sdk (some width) rule compActions output = .ok compressed ∧
      ∀ comp : BitBuffer, comp.bits = compressed.bits → comp.getBitIndex = output.lastBitIndex →
        ∃ read, schcDecompressInternal sdk (some width) rules comp = .ok (rule, read) ∧
          read.getBitIndex = output.lastBitIndex + width ∧ read.unread = residue := by
  obtain ⟨compressed, applied, framed⟩ := compress_bits lawful narrow rule appends
  use compressed
  constructor
  · exact applied
  · intro comp same start
    rw [← output.length_bits] at start ⊢
    exact schcDecompressInternal_selects lawful narrow distinct (fits rule listed) listed (same.trans framed) start

/-- Zero bits fill the last byte. -/
def paddedBits (bits : Bits) : Bits := bits ++ List.replicate (7 - (bits.length + 7) % 8) false

theorem length_paddedBits (bits : Bits) : (paddedBits bits).length = 8 * ((bits.length + 7) / 8) := by
  rw [paddedBits, List.length_append, List.length_replicate]
  omega

/-- The buffer is the shortest one that holds the bits. -/
def BitBuffer.ofBits (getBitIndex : Nat) (bits : Bits) : BitBuffer where
  buffer := bitsBytes (paddedBits bits)
  getBitIndex := getBitIndex
  lastBitIndex := bits.length
  inside := by
    rw [← bytesBits_length, bytesBits_bitsBytes _ (length_paddedBits bits), length_paddedBits]
    omega

@[simp] theorem BitBuffer.ofBits_bits (getBitIndex : Nat) (bits : Bits) : (ofBits getBitIndex bits).bits = bits := by
  change (bytesBits (bitsBytes (paddedBits bits))).take bits.length = bits
  rw [bytesBits_bitsBytes _ (length_paddedBits bits), paddedBits, List.take_left]

/-- These primitives pack the bits without a gap, and the search takes the first match. -/
def packedSdk (ruleId : Rule → UInt16) : RuleIdSdk Rule where
  ruleId := ruleId
  push16Bits output value start count :=
    .ofBits output.getBitIndex (output.bits ++ ((wordBits value.toBitVec).drop start).take count)
  moveNBits dst dstBit src srcBit count :=
    bitsBytes ((bytesBits dst).take dstBit ++ ((bytesBits src).drop srcBit).take count ++
      (bytesBits dst).drop (dstBit + count))
  findRuleFromId rules id := rules.find? fun rule => ruleId rule == id

theorem packedSdk_lawful (ruleId : Rule → UInt16) : (packedSdk ruleId).Lawful where
  push_appends := by
    intro output value start count inside
    rw [packedSdk, BitBuffer.ofBits_bits]
  move_copies := by
    intro dst dstBit src srcBit count insideDst insideSrc
    have whole : ((bytesBits dst).take dstBit ++ ((bytesBits src).drop srcBit).take count ++
        (bytesBits dst).drop (dstBit + count)).length = 8 * dst.length := by
      simp only [List.length_append, List.length_take, List.length_drop, bytesBits_length]
      omega
    exact bytesBits_bitsBytes _ whole
  find_sound := by
    intro rules id rule found
    have sameId := List.find?_some found
    exact ⟨List.mem_of_find?_eq_some found, beq_iff_eq.mp sameId⟩
  find_complete := by
    intro rules rule listed
    exact List.find?_isSome.mpr ⟨rule, listed, beq_self_eq_true _⟩

/-- A rule of five bits is selected before a residue of three bits. -/
theorem fiveBits_framed :
    ∃ compressed, compress (packedSdk fun rule : UInt16 => rule) (some 5) 0x1b
        (fun written => .ok (.ofBits written.getBitIndex (written.bits ++ [true, false, true])))
        ⟨[], 0, 0, by decide⟩ = .ok compressed ∧
      ∀ comp : BitBuffer, comp.bits = compressed.bits → comp.getBitIndex = 0 →
        ∃ read, schcDecompressInternal (packedSdk fun rule : UInt16 => rule) (some 5) [0x03, 0x1b] comp =
          .ok (0x1b, read) ∧ read.getBitIndex = 5 ∧ read.unread = [true, false, true] := by
  have fits : ∀ rule ∈ ([0x03, 0x1b] : List UInt16), rule.toNat < 2 ^ 5 :=
    List.forall_mem_cons.mpr ⟨by decide, List.forall_mem_singleton.mpr (by decide)⟩
  exact ruleId_framed (packedSdk fun rule : UInt16 => rule) (packedSdk_lawful _) 5 (by decide) [0x03, 0x1b]
    (by decide) fits 0x1b (by decide) [true, false, true] ⟨[], 0, 0, by decide⟩ _
    ⟨_, rfl, BitBuffer.ofBits_bits _ _⟩

end SchcWork.Schc
