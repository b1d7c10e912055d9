import Mathlib.Data.Nat.ModEq
import Mathlib.Data.List.Basic
import Mathlib.Algebra.BigOperators.Group.List.Basic
import Mathlib.Tactic.Common

namespace OnesComplement

/-- End-around addition returns the carry to the low end. -/
def add (limit first second : Nat) : Nat :=
  if first + second ≤ limit then first + second else first + second - limit

/-- The sum adds each word with an end-around carry. -/
def sum (limit : Nat) (words : List Nat) : Nat := words.foldl (add limit) 0

/-- The residue is the only word that represents a total. Only the total zero has the word zero. -/
def residue (limit total : Nat) : Nat := if total = 0 then 0 else (total - 1) % limit + 1

/-- The complement is the nonzero word that brings a total to the largest word. -/
def complement (limit total : Nat) : Nat :=
  if residue limit total = limit then limit else limit - residue limit total

@[simp] theorem residue_zero (limit : Nat) : residue limit 0 = 0 := rfl

theorem residue_of_le {limit total : Nat} (fits : total ≤ limit) : residue limit total = total := by
  unfold residue
  split
  · rename_i zero
    exact zero.symm
  · rw [Nat.mod_eq_of_lt (by omega)]
    omega

theorem residue_le {limit : Nat} (positive : 0 < limit) (total : Nat) : residue limit total ≤ limit := by
  unfold residue
  split
  · exact Nat.zero_le _
  · exact Nat.mod_lt _ positive

theorem residue_pos {limit total : Nat} (nonzero : 0 < total) : 0 < residue limit total := by
  rw [residue, if_neg (Nat.ne_of_gt nonzero)]
  exact Nat.succ_pos _

theorem residue_modEq (limit total : Nat) : residue limit total ≡ total [MOD limit] := by
  unfold residue
  split
  · rename_i zero
    rw [zero]
  · have shifted : (total - 1) % limit + 1 ≡ (total - 1) + 1 [MOD limit] :=
      (Nat.mod_modEq _ _).add_right 1
    rwa [Nat.sub_add_cancel (by omega)] at shifted

/-- Positive totals have one residue exactly when they are congruent. -/
theorem residue_eq_iff {limit first second : Nat} (firstPos : 0 < first) (secondPos : 0 < second) :
    residue limit first = residue limit second ↔ first ≡ second [MOD limit] := by
  constructor
  · intro same
    exact (residue_modEq limit first).symm.trans (same ▸ residue_modEq limit second)
  · intro congruent
    rw [residue, residue, if_neg (Nat.ne_of_gt firstPos), if_neg (Nat.ne_of_gt secondPos)]
    have shifted : first - 1 ≡ second - 1 [MOD limit] := by
      apply Nat.ModEq.add_right_cancel' 1
      rwa [Nat.sub_add_cancel firstPos, Nat.sub_add_cancel secondPos]
    exact congrArg (· + 1) shifted

/-- The largest word represents exactly the positive multiples of the modulus. -/
theorem residue_eq_limit_iff {limit total : Nat} (positive : 0 < limit) (nonzero : 0 < total) :
    residue limit total = limit ↔ limit ∣ total := by
  have whole : residue limit total = residue limit limit ↔ total ≡ limit [MOD limit] :=
    residue_eq_iff nonzero positive
  rw [residue_of_le (Nat.le_refl limit)] at whole
  rw [whole, Nat.dvd_iff_mod_eq_zero, Nat.ModEq, Nat.mod_self]

/-- A carry step keeps the residue when it keeps the class and does not reach zero. -/
theorem residue_add_residue (limit first second : Nat) :
    residue limit (residue limit first + second) = residue limit (first + second) := by
  rcases Nat.eq_zero_or_pos first with zero | positive
  · simp [zero]
  · have represented : 0 < residue limit first := residue_pos positive
    rw [residue_eq_iff (by omega) (by omega)]
    exact (residue_modEq limit first).add_right second

theorem add_eq_residue {limit first second : Nat} (firstFits : first ≤ limit) (secondFits : second ≤ limit) :
    add limit first second = residue limit (first + second) := by
  unfold add
  split
  · rename_i fits
    exact (residue_of_le fits).symm
  · rename_i overflow
    have congruent : residue limit (first + second) = residue limit (first + second - limit) := by
      rw [residue_eq_iff (by omega) (by omega)]
      exact ((Nat.modEq_iff_dvd' (Nat.sub_le _ _)).mpr ⟨1, by omega⟩).symm
    rw [congruent, residue_of_le (by omega)]

private theorem foldl_add_eq_residue {limit : Nat} (positive : 0 < limit) (words : List Nat)
    (bounded : ∀ word ∈ words, word ≤ limit) (initial : Nat) :
    words.foldl (add limit) (residue limit initial) = residue limit (initial + words.sum) := by
  induction words generalizing initial with
  | nil => simp
  | cons word rest ih =>
      have step : add limit (residue limit initial) word = residue limit (initial + word) := by
        rw [add_eq_residue (residue_le positive initial) (bounded word (by simp)), residue_add_residue]
      rw [List.foldl_cons, step, ih (fun other member => bounded other (List.mem_cons_of_mem _ member)),
        List.sum_cons, Nat.add_assoc]

/-- The end-around sum of words is the residue of their plain sum. -/
theorem sum_eq_residue {limit : Nat} (positive : 0 < limit) (words : List Nat)
    (bounded : ∀ word ∈ words, word ≤ limit) : sum limit words = residue limit words.sum := by
  have folded := foldl_add_eq_residue positive words bounded 0
  rwa [residue_zero, Nat.zero_add] at folded

theorem complement_pos {limit : Nat} (positive : 0 < limit) (total : Nat) : 0 < complement limit total := by
  have bound := residue_le positive total
  unfold complement
  split <;> omega

theorem complement_le {limit : Nat} (positive : 0 < limit) (total : Nat) : complement limit total ≤ limit := by
  unfold complement
  split <;> omega

/-- A total and its complement together represent the largest word. -/
theorem residue_add_complement {limit : Nat} (positive : 0 < limit) (total : Nat) :
    residue limit (total + complement limit total) = limit := by
  have bound := residue_le positive total
  rw [residue_eq_limit_iff positive (by have := complement_pos positive total; omega), ← Nat.modEq_zero_iff_dvd]
  have class_of_total := (residue_modEq limit total).symm.add_right (complement limit total)
  apply class_of_total.trans
  rw [Nat.modEq_zero_iff_dvd]
  unfold complement
  split
  · rename_i whole
    rw [whole]
    exact ⟨2, by omega⟩
  · exact ⟨1, by omega⟩

/-- The plain difference also brings a positive total to the largest word. -/
theorem residue_add_difference {limit : Nat} (positive : 0 < limit) (total : Nat) :
    residue limit (total + (limit - residue limit total)) = limit := by
  by_cases whole : residue limit total = limit
  · rw [whole, Nat.sub_self, Nat.add_zero, whole]
  · have completed := residue_add_complement positive total
    rwa [complement, if_neg whole] at completed

/-- Only one nonzero word brings a total to the largest word. -/
theorem complement_unique {limit total word : Nat} (nonzero : 0 < word) (fits : word ≤ limit)
    (verifies : residue limit (total + word) = limit) : word = complement limit total := by
  have positive : 0 < limit := Nat.lt_of_lt_of_le nonzero fits
  have wordPos : 0 < total + word := by omega
  have complementPos := complement_pos positive total
  have same : total + word ≡ total + complement limit total [MOD limit] := by
    rw [← residue_eq_iff wordPos (by omega), verifies, residue_add_complement positive]
  have words := (residue_eq_iff nonzero complementPos).mpr (Nat.ModEq.add_left_cancel' total same)
  rwa [residue_of_le fits, residue_of_le (complement_le positive total)] at words

/-- The byte list splits into big-endian words, and an odd last byte gets a zero low byte. -/
def bigEndianWords : List UInt8 → List Nat
  | [] => []
  | [last] => [256 * last.toNat]
  | high :: low :: rest => (256 * high.toNat + low.toNat) :: bigEndianWords rest

theorem bigEndianWords_bounded (bytes : List UInt8) : ∀ word ∈ bigEndianWords bytes, word ≤ 65535 := by
  induction bytes using bigEndianWords.induct with
  | case1 => simp [bigEndianWords]
  | case2 last =>
      have bound := last.toNat_lt
      simp [bigEndianWords]
      omega
  | case3 high low rest ih =>
      intro word member
      rw [bigEndianWords, List.mem_cons] at member
      rcases member with rfl | member
      · have highBound := high.toNat_lt
        have lowBound := low.toNat_lt
        omega
      · exact ih word member

theorem bigEndianWords_sum_le (bytes : List UInt8) : (bigEndianWords bytes).sum ≤ 32768 * (bytes.length + 1) := by
  induction bytes using bigEndianWords.induct with
  | case1 => exact Nat.zero_le _
  | case2 last =>
      have bound := last.toNat_lt
      simp only [bigEndianWords, List.sum_cons, List.sum_nil, List.length_cons, List.length_nil]
      omega
  | case3 high low rest ih =>
      have highBound := high.toNat_lt
      have lowBound := low.toNat_lt
      simp only [bigEndianWords, List.sum_cons, List.length_cons]
      omega

/-- An even prefix keeps the word boundaries. -/
theorem bigEndianWords_append (first second : List UInt8) (even : first.length % 2 = 0) :
    bigEndianWords (first ++ second) = bigEndianWords first ++ bigEndianWords second := by
  induction first using bigEndianWords.induct with
  | case1 => rfl
  | case2 last => simp at even
  | case3 high low rest ih =>
      have restEven : rest.length % 2 = 0 := by
        simp only [List.length_cons] at even
        omega
      simp only [List.cons_append, bigEndianWords, ih restEven]

/-- The byte list splits into little-endian words, and an odd last byte gets a zero high byte. -/
def littleEndianWords : List UInt8 → List Nat
  | [] => []
  | [last] => [last.toNat]
  | low :: high :: rest => (low.toNat + 256 * high.toNat) :: littleEndianWords rest

/-- The two byte orders give sums that differ by one byte shift modulo the largest word. -/
theorem littleEndianWords_sum_modEq (bytes : List UInt8) :
    (littleEndianWords bytes).sum ≡ 256 * (bigEndianWords bytes).sum [MOD 65535] := by
  induction bytes using bigEndianWords.induct with
  | case1 => rfl
  | case2 last =>
      simp only [littleEndianWords, bigEndianWords, List.sum_cons, List.sum_nil, Nat.ModEq]
      omega
  | case3 low high rest ih =>
      rw [littleEndianWords, bigEndianWords, List.sum_cons, List.sum_cons, Nat.mul_add]
      apply Nat.ModEq.add _ ih
      unfold Nat.ModEq
      omega

/-- Both byte orders agree on which byte lists add up to zero. -/
theorem littleEndianWords_sum_pos {bytes : List UInt8} (positive : 0 < (bigEndianWords bytes).sum) :
    0 < (littleEndianWords bytes).sum := by
  induction bytes using bigEndianWords.induct with
  | case1 => exact positive
  | case2 last =>
      simp only [littleEndianWords, bigEndianWords, List.sum_cons, List.sum_nil] at positive ⊢
      omega
  | case3 low high rest ih =>
      simp only [littleEndianWords, bigEndianWords, List.sum_cons] at positive ⊢
      rcases Nat.eq_zero_or_pos (bigEndianWords rest).sum with zero | more
      · omega
      · have tail := ih more
        omega

end OnesComplement
