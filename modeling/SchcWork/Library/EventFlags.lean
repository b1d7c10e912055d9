import Mathlib.Tactic.Common

/-- An event word stores one flag in each bit. -/
abbrev EventWord := BitVec 32

namespace EventWord

/-- The empty word has no flag. -/
def none : EventWord := 0#32

/-- A flag is one bit of the word. -/
def bit (index : Nat) : EventWord := BitVec.twoPow 32 index

/-- This operation sets one flag. -/
def raise (word : EventWord) (index : Nat) : EventWord := word ||| bit index

/-- This operation clears one flag. -/
def lower (word : EventWord) (index : Nat) : EventWord := word &&& ~~~bit index

/-- This test reads one flag. -/
def has (word : EventWord) (index : Nat) : Bool := (word &&& bit index) != 0#32

theorem has_eq_getLsbD (word : EventWord) {index : Nat} (inside : index < 32) :
    word.has index = word.getLsbD index := by
  rw [has, bit, BitVec.and_twoPow]
  cases word.getLsbD index with
  | false => simp
  | true =>
      have nonzero : BitVec.twoPow 32 index ≠ 0#32 := by
        intro zero
        have same := congrArg (fun value => value.getLsbD index) zero
        simp [inside] at same
      simpa using nonzero

@[simp] theorem has_none (index : Nat) : EventWord.none.has index = false := by
  simp [has, none]

theorem has_raise (word : EventWord) {raised tested : Nat} (raisedInside : raised < 32) (testedInside : tested < 32) :
    (word.raise raised).has tested = (word.has tested || decide (raised = tested)) := by
  rw [has_eq_getLsbD _ testedInside, has_eq_getLsbD _ testedInside, raise, bit, BitVec.getLsbD_or,
    BitVec.getLsbD_twoPow]
  simp [raisedInside]

theorem has_lower (word : EventWord) {lowered tested : Nat} (loweredInside : lowered < 32)
    (testedInside : tested < 32) :
    (word.lower lowered).has tested = (word.has tested && !decide (lowered = tested)) := by
  rw [has_eq_getLsbD _ testedInside, has_eq_getLsbD _ testedInside, lower, bit, BitVec.getLsbD_and,
    BitVec.getLsbD_not, BitVec.getLsbD_twoPow]
  simp [loweredInside, testedInside]

end EventWord
