import Mathlib.Data.List.Induction
import Mathlib.Data.List.Perm.Basic
import Mathlib.Tactic.Common

namespace SwapRemove

variable {α : Type}

/-- The last element replaces the removed one, and the array loses its last place. -/
def swapRemove (list : List α) (index : Nat) : List α :=
  match list.getLast? with
  | none => []
  | some last => (list.set index last).dropLast

theorem swapRemove_concat (front : List α) (last : α) (index : Nat) :
    swapRemove (front ++ [last]) index = front.set index last := by
  rw [swapRemove, List.getLast?_concat]
  show ((front ++ [last]).set index last).dropLast = front.set index last
  by_cases inside : index < front.length
  · rw [List.set_append_left _ _ inside, List.dropLast_concat]
  · have beyond : front.length ≤ index := Nat.le_of_not_lt inside
    rw [List.set_eq_of_length_le beyond, List.set_append_right _ _ beyond]
    cases index - front.length with
    | zero => exact List.dropLast_concat
    | succ distance => exact List.dropLast_concat

theorem length_swapRemove (list : List α) (index : Nat) : (swapRemove list index).length = list.length - 1 := by
  induction list using List.reverseRecOn with
  | nil => rfl
  | append_singleton front last _ =>
      rw [swapRemove_concat, List.length_set, List.length_append]
      rfl

/-- Every place but the hole keeps its element. -/
theorem getElem?_swapRemove (list : List α) {index place : Nat} (inside : place + 1 < list.length) :
    (swapRemove list index)[place]? = if place = index then list.getLast? else list[place]? := by
  induction list using List.reverseRecOn with
  | nil => simp at inside
  | append_singleton front last _ =>
      rw [List.length_append, List.length_singleton] at inside
      rw [swapRemove_concat, List.getLast?_concat, List.getElem?_append_left (by omega)]
      by_cases hole : place = index
      · subst hole
        rw [if_pos rfl, List.getElem?_set_self (by omega)]
      · rw [if_neg hole, List.getElem?_set_ne (Ne.symm hole)]

/-- The array holds the other elements in some order. -/
theorem swapRemove_perm (list : List α) {index : Nat} (inside : index < list.length) :
    (swapRemove list index).Perm (list.eraseIdx index) := by
  induction list using List.reverseRecOn with
  | nil => simp at inside
  | append_singleton front last _ =>
      rw [List.length_append, List.length_singleton] at inside
      rw [swapRemove_concat]
      by_cases hole : index < front.length
      · rw [List.eraseIdx_append_of_lt_length hole]
        exact (List.set_perm_cons_eraseIdx hole last).trans (List.perm_append_singleton last _).symm
      · have whole : index = front.length := by omega
        rw [whole, List.set_eq_of_length_le (Nat.le_refl _), List.eraseIdx_append_of_length_le (Nat.le_refl _)]
        simp

/-- Removal takes out exactly the element of its place. -/
theorem perm_cons_swapRemove (list : List α) {index : Nat} (inside : index < list.length) :
    (list[index] :: swapRemove list index).Perm list :=
  ((swapRemove_perm list inside).cons _).trans (List.getElem_cons_eraseIdx_perm inside)

end SwapRemove
