import Mathlib.Data.Finmap

/-- The map has at most `capacity` keys. -/
structure BoundedMap (Key Value : Type) (capacity : Nat) where
  map : Finmap fun _ : Key => Value
  bounded : map.keys.card ≤ capacity

namespace BoundedMap

variable {Key Value : Type} [DecidableEq Key] {capacity : Nat}

def empty : BoundedMap Key Value capacity := ⟨∅, by rw [Finmap.keys_empty, Finset.card_empty]; exact Nat.zero_le _⟩

theorem keys_insert (map : Finmap fun _ : Key => Value) (key : Key) (value : Value) :
    (map.insert key value).keys = Insert.insert key map.keys := by
  ext other
  rw [Finmap.mem_keys, Finmap.mem_insert, Finset.mem_insert, Finmap.mem_keys]

/-- A pair is added when its key is new and the map has room. -/
def add (store : BoundedMap Key Value capacity) (key : Key) (value : Value) : Bool × BoundedMap Key Value capacity :=
  if accepted : key ∉ store.map ∧ store.map.keys.card < capacity then
    (true, ⟨store.map.insert key value, by
      rw [keys_insert, Finset.card_insert_of_notMem (by rw [Finmap.mem_keys]; exact accepted.1)]
      exact accepted.2⟩)
  else (false, store)

def remove (store : BoundedMap Key Value capacity) (key : Key) : Bool × BoundedMap Key Value capacity :=
  if key ∈ store.map then
    (true, ⟨store.map.erase key, by
      rw [Finmap.keys_erase]
      exact Nat.le_trans (Finset.card_le_card (Finset.erase_subset _ _)) store.bounded⟩)
  else (false, store)

section Operations

variable {store : BoundedMap Key Value capacity} {key : Key}

theorem add_result (value : Value) :
    (store.add key value).1 = true ↔ key ∉ store.map ∧ store.map.keys.card < capacity := by
  unfold add
  split
  · rename_i accepted
    exact iff_of_true rfl accepted
  · rename_i refused
    exact iff_of_false Bool.false_ne_true refused

theorem remove_result : (store.remove key).1 = true ↔ key ∈ store.map := by
  unfold remove
  split
  · rename_i present
    exact iff_of_true rfl present
  · rename_i absent
    exact iff_of_false Bool.false_ne_true absent

theorem add_refused (value : Value) (refused : (store.add key value).1 = false) :
    store.add key value = (false, store) := by
  unfold add at refused ⊢
  split
  · rename_i accepted
    rw [dif_pos accepted] at refused
    cases refused
  · rfl

theorem remove_refused (refused : (store.remove key).1 = false) : store.remove key = (false, store) := by
  unfold remove at refused ⊢
  split
  · rename_i present
    rw [if_pos present] at refused
    cases refused
  · rfl

/-- An accepted pair is found, and every other key keeps its value. -/
theorem lookup_add {value : Value} (accepted : (store.add key value).1 = true) (other : Key) :
    (store.add key value).2.map.lookup other = if other = key then some value else store.map.lookup other := by
  rw [add, dif_pos ((add_result value).mp accepted)]
  split
  · rename_i same
    rw [same]
    exact Finmap.lookup_insert _
  · rename_i differs
    exact Finmap.lookup_insert_of_ne _ differs

/-- A removed key has no value, and every other key keeps its value. -/
theorem lookup_remove (present : (store.remove key).1 = true) (other : Key) :
    (store.remove key).2.map.lookup other = if other = key then none else store.map.lookup other := by
  rw [remove, if_pos (remove_result.mp present)]
  split
  · rename_i same
    rw [same]
    exact Finmap.lookup_erase _ _
  · rename_i differs
    exact Finmap.lookup_erase_ne differs

end Operations

end BoundedMap
