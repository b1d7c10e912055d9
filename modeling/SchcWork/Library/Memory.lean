import Mathlib.Algebra.Ring.Nat
import Mathlib.Data.List.Basic
import Mathlib.Tactic.Common

/-- A byte memory maps each offset from one base pointer to a byte. -/
abbrev ByteMemory := Nat → UInt8

namespace ByteMemory

/-- A store replaces consecutive bytes and keeps every other byte. -/
def store (memory : ByteMemory) (offset : Nat) (bytes : List UInt8) : ByteMemory := fun index =>
  if offset ≤ index then (bytes[index - offset]?).getD (memory index) else memory index

/-- A slice lists consecutive bytes in address order. -/
def slice (memory : ByteMemory) (offset length : Nat) : List UInt8 :=
  (List.range length).map fun index => memory (offset + index)

theorem store_below (memory : ByteMemory) (offset : Nat) (bytes : List UInt8) {index : Nat}
    (below : index < offset) : memory.store offset bytes index = memory index := by
  simp [store, Nat.not_le.mpr below]

theorem store_above (memory : ByteMemory) (offset : Nat) (bytes : List UInt8) {index : Nat}
    (above : offset + bytes.length ≤ index) : memory.store offset bytes index = memory index := by
  have missing : bytes[index - offset]? = none := List.getElem?_eq_none (by omega)
  simp [store, missing]

theorem store_inside (memory : ByteMemory) (offset : Nat) (bytes : List UInt8) {index : Nat}
    (inside : index < bytes.length) : memory.store offset bytes (offset + index) = bytes[index] := by
  simp [store, List.getElem?_eq_getElem inside]

/-- Each byte outside the stored span keeps its value. -/
theorem store_outside (memory : ByteMemory) (offset : Nat) (bytes : List UInt8) {index : Nat}
    (outside : index < offset ∨ offset + bytes.length ≤ index) :
    memory.store offset bytes index = memory index := by
  rcases outside with below | above
  · exact store_below memory offset bytes below
  · exact store_above memory offset bytes above

/-- Two stores of the same bytes agree wherever the bytes around them agree. -/
theorem store_congr {first second : ByteMemory} (offset : Nat) (bytes : List UInt8) {index : Nat}
    (same : index < offset ∨ offset + bytes.length ≤ index → first index = second index) :
    first.store offset bytes index = second.store offset bytes index := by
  by_cases outside : index < offset ∨ offset + bytes.length ≤ index
  · rw [store_outside first offset bytes outside, store_outside second offset bytes outside, same outside]
  · obtain ⟨distance, rfl⟩ := Nat.exists_eq_add_of_le (show offset ≤ index by omega)
    rw [store_inside first offset bytes (by omega), store_inside second offset bytes (by omega)]

@[simp] theorem length_slice (memory : ByteMemory) (offset length : Nat) :
    (memory.slice offset length).length = length := by
  simp [slice]

@[simp] theorem getElem_slice (memory : ByteMemory) (offset length index : Nat)
    (inside : index < (memory.slice offset length).length) :
    (memory.slice offset length)[index] = memory (offset + index) := by
  simp [slice]

theorem getElem?_slice (memory : ByteMemory) (offset : Nat) {length index : Nat} (inside : index < length) :
    (memory.slice offset length)[index]? = some (memory (offset + index)) := by
  rw [List.getElem?_eq_getElem (by simpa using inside), getElem_slice]

/-- Equal bytes give equal slices, and equal slices give equal bytes. -/
theorem slice_eq_iff (first second : ByteMemory) (offset length : Nat) :
    first.slice offset length = second.slice offset length ↔
      ∀ index, offset ≤ index → index < offset + length → first index = second index := by
  constructor
  · intro same index lower upper
    have inside : index - offset < (first.slice offset length).length := by simp; omega
    have at_index := List.getElem_of_eq same inside
    rw [getElem_slice, getElem_slice, Nat.add_sub_cancel' lower] at at_index
    exact at_index
  · intro same
    apply List.ext_getElem
    · simp
    · intro index left right
      rw [getElem_slice, getElem_slice]
      rw [length_slice] at left
      exact same _ (by omega) (by omega)

theorem slice_append (memory : ByteMemory) (offset first second : Nat) :
    memory.slice offset (first + second) =
      memory.slice offset first ++ memory.slice (offset + first) second := by
  apply List.ext_getElem
  · simp
  · intro index left right
    rw [getElem_slice, List.getElem_append]
    split
    · rw [getElem_slice]
    · rename_i above
      rw [length_slice] at above
      rw [getElem_slice, length_slice]
      congr 1
      omega

theorem drop_slice (memory : ByteMemory) (offset length count : Nat) :
    (memory.slice offset length).drop count = memory.slice (offset + count) (length - count) := by
  apply List.ext_getElem
  · simp
  · intro index left right
    rw [List.getElem_drop, getElem_slice, getElem_slice, Nat.add_assoc]

theorem take_slice (memory : ByteMemory) (offset length count : Nat) :
    (memory.slice offset length).take count = memory.slice offset (min count length) := by
  apply List.ext_getElem
  · simp
  · intro index left right
    rw [List.getElem_take, getElem_slice, getElem_slice]

@[simp] theorem store_nil (memory : ByteMemory) (offset : Nat) : memory.store offset [] = memory := by
  funext index
  exact store_outside memory offset [] (by simp only [List.length_nil]; omega)

/-- Two adjacent stores are one store. -/
theorem store_append (memory : ByteMemory) (offset : Nat) (first second : List UInt8) :
    (memory.store offset first).store (offset + first.length) second = memory.store offset (first ++ second) := by
  funext index
  by_cases below : index < offset + first.length
  · rw [store_below _ _ _ below]
    by_cases before : index < offset
    · rw [store_below _ _ _ before, store_below _ _ _ before]
    · obtain ⟨distance, rfl⟩ := Nat.exists_eq_add_of_le (Nat.le_of_not_lt before)
      rw [store_inside memory offset first (by omega),
        store_inside memory offset (first ++ second) (by rw [List.length_append]; omega),
        List.getElem_append_left (by omega)]
  · obtain ⟨distance, rfl⟩ := Nat.exists_eq_add_of_le (Nat.le_of_not_lt below)
    by_cases inside : distance < second.length
    · have joined : offset + first.length + distance = offset + (first.length + distance) := Nat.add_assoc _ _ _
      rw [store_inside _ _ second inside, joined,
        store_inside memory offset (first ++ second) (by rw [List.length_append]; omega),
        List.getElem_append_right (by omega)]
      congr 1
      omega
    · rw [store_above _ _ _ (by omega), store_above _ _ _ (by omega),
        store_above _ _ _ (by rw [List.length_append]; omega)]

/-- A slice of exactly the stored span returns the stored bytes. -/
@[simp] theorem slice_store_self (memory : ByteMemory) (offset : Nat) (bytes : List UInt8) :
    (memory.store offset bytes).slice offset bytes.length = bytes := by
  apply List.ext_getElem
  · simp
  · intro index left right
    rw [getElem_slice, store_inside memory offset bytes right]

theorem slice_store_eq (memory : ByteMemory) (offset : Nat) {bytes : List UInt8} {length : Nat}
    (whole : bytes.length = length) : (memory.store offset bytes).slice offset length = bytes := by
  rw [← whole, slice_store_self]

/-- Storing bytes that the memory already holds changes nothing. -/
theorem store_slice (memory : ByteMemory) (offset : Nat) {bytes : List UInt8}
    (held : memory.slice offset bytes.length = bytes) : memory.store offset bytes = memory := by
  funext index
  by_cases inside : offset ≤ index ∧ index < offset + bytes.length
  · obtain ⟨distance, rfl⟩ := Nat.exists_eq_add_of_le inside.1
    have position : distance < bytes.length := by omega
    have byte := getElem_slice memory offset bytes.length distance (by simpa using position)
    rw [store_inside memory offset bytes position, ← byte]
    simp only [held]
  · exact store_outside memory offset bytes (by omega)

/-- A store keeps a slice at its own offset exactly when it writes a prefix of the slice there. -/
theorem slice_store_keeps_iff (memory : ByteMemory) (offset length : Nat) (bytes : List UInt8) :
    (memory.store offset bytes).slice offset length = memory.slice offset length ↔
      bytes.take length <+: memory.slice offset length := by
  rw [slice_eq_iff, List.prefix_iff_getElem?]
  constructor
  · intro kept index inside
    rw [List.length_take] at inside
    rw [getElem?_slice memory offset (by omega), List.getElem_take, ← kept (offset + index) (by omega) (by omega),
      store_inside memory offset bytes (by omega)]
  · intro written index lower upper
    obtain ⟨distance, rfl⟩ := Nat.exists_eq_add_of_le lower
    by_cases inside : distance < bytes.length
    · have same := written distance (by rw [List.length_take]; omega)
      rw [getElem?_slice memory offset (by omega), List.getElem_take] at same
      rw [store_inside memory offset bytes inside]
      exact (Option.some.inj same).symm
    · exact store_above memory offset bytes (by omega)

/-- A slice that misses the stored span is unchanged. -/
theorem slice_store_disjoint (memory : ByteMemory) (offset : Nat) (bytes : List UInt8) (start length : Nat)
    (disjoint : start + length ≤ offset ∨ offset + bytes.length ≤ start) :
    (memory.store offset bytes).slice start length = memory.slice start length := by
  rw [slice_eq_iff]
  intro index lower upper
  exact store_outside memory offset bytes (by omega)

/-- A program writes blocks of bytes one after the other. -/
def storeBlocks (memory : ByteMemory) (blocks : List (Nat × List UInt8)) : ByteMemory :=
  blocks.foldl (fun memory block => memory.store block.1 block.2) memory

/-- A slice that misses every block is unchanged. -/
theorem slice_storeBlocks_disjoint (memory : ByteMemory) {blocks : List (Nat × List UInt8)} {start length : Nat}
    (apart : ∀ block ∈ blocks, start + length ≤ block.1 ∨ block.1 + block.2.length ≤ start) :
    (memory.storeBlocks blocks).slice start length = memory.slice start length := by
  unfold storeBlocks
  induction blocks generalizing memory with
  | nil => rfl
  | cons block rest ih =>
      rw [List.foldl_cons, ih _ fun other member => apart other (List.mem_cons_of_mem _ member),
        slice_store_disjoint _ _ _ _ _ (apart block List.mem_cons_self)]

/-- A block that no later block overlaps is found again. -/
theorem slice_storeBlocks (memory : ByteMemory) {blocks : List (Nat × List UInt8)}
    (earlier later : List (Nat × List UInt8)) {offset : Nat} {bytes : List UInt8}
    (split : blocks = earlier ++ (offset, bytes) :: later)
    (apart : ∀ block ∈ later, offset + bytes.length ≤ block.1 ∨ block.1 + block.2.length ≤ offset) :
    (memory.storeBlocks blocks).slice offset bytes.length = bytes := by
  have last : memory.storeBlocks blocks =
      (((memory.storeBlocks earlier).store offset bytes).storeBlocks later) := by
    rw [split, storeBlocks, List.foldl_append, List.foldl_cons]
    rfl
  rw [last, slice_storeBlocks_disjoint _ apart, slice_store_self]

/-- A program writes single bytes one after the other. -/
def storeAll (memory : ByteMemory) (writes : List (Nat × UInt8)) : ByteMemory :=
  writes.foldl (fun memory write => memory.store write.1 [write.2]) memory

theorem store_byte (memory : ByteMemory) (offset : Nat) (byte : UInt8) (index : Nat) :
    memory.store offset [byte] index = if index = offset then byte else memory index := by
  by_cases same : index = offset
  · subst same
    rw [if_pos rfl]
    exact store_inside memory index [byte] (Nat.zero_lt_one)
  · rw [if_neg same]
    exact store_outside memory offset [byte] (by simp only [List.length_singleton]; omega)

/-- An address that no write names keeps its byte. -/
theorem storeAll_untouched (memory : ByteMemory) {writes : List (Nat × UInt8)} {index : Nat}
    (untouched : ∀ write ∈ writes, write.1 ≠ index) : memory.storeAll writes index = memory index := by
  unfold storeAll
  induction writes generalizing memory with
  | nil => rfl
  | cons write writes ih =>
      rw [List.foldl_cons, ih _ fun other member => untouched other (List.mem_cons_of_mem _ member), store_byte,
        if_neg (untouched write List.mem_cons_self).symm]

/-- An address holds the byte that all its writes agree on. -/
theorem storeAll_written (memory : ByteMemory) {writes : List (Nat × UInt8)} {index : Nat} {byte : UInt8}
    (agree : ∀ write ∈ writes, write.1 = index → write.2 = byte) (written : ∃ write ∈ writes, write.1 = index) :
    memory.storeAll writes index = byte := by
  unfold storeAll
  induction writes generalizing memory with
  | nil =>
      obtain ⟨write, member, -⟩ := written
      cases member
  | cons write writes ih =>
      rw [List.foldl_cons]
      have later : ∀ other ∈ writes, other.1 = index → other.2 = byte :=
        fun other member => agree other (List.mem_cons_of_mem _ member)
      by_cases again : ∃ other ∈ writes, other.1 = index
      · exact ih _ later again
      · have last : ∀ other ∈ writes, other.1 ≠ index := fun other member same => again ⟨other, member, same⟩
        obtain ⟨found, member, same⟩ := written
        cases List.mem_cons.mp member with
        | inl head =>
            subst head
            have kept := storeAll_untouched (memory.store found.1 [found.2]) last
            rw [storeAll] at kept
            rw [kept, store_byte, if_pos same.symm]
            exact agree found member same
        | inr tail => exact absurd same (last found tail)

/-- This load reads a 16-bit word with the low byte first. -/
def load16 (memory : ByteMemory) (offset : Nat) : Nat :=
  (memory offset).toNat + 256 * (memory (offset + 1)).toNat

/-- This store writes a 16-bit word with the low byte first. -/
def store16 (memory : ByteMemory) (offset word : Nat) : ByteMemory :=
  memory.store offset [UInt8.ofNat word, UInt8.ofNat (word / 256)]

theorem store16_low (memory : ByteMemory) (offset word : Nat) :
    memory.store16 offset word offset = UInt8.ofNat word := by
  simp [store16, store]

theorem store16_high (memory : ByteMemory) (offset word : Nat) :
    memory.store16 offset word (offset + 1) = UInt8.ofNat (word / 256) := by
  simp [store16, store]

theorem store16_outside (memory : ByteMemory) (offset word : Nat) {index : Nat}
    (outside : index < offset ∨ offset + 2 ≤ index) : memory.store16 offset word index = memory index :=
  store_outside memory offset _ (by simpa using outside)

end ByteMemory

/-- A span names a range of offsets that a program step reads or writes. -/
structure ByteSpan where
  offset : Nat
  length : Nat
  deriving Repr, DecidableEq

namespace ByteSpan

/-- The span ends at or before the given size. -/
def Within (span : ByteSpan) (size : Nat) : Prop := span.offset + span.length ≤ size

instance (span : ByteSpan) (size : Nat) : Decidable (span.Within size) :=
  inferInstanceAs (Decidable (_ ≤ _))

/-- The bytes of a span in one memory. -/
def read (span : ByteSpan) (memory : ByteMemory) : List UInt8 := memory.slice span.offset span.length

end ByteSpan
