import Mathlib.Algebra.Ring.Nat
import Mathlib.Data.List.Basic
import Mathlib.Data.List.Infix
import Mathlib.Data.List.TakeWhile
import Mathlib.Tactic.Common

namespace TextInput

/-- These are the lines that repeated `fgets` calls return with a buffer of `size` bytes. -/
def lines (size : Nat) : List Char → List Char → List (List Char)
  | [], [] => []
  | line, [] => [line]
  | line, c :: rest =>
      if c = '\n' ∨ size ≤ line.length + 2 then (line ++ [c]) :: lines size [] rest
      else lines size (line ++ [c]) rest

/-- A newline and a zero byte end the text of a line. -/
def isText (c : Char) : Bool := c != '\n' && c != '\x00'

/-- The C string of a line stops before its newline or its first zero byte. -/
def chomp (line : List Char) : List Char := line.takeWhile isText

/-- These bytes separate `scanf` items. -/
def isSpace (c : Char) : Bool := c ∈ [' ', '\t', '\n', '\x0b', '\x0c', '\r']

/-- A literal of a format matches the same bytes. -/
def matchLiteral : List Char → List Char → Option (List Char)
  | [], input => some input
  | _ :: _, [] => none
  | expected :: literal, c :: input => if expected = c then matchLiteral literal input else none

/-- This is the `%s` conversion. -/
def scanString (input : List Char) : Option (List Char) :=
  let word := (input.dropWhile isSpace).takeWhile fun c => !isSpace c
  if word = [] then none else some word

/-- An optional sign stands before the digits. -/
def scanSign : List Char → Bool × List Char
  | '-' :: rest => (true, rest)
  | '+' :: rest => (false, rest)
  | input => (false, input)

/-- This is the `%u` conversion. It converts as `strtoul` does and stores the low 32 bits. -/
def scanUnsigned (input : List Char) : Option Nat :=
  let (negative, text) := scanSign (input.dropWhile isSpace)
  let digits := text.takeWhile Char.isDigit
  let magnitude := Nat.ofDigitChars 10 digits 0
  if digits = [] then none
  else if 2 ^ 64 ≤ magnitude then some ((2 ^ 64 - 1) % 2 ^ 32)
  else if negative then some ((2 ^ 64 - magnitude) % 2 ^ 32)
  else some (magnitude % 2 ^ 32)

/-- This is `atoi`. A number outside the range of an `int` has no defined result. -/
def atoi (input : List Char) : Int :=
  let (negative, text) := scanSign (input.dropWhile isSpace)
  let magnitude := Nat.ofDigitChars 10 (text.takeWhile Char.isDigit) 0
  if negative then -magnitude else magnitude

theorem lines_cons (size : Nat) (line : List Char) (c : Char) (rest : List Char) :
    lines size line (c :: rest) =
      if c = '\n' ∨ size ≤ line.length + 2 then (line ++ [c]) :: lines size [] rest
      else lines size (line ++ [c]) rest := by
  cases line <;> rfl

theorem lines_nil (size : Nat) {line : List Char} (nonempty : line ≠ []) : lines size line [] = [line] := by
  cases line with
  | nil => contradiction
  | cons head tail => rfl

theorem lines_newline (size : Nat) (line rest : List Char) :
    lines size line ('\n' :: rest) = (line ++ ['\n']) :: lines size [] rest := by
  rw [lines_cons, if_pos (Or.inl rfl)]

/-- Bytes that neither end the line nor fill the buffer extend the line. -/
theorem lines_extend (size : Nat) (line bytes rest : List Char) (noBreak : '\n' ∉ bytes)
    (room : line.length + bytes.length + 1 < size) :
    lines size line (bytes ++ rest) = lines size (line ++ bytes) rest := by
  induction bytes generalizing line with
  | nil => simp
  | cons c bytes ih =>
      simp only [List.mem_cons, not_or] at noBreak
      simp only [List.length_cons] at room
      rw [List.cons_append, lines_cons,
        if_neg (by rintro (same | full) <;> [exact noBreak.1 same.symm; omega]),
        ih (line ++ [c]) noBreak.2 (by simp; omega), List.append_assoc, List.singleton_append]

/-- A newline ends the line, so the input after it starts a new line. -/
theorem lines_append_newline (size : Nat) (line bytes rest : List Char) :
    lines size line (bytes ++ '\n' :: rest) = lines size line (bytes ++ ['\n']) ++ lines size [] rest := by
  induction bytes generalizing line with
  | nil => simp [lines_newline, lines]
  | cons c bytes ih =>
      rw [List.cons_append, List.cons_append, lines_cons, lines_cons, ih, ih]
      split <;> rfl

/-- The first line extends the bytes that the buffer already holds. -/
theorem lines_head (size : Nat) {line : List Char} (nonempty : line ≠ []) (text : List Char) :
    ∃ taken rest, text = taken ++ rest ∧ lines size line text = (line ++ taken) :: lines size [] rest := by
  induction text generalizing line with
  | nil => exact ⟨[], [], rfl, by simp [lines_nil size nonempty, lines]⟩
  | cons c text ih =>
      rw [lines_cons]
      split
      · exact ⟨[c], text, rfl, rfl⟩
      · have extended : line ++ [c] ≠ [] := by simp
        obtain ⟨taken, rest, split, first⟩ := ih extended
        exact ⟨c :: taken, rest, by rw [split, List.cons_append], by simp [first]⟩

/-- The lines hold only bytes of the input. -/
theorem mem_of_mem_lines (size : Nat) (line text : List Char) :
    ∀ piece ∈ lines size line text, ∀ c ∈ piece, c ∈ line ∨ c ∈ text := by
  induction text generalizing line with
  | nil =>
      cases line with
      | nil => simp [lines]
      | cons head tail => simp [lines]
  | cons c text ih =>
      intro piece member d inside
      rw [lines_cons] at member
      split at member
      · rcases List.mem_cons.mp member with rfl | later
        · rcases List.mem_append.mp inside with old | new
          · exact Or.inl old
          · exact Or.inr (by simp [List.mem_singleton.mp new])
        · rcases ih [] piece later d inside with impossible | found
          · simp at impossible
          · exact Or.inr (List.mem_cons_of_mem _ found)
      · rcases ih (line ++ [c]) piece member d inside with old | found
        · rcases List.mem_append.mp old with older | new
          · exact Or.inl older
          · exact Or.inr (by simp [List.mem_singleton.mp new])
        · exact Or.inr (List.mem_cons_of_mem _ found)

/-- The bytes before the first newline or zero byte stay in the C string. -/
theorem chomp_append {kept : List Char} (rest : List Char) (plain : ∀ c ∈ kept, isText c = true) :
    chomp (kept ++ rest) = kept ++ chomp rest := by
  apply List.takeWhile_append_of_pos
  exact plain

theorem chomp_newline (rest : List Char) : chomp ('\n' :: rest) = [] := rfl

theorem chomp_eq_self {text : List Char} (plain : ∀ c ∈ text, isText c = true) : chomp text = text := by
  have kept := chomp_append [] plain
  rw [List.append_nil, show chomp [] = [] from rfl, List.append_nil] at kept
  exact kept

@[simp] theorem matchLiteral_append (literal rest : List Char) :
    matchLiteral literal (literal ++ rest) = some rest := by
  induction literal with
  | nil => rfl
  | cons c literal ih => simp [matchLiteral, ih]

/-- An input without one byte of the literal does not match it. -/
theorem matchLiteral_eq_none {literal input : List Char} {c : Char} (needed : c ∈ literal) (absent : c ∉ input) :
    matchLiteral literal input = none := by
  induction literal generalizing input with
  | nil => simp at needed
  | cons expected literal ih =>
      cases input with
      | nil => rfl
      | cons first input =>
          rw [matchLiteral]
          split
          · rename_i same
            rcases List.mem_cons.mp needed with head | tail
            · exact absurd (by simp [head, same]) absent
            · exact ih tail (fun inside => absent (List.mem_cons_of_mem _ inside))
          · rfl

theorem scanString_isSome {first : Char} (rest : List Char) (solid : isSpace first = false) :
    (scanString (first :: rest)).isSome := by
  simp [scanString, solid]

theorem isDigit_not_space {c : Char} (digit : c.isDigit = true) : isSpace c = false := by
  rw [Bool.eq_false_iff]
  intro space
  simp only [isSpace, List.mem_cons, List.not_mem_nil, or_false, decide_eq_true_eq] at space
  rcases space with rfl | rfl | rfl | rfl | rfl | rfl <;> simp at digit

theorem isDigit_isText {c : Char} (digit : c.isDigit = true) : isText c = true := by
  simp only [isText, Bool.and_eq_true, bne_iff_ne]
  constructor
  · rintro rfl
    simp at digit
  · rintro rfl
    simp at digit

theorem scanSign_digit {first : Char} (rest : List Char) (digit : first.isDigit = true) :
    scanSign (first :: rest) = (false, first :: rest) := by
  unfold scanSign
  split
  · rename_i same
    obtain ⟨rfl, -⟩ := List.cons.inj same
    simp at digit
  · rename_i same
    obtain ⟨rfl, -⟩ := List.cons.inj same
    simp at digit
  · rfl

/-- The conversion reads back the low 32 bits of a printed 64-bit number. -/
theorem scanUnsigned_toDigits {number : Nat} (fits : number < 2 ^ 64) :
    scanUnsigned (Nat.toDigits 10 number) = some (number % 2 ^ 32) := by
  have digit : ∀ c ∈ Nat.toDigits 10 number, c.isDigit = true :=
    fun c inside => Nat.isDigit_of_mem_toDigits (by decide) (by decide) inside
  have whole : (Nat.toDigits 10 number).takeWhile Char.isDigit = Nat.toDigits 10 number := by
    rw [List.takeWhile_eq_self_iff]
    exact digit
  have unsigned : scanSign ((Nat.toDigits 10 number).dropWhile isSpace) = (false, Nat.toDigits 10 number) := by
    cases printed : Nat.toDigits 10 number with
    | nil => exact absurd printed Nat.toDigits_ne_nil
    | cons first rest =>
        have firstDigit : first.isDigit = true := digit first (by simp [printed])
        rw [List.dropWhile_cons_of_neg (by simp [isDigit_not_space firstDigit])]
        exact scanSign_digit rest firstDigit
  simp only [scanUnsigned, unsigned, whole, Nat.toDigits_ne_nil, if_false, Nat.ofDigitChars_ten_toDigits]
  rw [if_neg (Nat.not_le.mpr fits), if_neg Bool.false_ne_true]

/-- A nonempty prefix of printed digits prints the same number or a smaller one. -/
theorem prefix_toDigits {digits : List Char} {number : Nat} (isPrefix : digits <+: Nat.toDigits 10 number)
    (nonempty : digits ≠ []) :
    digits = Nat.toDigits 10 number ∨ ∃ smaller, smaller < number ∧ digits = Nat.toDigits 10 smaller := by
  induction number using Nat.strong_induction_on with
  | _ number ih =>
      by_cases single : number < 10
      · left
        rw [Nat.toDigits_of_lt_base single] at isPrefix ⊢
        rcases List.prefix_cons_iff.mp isPrefix with empty | ⟨rest, same, restPrefix⟩
        · exact absurd empty nonempty
        · rw [same, List.prefix_nil.mp restPrefix]
      · have smaller : number / 10 < number := by omega
        rw [Nat.toDigits_of_base_le (by decide) (by omega)] at isPrefix ⊢
        rcases List.prefix_concat_iff.mp isPrefix with same | shorter
        · exact Or.inl same
        · right
          rcases ih (number / 10) smaller shorter with same | ⟨value, below, same⟩
          · exact ⟨number / 10, smaller, same⟩
          · exact ⟨value, by omega, same⟩

end TextInput
