import SchcWork.Nvm.Record

namespace SchcWork.Nvm

open TextInput Worker

/-- The first piece of a key line sets the key, and the pieces after it set nothing. -/
theorem foldl_scanLine_key (scan : Scan) {word tail : List Char} (keyText : IsKeyText word) (plain : '_' ∉ tail) :
    ∃ found, (lines maxNvmLineLength [] (nvmKeyLabel ++ word ++ tail)).foldl scanLine scan =
      { scan with readNvmKey := some found } := by
  cases word with
  | nil => exact absurd rfl keyText.nonempty
  | cons first word =>
      have firstByte := keyText.solid first (by simp)
      simp only [isKeyByte, Bool.and_eq_true, Bool.not_eq_true'] at firstByte
      obtain ⟨⟨-, firstText⟩, firstSpace⟩ := firstByte
      have quiet : '_' ∉ word ++ tail := by
        intro inside
        rcases List.mem_append.mp inside with key | after
        · exact absurd (keyText.solid '_' (List.mem_cons_of_mem _ key)) (by decide)
        · exact plain after
      have opening : ∀ c ∈ nvmKeyLabel ++ [first], isText c = true := by
        intro c inside
        rcases List.mem_append.mp inside with label | last
        · exact List.all_eq_true.mp (show nvmKeyLabel.all isText = true by decide) c label
        · rw [List.mem_singleton.mp last]
          exact firstText
      have noBreak : '\n' ∉ nvmKeyLabel ++ [first] := fun inside => absurd (opening '\n' inside) (by decide)
      have room : ([] : List Char).length + (nvmKeyLabel ++ [first]).length + 1 < maxNvmLineLength := by
        rw [List.length_append, List.length_singleton]
        decide
      have split : nvmKeyLabel ++ first :: word ++ tail = (nvmKeyLabel ++ [first]) ++ (word ++ tail) := by simp
      rw [split, lines_extend maxNvmLineLength [] (nvmKeyLabel ++ [first]) (word ++ tail) noBreak room,
        List.nil_append]
      obtain ⟨taken, rest, parts, pieces⟩ :=
        lines_head maxNvmLineLength (show nvmKeyLabel ++ [first] ≠ [] by simp) (word ++ tail)
      have later : '_' ∉ rest := fun inside => quiet (by rw [parts]; exact List.mem_append_right _ inside)
      have cut : chomp (nvmKeyLabel ++ [first] ++ taken) = nvmKeyLabel ++ (first :: chomp taken) := by
        rw [chomp_append taken opening, List.append_assoc, List.singleton_append]
      obtain ⟨found, scanned⟩ := Option.isSome_iff_exists.mp (scanString_isSome (chomp taken) firstSpace)
      refine ⟨found, ?_⟩
      rw [pieces, List.foldl_cons, foldl_scanLine_silent _ later]
      simp only [scanLine, cut, matchLiteral_append, Option.bind_some, scanned]

/-- A piece of a label sets nothing. -/
theorem scanLine_label (scan : Scan) (count : Nat) :
    scanLine scan (nvmKeyLabel.take count) = scan ∧ scanLine scan (ssnLabel.take count) = scan := by
  have quiet : ∀ piece ∈ nvmKeyLabel.inits ++ ssnLabel.inits,
      (matchLiteral nvmKeyLabel (chomp piece)).bind scanString = none ∧
        (matchLiteral ssnLabel (chomp piece)).bind scanUnsigned = none := by decide
  have key := quiet (nvmKeyLabel.take count) (by simp [List.take_prefix])
  have ssn := quiet (ssnLabel.take count) (by simp [List.take_prefix])
  simp only [scanLine, key, ssn, and_self]

/-- An open text that fits the line buffer is one line, or no line when it is empty. -/
theorem foldl_scanLine_open (scan : Scan) {text : List Char} (noBreak : '\n' ∉ text)
    (room : text.length + 1 < maxNvmLineLength) :
    (lines maxNvmLineLength [] text).foldl scanLine scan = scanLine scan text := by
  have whole := lines_extend maxNvmLineLength [] text [] noBreak (by simpa using room)
  rw [List.append_nil, List.nil_append] at whole
  cases text with
  | nil => exact (scanLine_label scan 0).1.symm
  | cons first rest =>
      rw [whole, lines_nil maxNvmLineLength (List.cons_ne_nil first rest)]
      rfl

/-- A number line sets the low 32 bits of its number, with or without its newline. -/
theorem foldl_scanLine_number (scan : Scan) {number : Nat} (fits : number < 2 ^ 64) {tail : List Char}
    (ending : tail = [] ∨ tail = ['\n']) :
    (lines maxNvmLineLength [] (ssnLabel ++ Nat.toDigits 10 number ++ tail)).foldl scanLine scan =
      { scan with readSsn := some (number % 2 ^ 32) } := by
  have digit : ∀ c ∈ Nat.toDigits 10 number, c.isDigit = true :=
    fun c inside => Nat.isDigit_of_mem_toDigits (by decide) (by decide) inside
  have plain : ∀ c ∈ ssnLabel ++ Nat.toDigits 10 number, isText c = true := by
    intro c inside
    rcases List.mem_append.mp inside with label | printed
    · exact List.all_eq_true.mp (show ssnLabel.all isText = true by decide) c label
    · exact isDigit_isText (digit c printed)
  have noBreak : '\n' ∉ ssnLabel ++ Nat.toDigits 10 number := fun inside => absurd (plain '\n' inside) (by decide)
  have room : (ssnLabel ++ Nat.toDigits 10 number).length + 1 < maxNvmLineLength := by
    have short : (Nat.toDigits 10 number).length ≤ 20 :=
      (Nat.length_toDigits_le_iff (by decide) (by decide)).mpr (by omega)
    rw [List.length_append, show ssnLabel.length = 11 from rfl, maxNvmLineLength]
    omega
  have unkeyed : matchLiteral nvmKeyLabel (ssnLabel ++ Nat.toDigits 10 number) = none := rfl
  have scanned : ∀ line, chomp line = ssnLabel ++ Nat.toDigits 10 number →
      scanLine scan line = { scan with readSsn := some (number % 2 ^ 32) } := by
    intro line text
    simp only [scanLine, text, unkeyed, Option.bind_none, matchLiteral_append, Option.bind_some,
      scanUnsigned_toDigits fits]
  rcases ending with rfl | rfl
  · rw [List.append_nil, foldl_scanLine_open scan noBreak room, scanned _ (chomp_eq_self plain)]
  · have ended := lines_extend maxNvmLineLength [] (ssnLabel ++ Nat.toDigits 10 number) ['\n'] noBreak
      (by simpa using room)
    have text : chomp (ssnLabel ++ Nat.toDigits 10 number ++ ['\n']) = ssnLabel ++ Nat.toDigits 10 number := by
      rw [chomp_append ['\n'] plain, chomp_newline, List.append_nil]
    rw [ended, List.nil_append, lines_newline, List.foldl_cons, scanned _ text]
    rfl

/-- A nonempty prefix of a key text is a key text. -/
theorem IsKeyText.take {word : List Char} (keyText : IsKeyText word) {count : Nat} (positive : 0 < count) :
    IsKeyText (word.take count) where
  nonempty := by
    simp only [ne_eq, List.take_eq_nil_iff, keyText.nonempty, or_false]
    omega
  solid := fun c inside => keyText.solid c (List.mem_of_mem_take inside)

/-- A complete key line sets the key before the reader continues. -/
theorem scanText_keyLine (stack : Stack) (key : NvmKey) (rest : List Char) :
    ∃ found, scanText (nvmKeyLabel ++ printedKey stack key ++ '\n' :: rest) =
      (lines maxNvmLineLength [] rest).foldl scanLine ⟨some found, none⟩ := by
  obtain ⟨found, scanned⟩ := @foldl_scanLine_key ⟨none, none⟩ (printedKey stack key) ['\n']
    (printedKey_isKeyText stack key) (by decide)
  refine ⟨found, ?_⟩
  rw [scanText, lines_append_newline, List.foldl_append, scanned]

/-- A record that stops before the first digit has no number. -/
theorem scanText_torn_head (stack : Stack) (key : NvmKey) (count : Nat) :
    (scanText ((recordHead stack key).take count)).readSsn = none := by
  have keyText := printedKey_isKeyText stack key
  have labelLength : nvmKeyLabel.length = 8 := rfl
  rw [recordHead, List.append_assoc, List.take_append, List.take_append, labelLength]
  rcases Nat.lt_or_ge 8 count with beyondLabel | insideLabel
  · rw [List.take_of_length_le (by omega), ← List.append_assoc]
    rcases Nat.lt_or_ge (printedKey stack key).length (count - 8) with beyondKey | insideKey
    · obtain ⟨extra, size⟩ := Nat.exists_eq_add_of_lt beyondKey
      have remaining : count - 8 - (printedKey stack key).length = extra + 1 := by omega
      rw [List.take_of_length_le (by omega), remaining, List.take_succ_cons]
      obtain ⟨found, scanned⟩ := scanText_keyLine stack key (ssnLabel.take extra)
      have noBreak : '\n' ∉ ssnLabel.take extra := fun inside =>
        absurd (List.mem_of_mem_take inside) (by decide)
      have room : (ssnLabel.take extra).length + 1 < maxNvmLineLength := by
        rw [List.length_take, show ssnLabel.length = 11 from rfl, maxNvmLineLength]
        omega
      rw [scanned, foldl_scanLine_open _ noBreak room, (scanLine_label _ extra).2]
    · have remaining : count - 8 - (printedKey stack key).length = 0 := by omega
      rw [remaining, List.take_zero]
      obtain ⟨found, scanned⟩ := @foldl_scanLine_key ⟨none, none⟩ ((printedKey stack key).take (count - 8)) []
        (keyText.take (by omega)) (by simp)
      rw [scanText, scanned]
  · have remaining : count - 8 = 0 := by omega
    rw [remaining, Nat.zero_sub, List.take_zero, List.take_zero, List.append_nil, List.append_nil]
    have noBreak : '\n' ∉ nvmKeyLabel.take count := fun inside =>
      absurd (List.mem_of_mem_take inside) (by decide)
    have room : (nvmKeyLabel.take count).length + 1 < maxNvmLineLength := by
      rw [List.length_take, labelLength, maxNvmLineLength]
      omega
    rw [scanText, foldl_scanLine_open _ noBreak room, (scanLine_label _ count).1]

/-- A record whose digits print a number has a key and the low 32 bits of this number. -/
theorem scanText_number (stack : Stack) (key : NvmKey) {number : Nat} (fits : number < 2 ^ 64) {tail : List Char}
    (ending : tail = [] ∨ tail = ['\n']) :
    ∃ found, scanText (recordHead stack key ++ Nat.toDigits 10 number ++ tail) =
      ⟨some found, some (number % 2 ^ 32)⟩ := by
  have layout : recordHead stack key ++ Nat.toDigits 10 number ++ tail =
      nvmKeyLabel ++ printedKey stack key ++ '\n' :: (ssnLabel ++ Nat.toDigits 10 number ++ tail) := by
    simp [recordHead]
  obtain ⟨found, scanned⟩ := scanText_keyLine stack key (ssnLabel ++ Nat.toDigits 10 number ++ tail)
  exact ⟨found, by rw [layout, scanned, foldl_scanLine_number _ fits ending]⟩

/-- This is the length of a record up to its last digit. -/
def digitsEnd (stack : Stack) (key : NvmKey) (ssn : UInt64) : Nat :=
  (recordHead stack key).length + (ssnDigits ssn).length

section Readers

variable (writer reader : Stack) (stream : Stream) (key owner : NvmKey) (ssn : UInt64) (count : Nat)

/-- A reader finds the stored text and does not change it. -/
theorem nvmReadSsn_of_scan {text found : List Char} {number : Nat}
    (scanned : scanText text = ⟨some found, some number⟩) :
    nvmReadSsn reader .opens stream key (some text) = ⟨.ok, some number, some text⟩ := by
  simp only [nvmReadSsn, scanned]

/-- A record without a digit is an error for every reader. -/
theorem nvmReadSsn_headOnly (short : count ≤ (recordHead writer owner).length) :
    nvmReadSsn reader .opens stream key (some ((record writer owner ssn).take count)) =
      ⟨.oscoreSsnOverflow, none, some ((record writer owner ssn).take count)⟩ := by
  have missing := scanText_torn_head writer owner count
  rw [record, List.append_assoc, List.take_append_of_le_length short]
  simp only [nvmReadSsn, missing]
  cases (scanText ((recordHead writer owner).take count)).readNvmKey with
  | none => rfl
  | some found => rfl

/-- A record with every digit gives the low 32 bits of its number to every reader. -/
theorem nvmReadSsn_whole (long : digitsEnd writer owner ssn ≤ count) :
    nvmReadSsn reader .opens stream key (some ((record writer owner ssn).take count)) =
      ⟨.ok, some (ssn.toNat % 2 ^ 32), some ((record writer owner ssn).take count)⟩ := by
  obtain ⟨extra, rfl⟩ := Nat.exists_eq_add_of_le long
  have kept : (record writer owner ssn).take (digitsEnd writer owner ssn + extra) =
      recordHead writer owner ++ ssnDigits ssn ++ ['\n'].take extra := by
    rw [record, digitsEnd, ← List.length_append, List.take_length_add_append]
  have ending : ['\n'].take extra = [] ∨ ['\n'].take extra = ['\n'] := by
    cases extra with
    | zero => exact Or.inl rfl
    | succ extra => exact Or.inr (by simp)
  obtain ⟨found, scanned⟩ := scanText_number writer owner ssn.toNat_lt ending
  rw [kept]
  exact nvmReadSsn_of_scan reader stream key scanned

/-- A record with some digits but not all gives a smaller number to every reader. -/
theorem nvmReadSsn_torn (long : (recordHead writer owner).length < count)
    (short : count < digitsEnd writer owner ssn) :
    ∃ smaller, smaller < ssn.toNat ∧
      nvmReadSsn reader .opens stream key (some ((record writer owner ssn).take count)) =
        ⟨.ok, some (smaller % 2 ^ 32), some ((record writer owner ssn).take count)⟩ := by
  obtain ⟨extra, rfl⟩ := Nat.exists_eq_add_of_lt long
  have fewer : extra + 1 < (ssnDigits ssn).length := by
    unfold digitsEnd at short
    omega
  have kept : (record writer owner ssn).take ((recordHead writer owner).length + extra + 1) =
      recordHead writer owner ++ (ssnDigits ssn).take (extra + 1) := by
    rw [record, List.append_assoc, Nat.add_assoc, List.take_length_add_append,
      List.take_append_of_le_length (by omega)]
  have nonempty : (ssnDigits ssn).take (extra + 1) ≠ [] := by
    rw [ne_eq, ← List.length_eq_zero_iff, List.length_take]
    omega
  rcases prefix_toDigits (List.take_prefix (extra + 1) (ssnDigits ssn)) nonempty with same | ⟨smaller, below, printed⟩
  · have size := congrArg List.length same
    rw [List.length_take] at size
    unfold ssnDigits at fewer size
    omega
  · have fits : smaller < 2 ^ 64 := Nat.lt_trans below ssn.toNat_lt
    obtain ⟨found, scanned⟩ := @scanText_number writer owner smaller fits [] (Or.inl rfl)
    rw [List.append_nil, ← printed] at scanned
    refine ⟨smaller, below, ?_⟩
    rw [kept]
    exact nvmReadSsn_of_scan reader stream key scanned

end Readers

end SchcWork.Nvm
