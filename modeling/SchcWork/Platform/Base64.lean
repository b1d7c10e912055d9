import SchcWork.Library.Memory

namespace SchcWork.Platform

def b64chars : List Char := "ABCDEFGHIJKLMNOPQRSTUVWXYZabcdefghijklmnopqrstuvwxyz0123456789+/".toList

theorem length_b64chars : b64chars.length = 64 := by rfl

/-- The encoder indexes the table with six bits, so the index stays inside the table. -/
def b64Char (v : Nat) : Char :=
  b64chars.get ⟨v &&& 0x3F, by
    rw [length_b64chars]
    exact Nat.lt_succ_of_le Nat.and_le_right⟩

/-- One round packs up to three bytes and writes four characters. -/
def b64Round (first : UInt8) (second third : Option UInt8) : List Char :=
  let v := first.toNat
  let v := match second with
    | some byte => v <<< 8 ||| byte.toNat
    | none => v <<< 8
  let v := match third with
    | some byte => v <<< 8 ||| byte.toNat
    | none => v <<< 8
  [b64Char (v >>> 18), b64Char (v >>> 12),
    if second.isSome then b64Char (v >>> 6) else '=', if third.isSome then b64Char v else '=']

/-- The loop advances by three input bytes. -/
def b64Rounds : List UInt8 → List Char
  | [] => []
  | [first] => b64Round first none none
  | [first, second] => b64Round first (some second) none
  | first :: second :: third :: rest => b64Round first (some second) (some third) ++ b64Rounds rest

/-- The encoder returns the null pointer for an empty input. -/
def b64Encode (input : List UInt8) : Option (List Char) :=
  if input.length = 0 then none else some (b64Rounds input)

/-- A base64 text uses the table and the padding character. -/
def IsBase64 (text : List Char) : Prop := ∀ c ∈ text, c ∈ b64chars ∨ c = '='

theorem b64Char_mem (v : Nat) : b64Char v ∈ b64chars := List.get_mem _ _

theorem b64Round_isBase64 (first : UInt8) (second third : Option UInt8) : IsBase64 (b64Round first second third) := by
  intro c inside
  simp only [b64Round, List.mem_cons, List.not_mem_nil, or_false] at inside
  rcases inside with rfl | rfl | rfl | rfl
  · exact Or.inl (b64Char_mem _)
  · exact Or.inl (b64Char_mem _)
  · split
    · exact Or.inl (b64Char_mem _)
    · exact Or.inr rfl
  · split
    · exact Or.inl (b64Char_mem _)
    · exact Or.inr rfl

/-- Every round keeps the alphabet. -/
theorem b64Rounds_isBase64 (input : List UInt8) : IsBase64 (b64Rounds input) := by
  induction input using b64Rounds.induct with
  | case1 => exact fun c inside => absurd inside List.not_mem_nil
  | case2 first => exact b64Round_isBase64 first none none
  | case3 first second => exact b64Round_isBase64 first (some second) none
  | case4 first second third rest ih =>
      intro c inside
      rcases List.mem_append.mp inside with head | tail
      · exact b64Round_isBase64 first (some second) (some third) c head
      · exact ih c tail

/-- The encoder writes four characters for each started group of three bytes. -/
theorem length_b64Rounds (input : List UInt8) : (b64Rounds input).length = 4 * ((input.length + 2) / 3) := by
  induction input using b64Rounds.induct with
  | case1 => rfl
  | case2 first => simp [b64Rounds, b64Round]
  | case3 first second => simp [b64Rounds, b64Round]
  | case4 first second third rest ih =>
      rw [b64Rounds, List.length_append, ih]
      simp only [b64Round, List.length_cons, List.length_nil]
      omega

theorem b64Rounds_ne_nil {input : List UInt8} (nonempty : input ≠ []) : b64Rounds input ≠ [] := by
  induction input using b64Rounds.induct with
  | case1 => contradiction
  | case2 first => simp [b64Rounds, b64Round]
  | case3 first second => simp [b64Rounds, b64Round]
  | case4 first second third rest ih => simp [b64Rounds, b64Round]

/-- The encoder returns a nonempty base64 text or the null pointer. -/
theorem b64Encode_spec {input : List UInt8} {text : List Char} (encoded : b64Encode input = some text) :
    text ≠ [] ∧ IsBase64 text := by
  unfold b64Encode at encoded
  split at encoded
  · contradiction
  · rename_i nonempty
    obtain rfl := Option.some.inj encoded
    have present : input ≠ [] := fun empty => nonempty (by simp [empty])
    exact ⟨b64Rounds_ne_nil present, b64Rounds_isBase64 input⟩

/-- A string of C is a text in front of its first NUL, and its length is a 64-bit size. -/
structure CString where
  text : List Char
  noNul : Char.ofNat 0 ∉ text
  addressable : text.length < 2 ^ 64

/-- The padding character has an entry too, which is negative like the entry of every gap. -/
def b64invs : List Int :=
  [62, -1, -1, -1, 63, 52, 53, 54, 55, 56, 57, 58,
   59, 60, 61, -1, -1, -1, -1, -1, -1, -1, 0, 1, 2, 3, 4, 5,
   6, 7, 8, 9, 10, 11, 12, 13, 14, 15, 16, 17, 18, 19, 20,
   21, 22, 23, 24, 25, -1, -1, -1, -1, -1, -1, 26, 27, 28,
   29, 30, 31, 32, 33, 34, 35, 36, 37, 38, 39, 40, 41, 42,
   43, 44, 45, 46, 47, 48, 49, 50, 51]

theorem length_b64invs : b64invs.length = 80 := by rfl

def b64Isvalidchar (c : Char) : Bool :=
  if '0' ≤ c ∧ c ≤ '9' then true
  else if 'A' ≤ c ∧ c ≤ 'Z' then true
  else if 'a' ≤ c ∧ c ≤ 'z' then true
  else if c = '+' ∨ c = '/' ∨ c = '=' then true
  else false

/-- The loop takes one from a 64-bit size for each padding character. -/
def dropPadding (ret : Nat) : List Char → Nat
  | [] => ret
  | c :: rest => if c = '=' then dropPadding ((2 ^ 64 - 1 + ret) % 2 ^ 64) rest else ret

def b64DecodedSize (text : List Char) : Nat := dropPadding (text.length / 4 * 3) text.reverse

/-- A read at the length of a string returns its NUL. -/
def charAt (text : List Char) (index : Nat) : Char := text.getD index (Char.ofNat 0)

def tableIndex (c : Char) : Int := c.toNat - 43

def b64Inv (c : Char) : BitVec 32 := BitVec.ofInt 32 (b64invs.getD (tableIndex c).toNat 0)

/-- One round collects four characters in an `int`. -/
def b64Value (text : List Char) (i : Nat) : BitVec 32 :=
  let v := b64Inv (charAt text i)
  let v := v <<< 6 ||| b64Inv (charAt text (i + 1))
  let v := if charAt text (i + 2) = '=' then v <<< 6 else v <<< 6 ||| b64Inv (charAt text (i + 2))
  if charAt text (i + 3) = '=' then v <<< 6 else v <<< 6 ||| b64Inv (charAt text (i + 3))

def lowByte (v : BitVec 32) : UInt8 := UInt8.ofNat (v &&& 0xFF).toNat

/-- A round always writes its first byte, and a padding character leaves out the byte that it stands for. -/
def roundWrites (text : List Char) (i j : Nat) : List (Nat × UInt8) :=
  let v := b64Value text i
  [(j, lowByte (v.sshiftRight 16))] ++
    (if charAt text (i + 2) ≠ '=' then [(j + 1, lowByte (v.sshiftRight 8))] else []) ++
    if charAt text (i + 3) ≠ '=' then [(j + 2, lowByte v)] else []

/-- The two last characters of a round skip the table when they are padding. -/
def roundTableReads (text : List Char) (i : Nat) : List Int :=
  [tableIndex (charAt text i), tableIndex (charAt text (i + 1))] ++
    (if charAt text (i + 2) = '=' then [] else [tableIndex (charAt text (i + 2))]) ++
    if charAt text (i + 3) = '=' then [] else [tableIndex (charAt text (i + 3))]

def roundInputReads (i : Nat) : List Nat := [i, i + 1, i + 2, i + 3]

/-- The decoder returns its buffer and the decoded size, and it records its accesses. -/
structure B64Decoding where
  outlen : Nat
  allocated : Nat
  out : ByteMemory
  writes : List Nat
  inputReads : List Nat
  tableReads : List Int

/-- The decoder writes the terminator first and then the bytes of every round. -/
def decodingWrites (text : List Char) : List (Nat × UInt8) :=
  (b64DecodedSize text, 0) ::
    (List.range ((text.length + 3) / 4)).flatMap fun round => roundWrites text (4 * round) (3 * round)

/-- This is the decoding of a validated text in a fresh buffer. -/
def b64Decoded (fresh : ByteMemory) (text : List Char) : B64Decoding where
  outlen := b64DecodedSize text
  allocated := (b64DecodedSize text + 1) % 2 ^ 64
  out := fresh.storeAll (decodingWrites text)
  writes := (decodingWrites text).map Prod.fst
  inputReads := (List.range ((text.length + 3) / 4)).flatMap fun round => roundInputReads (4 * round)
  tableReads := (List.range ((text.length + 3) / 4)).flatMap fun round => roundTableReads text (4 * round)

def b64Decode (fresh : ByteMemory) (text : List Char) : Option B64Decoding :=
  if text.length % 4 ≠ 0 then none
  else if ¬text.all b64Isvalidchar then none
  else some (b64Decoded fresh text)

/-- The validation accepts whole rounds over the alphabet with padding anywhere. -/
def Accepted (text : List Char) : Prop := text.length % 4 = 0 ∧ text.all b64Isvalidchar = true

instance (text : List Char) : Decidable (Accepted text) := inferInstanceAs (Decidable (_ ∧ _))

def trailingPadding (text : List Char) : Nat := (text.reverse.takeWhile (· = '=')).length

/-- A padding character hides the decoded byte that it stands for. -/
def Hidden (text : List Char) (position : Nat) : Prop :=
  position % 3 = 1 ∧ charAt text (4 * (position / 3) + 2) = '=' ∨
    position % 3 = 2 ∧ charAt text (4 * (position / 3) + 3) = '='

instance (text : List Char) (position : Nat) : Decidable (Hidden text position) :=
  inferInstanceAs (Decidable (_ ∨ _))

/-- This is the byte that the round of a position writes there. -/
def b64Byte (text : List Char) (position : Nat) : UInt8 :=
  lowByte ((b64Value text (4 * (position / 3))).sshiftRight (16 - 8 * (position % 3)))

/-- A valid character has an entry in the table. -/
theorem tableIndex_inside {c : Char} (valid : b64Isvalidchar c = true) : 0 ≤ tableIndex c ∧ tableIndex c < 80 := by
  have bounds : 43 ≤ c.toNat ∧ c.toNat < 123 := by
    unfold b64Isvalidchar at valid
    split at valid
    · rename_i digit
      exact ⟨Nat.le_trans (by decide) digit.1, Nat.lt_of_le_of_lt digit.2 (by decide)⟩
    · split at valid
      · rename_i upper
        exact ⟨Nat.le_trans (by decide) upper.1, Nat.lt_of_le_of_lt upper.2 (by decide)⟩
      · split at valid
        · rename_i lower
          exact ⟨Nat.le_trans (by decide) lower.1, Nat.lt_of_le_of_lt lower.2 (by decide)⟩
        · split at valid
          · rename_i other
            rcases other with rfl | rfl | rfl
            · decide
            · decide
            · decide
          · cases valid
  unfold tableIndex
  omega

/-- The padding of a round hides its second or its third byte. -/
theorem hidden_round (text : List Char) (round : Nat) {part : Nat} (inside : part < 3) :
    Hidden text (3 * round + part) ↔
      part = 1 ∧ charAt text (4 * round + 2) = '=' ∨ part = 2 ∧ charAt text (4 * round + 3) = '=' := by
  have quotient : (3 * round + part) / 3 = round := by omega
  have remainder : (3 * round + part) % 3 = part := by omega
  rw [Hidden, quotient, remainder]

theorem b64Byte_round (text : List Char) (round : Nat) {part : Nat} (inside : part < 3) :
    b64Byte text (3 * round + part) = lowByte ((b64Value text (4 * round)).sshiftRight (16 - 8 * part)) := by
  have quotient : (3 * round + part) / 3 = round := by omega
  have remainder : (3 * round + part) % 3 = part := by omega
  rw [b64Byte, quotient, remainder]

/-- The writes of one round are the visible positions of its three bytes. -/
theorem mem_roundWrites (text : List Char) (round : Nat) (write : Nat × UInt8) :
    write ∈ roundWrites text (4 * round) (3 * round) ↔
      write.1 / 3 = round ∧ ¬Hidden text write.1 ∧ write.2 = b64Byte text write.1 := by
  obtain ⟨position, byte⟩ := write
  have hidden := fun part inside => @hidden_round text round part inside
  have value := fun part inside => @b64Byte_round text round part inside
  have optional (present : Prop) [Decidable present] (entry : Nat × UInt8) :
      (position, byte) ∈ (if present then [entry] else []) ↔ present ∧ position = entry.1 ∧ byte = entry.2 := by
    split
    · rename_i holds
      simp only [List.mem_singleton, holds, true_and]
      exact Prod.ext_iff
    · rename_i fails
      simp only [List.not_mem_nil, fails, false_and]
  simp only [roundWrites, List.mem_append, List.mem_singleton, optional, Prod.mk.injEq]
  constructor
  · rintro ((⟨rfl, rfl⟩ | ⟨visible, rfl, rfl⟩) | ⟨visible, rfl, rfl⟩)
    · refine ⟨by omega, ?_, ?_⟩
      · rw [show 3 * round = 3 * round + 0 from rfl, hidden 0 (by decide)]
        omega
      · exact (value 0 (by decide)).symm
    · refine ⟨by omega, ?_, (value 1 (by decide)).symm⟩
      rw [hidden 1 (by decide)]
      simp [visible]
    · refine ⟨by omega, ?_, ?_⟩
      · rw [hidden 2 (by decide)]
        simp [visible]
      · rw [value 2 (by decide), show 16 - 8 * 2 = 0 from rfl, BitVec.sshiftRight_zero]
  · rintro ⟨quotient, visible, rfl⟩
    obtain ⟨part, inside, rfl⟩ : ∃ part, part < 3 ∧ position = 3 * round + part :=
      ⟨position % 3, Nat.mod_lt _ (by decide), by omega⟩
    rw [hidden part inside] at visible
    rw [value part inside]
    have parts : part = 0 ∨ part = 1 ∨ part = 2 := by omega
    rcases parts with rfl | rfl | rfl
    · exact .inl (.inl ⟨rfl, rfl⟩)
    · refine .inl (.inr ⟨?_, rfl, rfl⟩)
      intro padding
      exact visible (.inl ⟨rfl, padding⟩)
    · refine .inr ⟨?_, rfl, ?_⟩
      · intro padding
        exact visible (.inr ⟨rfl, padding⟩)
      · rw [show 16 - 8 * 2 = 0 from rfl, BitVec.sshiftRight_zero]

/-- Removing the padding never wraps while the padding is shorter than the size. -/
theorem dropPadding_eq {ret : Nat} (small : ret < 2 ^ 64) (text : List Char)
    (enough : (text.takeWhile (· = '=')).length ≤ ret) :
    dropPadding ret text = ret - (text.takeWhile (· = '=')).length := by
  induction text generalizing ret with
  | nil => rfl
  | cons c rest ih =>
      by_cases padding : c = '='
      · rw [List.takeWhile_cons_of_pos (by simpa using padding), List.length_cons] at enough ⊢
        have dropped : (2 ^ 64 - 1 + ret) % 2 ^ 64 = ret - 1 := by omega
        rw [dropPadding, if_pos padding, dropped, ih (by omega) (by omega)]
        omega
      · rw [dropPadding, if_neg padding, List.takeWhile_cons_of_neg (by simpa using padding)]
        rfl

theorem charAt_eq_getElem {text : List Char} {index : Nat} (inside : index < text.length) :
    charAt text index = text[index] := by
  rw [charAt, List.getD_eq_getElem?_getD, List.getElem?_eq_getElem inside, Option.getD_some]

theorem trailingPadding_le (text : List Char) : trailingPadding text ≤ text.length := by
  have shorter := (List.takeWhile_prefix (fun c => decide (c = '=')) (l := text.reverse)).length_le
  rw [List.length_reverse] at shorter
  exact shorter

/-- The last characters of a text are its trailing padding. -/
theorem charAt_trailing {text : List Char} {distance : Nat} (inside : distance < trailingPadding text) :
    charAt text (text.length - 1 - distance) = '=' := by
  have bound := trailingPadding_le text
  have kept := List.takeWhile_prefix (fun c => decide (c = '=')) (l := text.reverse)
  have padding := List.all_eq_true.mp List.all_takeWhile _ (List.getElem_mem inside)
  have same := kept.getElem inside
  rw [List.getElem_reverse] at same
  rw [charAt_eq_getElem (by omega), ← same]
  simpa using padding

theorem b64Decode_accepted (fresh : ByteMemory) {text : List Char} (accepted : Accepted text) :
    b64Decode fresh text = some (b64Decoded fresh text) := by
  rw [b64Decode, if_neg (by simp [accepted.1]), if_neg (by simp [accepted.2])]

theorem b64Decode_rejected (fresh : ByteMemory) {text : List Char} (rejected : ¬Accepted text) :
    b64Decode fresh text = none := by
  unfold b64Decode
  split
  · rfl
  · rename_i whole
    split
    · rfl
    · rename_i valid
      exact absurd ⟨not_not.mp whole, not_not.mp valid⟩ rejected

section Accesses

variable {text : List Char}

/-- The decoder writes the terminator and every visible position of its rounds. -/
theorem mem_decodingWrites (accepted : Accepted text) (write : Nat × UInt8) :
    write ∈ decodingWrites text ↔
      write = (b64DecodedSize text, 0) ∨
        write.1 < text.length / 4 * 3 ∧ ¬Hidden text write.1 ∧ write.2 = b64Byte text write.1 := by
  have rounds : (text.length + 3) / 4 = text.length / 4 := by
    have whole := accepted.1
    omega
  rw [decodingWrites, List.mem_cons, rounds]
  apply or_congr_right
  rw [List.mem_flatMap]
  constructor
  · rintro ⟨round, inside, member⟩
    obtain ⟨quotient, visible, byte⟩ := (mem_roundWrites text round write).mp member
    rw [List.mem_range] at inside
    exact ⟨by omega, visible, byte⟩
  · rintro ⟨inside, visible, byte⟩
    refine ⟨write.1 / 3, ?_, ?_⟩
    · rw [List.mem_range]
      omega
    · rw [mem_roundWrites]
      exact ⟨rfl, visible, byte⟩

/-- A position behind the terminator's address was written exactly when no padding hides it. -/
theorem mem_writes (fresh : ByteMemory) (accepted : Accepted text) {position : Nat}
    (other : position ≠ b64DecodedSize text) :
    position ∈ (b64Decoded fresh text).writes ↔ position < text.length / 4 * 3 ∧ ¬Hidden text position := by
  simp only [b64Decoded, List.mem_map]
  constructor
  · rintro ⟨write, member, rfl⟩
    rcases (mem_decodingWrites accepted write).mp member with terminator | ⟨inside, visible, -⟩
    · exact absurd (congrArg Prod.fst terminator) other
    · exact ⟨inside, visible⟩
  · rintro ⟨inside, visible⟩
    exact ⟨(position, b64Byte text position),
      (mem_decodingWrites accepted _).mpr (.inr ⟨inside, visible, rfl⟩), rfl⟩

/-- A visible position holds the byte of its round, and a hidden one holds what the fresh buffer held. -/
theorem b64Decoded_out (fresh : ByteMemory) (accepted : Accepted text) {position : Nat}
    (other : position ≠ b64DecodedSize text) (inside : position < text.length / 4 * 3) :
    (b64Decoded fresh text).out position =
      if Hidden text position then fresh position else b64Byte text position := by
  have entries (write : Nat × UInt8) (member : write ∈ decodingWrites text) (same : write.1 = position) :
      ¬Hidden text position ∧ write.2 = b64Byte text position := by
    rcases (mem_decodingWrites accepted write).mp member with terminator | ⟨-, visible, byte⟩
    · exact absurd (same.symm.trans (congrArg Prod.fst terminator)) other
    · rw [same] at visible byte
      exact ⟨visible, byte⟩
  split
  · rename_i hidden
    apply ByteMemory.storeAll_untouched
    intro write member same
    exact (entries write member same).1 hidden
  · rename_i visible
    apply ByteMemory.storeAll_written
    · intro write member same
      exact (entries write member same).2
    · exact ⟨(position, b64Byte text position),
        (mem_decodingWrites accepted _).mpr (.inr ⟨inside, visible, rfl⟩), rfl⟩

end Accesses

/-- A decoding stays inside its buffer, the input and the table, and its size does not wrap. -/
structure B64Decoding.Inside (decoding : B64Decoding) (text : List Char) : Prop where
  size : trailingPadding text ≤ text.length / 4 * 3
  written : ∀ position ∈ decoding.writes, position < decoding.allocated
  input : ∀ position ∈ decoding.inputReads, position < text.length
  table : ∀ index ∈ decoding.tableReads, 0 ≤ index ∧ index < b64invs.length

section Bounds

variable {text : List Char}

theorem charAt_valid (accepted : Accepted text) {index : Nat} (inside : index < text.length) :
    b64Isvalidchar (charAt text index) = true := by
  rw [charAt_eq_getElem inside]
  exact List.all_eq_true.mp accepted.2 _ (List.getElem_mem inside)

/-- Every read of the decoder stays inside the input and the table. -/
theorem b64Decoded_reads (fresh : ByteMemory) (accepted : Accepted text) :
    (∀ position ∈ (b64Decoded fresh text).inputReads, position < text.length) ∧
      ∀ index ∈ (b64Decoded fresh text).tableReads, 0 ≤ index ∧ index < b64invs.length := by
  have whole := accepted.1
  constructor
  · intro position member
    simp only [b64Decoded, List.mem_flatMap, List.mem_range, roundInputReads, List.mem_cons, List.not_mem_nil,
      or_false] at member
    obtain ⟨round, inside, place⟩ := member
    omega
  · intro index member
    simp only [b64Decoded, List.mem_flatMap, List.mem_range] at member
    obtain ⟨round, inside, read⟩ := member
    have entry (part : Nat) (small : part < 4) (same : index = tableIndex (charAt text (4 * round + part))) :
        0 ≤ index ∧ index < b64invs.length := by
      rw [same, length_b64invs]
      exact tableIndex_inside (charAt_valid accepted (by omega))
    simp only [roundTableReads, List.mem_append, List.mem_cons, List.not_mem_nil, or_false] at read
    rcases read with ((first | second) | third) | fourth
    · exact entry 0 (by decide) first
    · exact entry 1 (by decide) second
    · split at third
      · cases third
      · exact entry 2 (by decide) (List.mem_singleton.mp third)
    · split at fourth
      · cases fourth
      · exact entry 3 (by decide) (List.mem_singleton.mp fourth)

/-- The decoded size counts the bytes of all rounds without the trailing padding. -/
theorem b64DecodedSize_eq (addressable : text.length < 2 ^ 64)
    (enough : trailingPadding text ≤ text.length / 4 * 3) :
    b64DecodedSize text = text.length / 4 * 3 - trailingPadding text :=
  dropPadding_eq (by omega) text.reverse enough

/-- The padding of the last round hides every position behind the terminator. -/
theorem hidden_of_behind (whole : text.length % 4 = 0) (addressable : text.length < 2 ^ 64)
    (short : trailingPadding text ≤ 3) {position : Nat} (inside : position < text.length / 4 * 3)
    (behind : b64DecodedSize text < position) : Hidden text position := by
  rw [b64DecodedSize_eq addressable (by omega)] at behind
  have place : position % 3 = 1 ∨ position % 3 = 2 := by omega
  rcases place with second | third
  · have padding := @charAt_trailing text 1 (by omega)
    rw [show text.length - 1 - 1 = 4 * (position / 3) + 2 by omega] at padding
    exact .inl ⟨second, padding⟩
  · have padding := @charAt_trailing text 0 (by omega)
    rw [show text.length - 1 - 0 = 4 * (position / 3) + 3 by omega] at padding
    exact .inr ⟨third, padding⟩

/-- A decoding stays inside exactly when the text ends in at most three padding characters. -/
theorem b64Decoded_inside_iff (fresh : ByteMemory) (accepted : Accepted text) (addressable : text.length < 2 ^ 64) :
    (b64Decoded fresh text).Inside text ↔ trailingPadding text ≤ 3 := by
  have whole := accepted.1
  have shorter := trailingPadding_le text
  constructor
  · intro inside
    -- With four padding characters the first byte of the last round lies behind the buffer.
    by_contra long
    have enough := inside.size
    have size := b64DecodedSize_eq addressable enough
    have first : text.length / 4 * 3 - 3 ∈ (b64Decoded fresh text).writes := by
      rw [mem_writes fresh accepted (by omega)]
      refine ⟨by omega, ?_⟩
      rw [Hidden]
      omega
    have allocated : (b64Decoded fresh text).allocated = (b64DecodedSize text + 1) % 2 ^ 64 := rfl
    have bound := inside.written _ first
    rw [allocated, size] at bound
    omega
  · intro short
    have enough : trailingPadding text ≤ text.length / 4 * 3 := by omega
    have size := b64DecodedSize_eq addressable enough
    have allocated : (b64Decoded fresh text).allocated = (b64DecodedSize text + 1) % 2 ^ 64 := rfl
    obtain ⟨input, table⟩ := b64Decoded_reads fresh accepted
    refine ⟨enough, ?_, input, table⟩
    intro position member
    rw [allocated, size]
    by_cases terminator : position = b64DecodedSize text
    · omega
    · obtain ⟨below, visible⟩ := (mem_writes fresh accepted terminator).mp member
      by_contra behind
      exact visible (hidden_of_behind whole addressable short below (by omega))

/-- A short padding keeps the decoded size within the rounds. -/
theorem b64DecodedSize_le (accepted : Accepted text) (short : trailingPadding text ≤ 3)
    (addressable : text.length < 2 ^ 64) : b64DecodedSize text ≤ text.length / 4 * 3 := by
  have whole := accepted.1
  have shorter := trailingPadding_le text
  rw [b64DecodedSize_eq addressable (by omega)]
  omega

end Bounds

end SchcWork.Platform
