import SchcWork.Platform.Base64

namespace SchcWork.Platform

/-- The unsigned size wraps at 64 bits. -/
def b64EncodedSize (inlen : Nat) : Nat :=
  let ret := if inlen % 3 ≠ 0 then (inlen + (3 - inlen % 3)) % 2 ^ 64 else inlen
  ret / 3 * 4 % 2 ^ 64

/-- The texts of this codec are ASCII, so a character is one byte. -/
def charByte (c : Char) : UInt8 := UInt8.ofNat c.toNat

/-- A round writes its four characters in order. -/
def encodeRoundWrites (input : List UInt8) (i j : Nat) : List (Nat × UInt8) :=
  (List.range 4).map fun part =>
    (j + part, charByte (charAt (b64Round (input.getD i 0) input[i + 1]? input[i + 2]?) part))

/-- The encoder writes the terminator first and then the characters of every round. -/
def encodingWrites (input : List UInt8) : List (Nat × UInt8) :=
  (b64EncodedSize input.length, 0) ::
    (List.range ((input.length + 2) / 3)).flatMap fun round => encodeRoundWrites input (3 * round) (4 * round)

/-- This is the buffer that the encoder returns. -/
def encodedBuffer (fresh : ByteMemory) (input : List UInt8) : ByteMemory := fresh.storeAll (encodingWrites input)

/-- A buffer holds a string of C when the text stands in front of the first NUL. -/
structure HoldsString (memory : ByteMemory) (text : List Char) : Prop where
  characters : memory.slice 0 text.length = text.map charByte
  terminator : memory text.length = 0
  first : 0 ∉ text.map charByte

/-- The encoding of a byte string has a 64-bit size. -/
structure ByteString where
  bytes : List UInt8
  addressable : 4 * ((bytes.length + 2) / 3) < 2 ^ 64

/-- The padding completes the digits to whole rounds, and the bits that the last digit leaves over are zero. -/
structure Completes (count : Nat) (body : List Char) : Prop where
  digits : ∀ c ∈ body, c ∈ b64chars
  whole : (body.length + count) % 4 = 0
  short : count ≤ 2
  zeros : ∀ c, body.getLast? = some c → b64chars.idxOf c % 4 ^ count = 0

/-- A canonical text consists of digits and at most two padding characters behind them. -/
def Canonical (text : List Char) : Prop :=
  ∃ body count, Completes count body ∧ text = body ++ List.replicate count '='

/-- The table index is the remainder of the value. -/
theorem b64Char_eq_get (v : Nat) :
    b64Char v = b64chars.get ⟨v % 64, by rw [length_b64chars]; exact Nat.mod_lt _ (by decide)⟩ := by
  have index : v &&& 0x3F = v % 64 := Nat.and_two_pow_sub_one_eq_mod v 6
  simp only [b64Char, index]

/-- The decoder's table inverts the encoder's table. -/
theorem b64Inv_b64Char (v : Nat) : b64Inv (b64Char v) = BitVec.ofNat 32 (v % 64) := by
  have table : ∀ entry : Fin b64chars.length, b64Inv (b64chars.get entry) = BitVec.ofNat 32 entry := by
    decide +kernel
  rw [b64Char_eq_get, table]

theorem b64Char_idxOf {c : Char} (known : c ∈ b64chars) : b64Char (b64chars.idxOf c) = c := by
  have inside : b64chars.idxOf c < b64chars.length := List.idxOf_lt_length_of_mem known
  have small : b64chars.idxOf c % 64 = b64chars.idxOf c := Nat.mod_eq_of_lt (by rwa [length_b64chars] at inside)
  simp only [b64Char_eq_get, small, List.get_eq_getElem]
  exact List.getElem_idxOf inside

theorem idxOf_lt {c : Char} (known : c ∈ b64chars) : b64chars.idxOf c < 64 := by
  have inside : b64chars.idxOf c < b64chars.length := List.idxOf_lt_length_of_mem known
  rwa [length_b64chars] at inside

theorem table_valid {c : Char} (known : c ∈ b64chars) : b64Isvalidchar c = true ∧ c ≠ '=' := by
  have table : (b64chars.all fun c => b64Isvalidchar c && c != '=') = true := by decide +kernel
  have entry := List.all_eq_true.mp table c known
  rw [Bool.and_eq_true, bne_iff_ne] at entry
  exact entry

theorem shift6 {v : Nat} (small : v < 2 ^ 26) : BitVec.ofNat 32 v <<< 6 = BitVec.ofNat 32 (v * 64) := by
  apply BitVec.eq_of_toNat_eq
  rw [BitVec.toNat_shiftLeft, BitVec.toNat_ofNat, BitVec.toNat_ofNat, Nat.mod_eq_of_lt (show v < 2 ^ 32 by omega),
    Nat.shiftLeft_eq]

theorem push6 {v : Nat} (small : v < 2 ^ 26) (digit : Nat) :
    BitVec.ofNat 32 v <<< 6 ||| BitVec.ofNat 32 (digit % 64) = BitVec.ofNat 32 (v * 64 + digit % 64) := by
  have low : digit % 64 < 2 ^ 6 := Nat.mod_lt _ (by decide)
  have high : v <<< 6 = v * 64 := Nat.shiftLeft_eq v 6
  apply BitVec.eq_of_toNat_eq
  rw [BitVec.toNat_or, BitVec.toNat_shiftLeft, BitVec.toNat_ofNat, BitVec.toNat_ofNat, BitVec.toNat_ofNat,
    Nat.mod_eq_of_lt (show v < 2 ^ 32 by omega), Nat.mod_eq_of_lt (show digit % 64 < 2 ^ 32 by omega),
    Nat.mod_eq_of_lt (show v * 64 + digit % 64 < 2 ^ 32 by omega), Nat.mod_eq_of_lt (by omega), ← high,
    Nat.shiftLeft_add_eq_or_of_lt low]

theorem lowByte_sshiftRight {v : Nat} (small : v < 2 ^ 31) (shift : Nat) :
    lowByte ((BitVec.ofNat 32 v).sshiftRight shift) = UInt8.ofNat (v / 2 ^ shift) := by
  have positive : (BitVec.ofNat 32 v).msb = false := by
    rw [BitVec.msb_eq_false_iff_two_mul_lt, BitVec.toNat_ofNat]
    omega
  have mask (w : Nat) : w &&& 255 = w % 256 := Nat.and_two_pow_sub_one_eq_mod w 8
  rw [lowByte, BitVec.sshiftRight_eq_of_msb_false positive, BitVec.toNat_and, BitVec.toNat_ushiftRight,
    BitVec.toNat_ofNat, Nat.mod_eq_of_lt (by omega), Nat.shiftRight_eq_div_pow]
  apply UInt8.toNat_inj.mp
  rw [UInt8.toNat_ofNat', UInt8.toNat_ofNat']
  change (v / 2 ^ shift &&& 255) % 256 = _
  rw [mask, Nat.mod_mod]

/-- A missing byte of a round counts as zero. -/
def packed (first : UInt8) (second third : Option UInt8) : Nat :=
  first.toNat * 65536 + (second.getD 0).toNat * 256 + (third.getD 0).toNat

theorem packed_lt (first : UInt8) (second third : Option UInt8) : packed first second third < 2 ^ 24 := by
  have firstSmall := first.toNat_lt
  have secondSmall := (second.getD 0).toNat_lt
  have thirdSmall := (third.getD 0).toNat_lt
  unfold packed
  omega

/-- The encoder collects the bytes of a round in one number. -/
theorem b64Round_eq (first : UInt8) (second third : Option UInt8) :
    b64Round first second third =
      [b64Char (packed first second third / 2 ^ 18), b64Char (packed first second third / 2 ^ 12),
        if second.isSome then b64Char (packed first second third / 2 ^ 6) else '=',
        if third.isSome then b64Char (packed first second third) else '='] := by
  have shift (v : Nat) : v <<< 8 = v * 256 := Nat.shiftLeft_eq v 8
  have append (v : Nat) (byte : UInt8) : v * 256 ||| byte.toNat = v * 256 + byte.toNat := by
    rw [← shift, Nat.shiftLeft_add_eq_or_of_lt byte.toNat_lt]
  have shape (v : Nat) (number : v = packed first second third) :
      [b64Char (v >>> 18), b64Char (v >>> 12), if second.isSome then b64Char (v >>> 6) else '=',
        if third.isSome then b64Char v else '='] =
      [b64Char (packed first second third / 2 ^ 18), b64Char (packed first second third / 2 ^ 12),
        if second.isSome then b64Char (packed first second third / 2 ^ 6) else '=',
        if third.isSome then b64Char (packed first second third) else '='] := by
    simp only [number, Nat.shiftRight_eq_div_pow]
  apply shape
  unfold packed
  have zero : (0 : UInt8).toNat = 0 := rfl
  cases second with
  | none =>
      cases third with
      | none =>
          simp only [shift, Option.getD_none, zero]
          omega
      | some third =>
          simp only [shift, append, Option.getD_none, Option.getD_some, zero]
          omega
  | some second =>
      cases third with
      | none =>
          simp only [shift, append, Option.getD_none, Option.getD_some, zero]
          omega
      | some third =>
          simp only [shift, append, Option.getD_some]
          omega

/-- The text has a round at this index. -/
def HasRound (text : List Char) (i : Nat) (first : UInt8) (second third : Option UInt8) : Prop :=
  ∀ part, part < 4 → charAt text (i + part) = charAt (b64Round first second third) part

theorem charAt_cons_zero (c : Char) (text : List Char) : charAt (c :: text) 0 = c := rfl

theorem charAt_cons_succ (c : Char) (text : List Char) (index : Nat) :
    charAt (c :: text) (index + 1) = charAt text index := rfl

theorem HasRound.chars {text : List Char} {i : Nat} {first : UInt8} {second third : Option UInt8}
    (round : HasRound text i first second third) :
    charAt text i = b64Char (packed first second third / 2 ^ 18) ∧
      charAt text (i + 1) = b64Char (packed first second third / 2 ^ 12) ∧
      charAt text (i + 2) = (if second.isSome then b64Char (packed first second third / 2 ^ 6) else '=') ∧
      charAt text (i + 3) = if third.isSome then b64Char (packed first second third) else '=' := by
  have char0 := round 0 (by decide)
  have char1 := round 1 (by decide)
  have char2 := round 2 (by decide)
  have char3 := round 3 (by decide)
  rw [b64Round_eq] at char0 char1 char2 char3
  -- The kernel would unfold the table to compare these by computation.
  rw [Nat.add_zero, charAt_cons_zero] at char0
  rw [charAt_cons_succ, charAt_cons_zero] at char1
  rw [charAt_cons_succ, charAt_cons_succ, charAt_cons_zero] at char2
  rw [charAt_cons_succ, charAt_cons_succ, charAt_cons_succ, charAt_cons_zero] at char3
  exact ⟨char0, char1, char2, char3⟩

theorem b64Char_ne (v : Nat) : b64Char v ≠ '=' := (table_valid (b64Char_mem v)).2

/-- The decoder collects the number of the encoder. -/
theorem b64Value_round {text : List Char} {i : Nat} {first : UInt8} {second third : Option UInt8}
    (round : HasRound text i first second third) (ordered : third.isSome = true → second.isSome = true) :
    b64Value text i = BitVec.ofNat 32 (packed first second third) := by
  have small := packed_lt first second third
  have firstSmall := first.toNat_lt
  have zero : (0 : UInt8).toNat = 0 := rfl
  obtain ⟨c0, c1, c2, c3⟩ := round.chars
  rw [b64Value, c0, c1, b64Inv_b64Char, b64Inv_b64Char, push6 (by omega)]
  cases second with
  | none =>
      cases third with
      | none =>
          rw [if_neg (by decide)] at c2 c3
          rw [c2, c3, if_pos rfl, if_pos rfl, shift6 (by omega), shift6 (by omega)]
          apply congrArg
          simp only [packed, Option.getD_none, zero]
          omega
      | some third => cases ordered rfl
  | some second =>
      have secondSmall := second.toNat_lt
      rw [if_pos Option.isSome_some] at c2
      rw [c2, if_neg (b64Char_ne _), b64Inv_b64Char, push6 (by omega)]
      cases third with
      | none =>
          rw [if_neg (by decide)] at c3
          rw [c3, if_pos rfl, shift6 (by omega)]
          apply congrArg
          simp only [packed, Option.getD_none, Option.getD_some, zero]
          omega
      | some third =>
          have thirdSmall := third.toNat_lt
          rw [if_pos Option.isSome_some] at c3
          rw [c3, if_neg (b64Char_ne _), b64Inv_b64Char, push6 (by omega)]
          apply congrArg
          simp only [packed, Option.getD_some]
          omega

theorem ofNat_eq_byte {v : Nat} {byte : UInt8} (digit : v % 2 ^ 8 = byte.toNat) : UInt8.ofNat v = byte := by
  apply UInt8.toNat_inj.mp
  rw [UInt8.toNat_ofNat', digit]

theorem packed_bytes (first : UInt8) (second third : Option UInt8) :
    UInt8.ofNat (packed first second third / 2 ^ 16) = first ∧
      UInt8.ofNat (packed first second third / 2 ^ 8) = second.getD 0 ∧
        UInt8.ofNat (packed first second third) = third.getD 0 := by
  have firstSmall := first.toNat_lt
  have secondSmall := (second.getD 0).toNat_lt
  have thirdSmall := (third.getD 0).toNat_lt
  refine ⟨?_, ?_, ?_⟩
  · apply ofNat_eq_byte
    rw [packed]
    omega
  · apply ofNat_eq_byte
    rw [packed]
    omega
  · apply ofNat_eq_byte
    rw [packed]
    omega

/-- A decoded round returns the bytes that the encoder packed, and its padding hides the others. -/
theorem HasRound.bytes {text : List Char} {round : Nat} {first : UInt8} {second third : Option UInt8}
    (present : HasRound text (4 * round) first second third)
    (ordered : third.isSome = true → second.isSome = true) {part : Nat} (inside : part < 3) :
    b64Byte text (3 * round + part) = [first, second.getD 0, third.getD 0].getD part 0 ∧
      (Hidden text (3 * round + part) ↔ [false, second.isNone, third.isNone].getD part false = true) := by
  have small := packed_lt first second third
  have unsigned : packed first second third < 2 ^ 31 := by omega
  obtain ⟨byte0, byte1, byte2⟩ := packed_bytes first second third
  obtain ⟨c0, c1, c2, c3⟩ := present.chars
  have padding (byte : Option UInt8) (v : Nat) :
      (if byte.isSome then b64Char v else '=') = '=' ↔ byte.isNone = true := by
    cases byte with
    | none => simp
    | some byte => simp [b64Char_ne]
  rw [b64Byte_round text round inside, b64Value_round present ordered, lowByte_sshiftRight unsigned,
    hidden_round text round inside, c2, c3, padding, padding]
  have parts : part = 0 ∨ part = 1 ∨ part = 2 := by omega
  rcases parts with rfl | rfl | rfl
  · exact ⟨byte0, by simp⟩
  · exact ⟨byte1, by simp⟩
  · refine ⟨?_, by simp⟩
    rw [show 16 - 8 * 2 = 0 from rfl, Nat.pow_zero, Nat.div_one]
    exact byte2

theorem charAt_append_left {head : List Char} {index : Nat} (inside : index < head.length) (tail : List Char) :
    charAt (head ++ tail) index = charAt head index := by
  rw [charAt, charAt, List.getD_eq_getElem?_getD, List.getElem?_append_left inside, List.getD_eq_getElem?_getD]

theorem charAt_append_right (head tail : List Char) (index : Nat) :
    charAt (head ++ tail) (head.length + index) = charAt tail index := by
  rw [charAt, charAt, List.getD_eq_getElem?_getD, List.getElem?_append_right (Nat.le_add_right _ _),
    Nat.add_sub_cancel_left, List.getD_eq_getElem?_getD]

/-- The encoded text has a round for every started group of three bytes. -/
theorem b64Rounds_hasRound (input : List UInt8) {round : Nat} (inside : 3 * round < input.length) :
    HasRound (b64Rounds input) (4 * round) (input.getD (3 * round) 0) input[3 * round + 1]?
      input[3 * round + 2]? := by
  induction input using b64Rounds.induct generalizing round with
  | case1 => exact absurd inside (Nat.not_lt_zero _)
  | case2 first =>
      obtain rfl : round = 0 := by
        rw [List.length_singleton] at inside
        omega
      intro part small
      rw [Nat.mul_zero, Nat.zero_add]
      rfl
  | case3 first second =>
      obtain rfl : round = 0 := by
        rw [List.length_cons, List.length_singleton] at inside
        omega
      intro part small
      rw [Nat.mul_zero, Nat.zero_add]
      rfl
  | case4 first second third rest ih =>
      have four : (b64Round first (some second) (some third)).length = 4 := rfl
      cases round with
      | zero =>
          intro part small
          rw [Nat.mul_zero, Nat.zero_add, b64Rounds, charAt_append_left (by rwa [four])]
          rfl
      | succ round =>
          have below : 3 * round < rest.length := by
            simp only [List.length_cons] at inside
            omega
          intro part small
          have tail := ih below part small
          rw [b64Rounds, show 4 * (round + 1) + part = 4 + (4 * round + part) by omega, ← four,
            charAt_append_right, four, tail]
          rfl

/-- The decoder sees every input byte at its position. -/
theorem b64Byte_b64Rounds (input : List UInt8) {position : Nat} (inside : position < input.length) :
    b64Byte (b64Rounds input) position = input[position] ∧ ¬Hidden (b64Rounds input) position := by
  obtain ⟨round, part, small, rfl⟩ : ∃ round part, part < 3 ∧ position = 3 * round + part :=
    ⟨position / 3, position % 3, Nat.mod_lt _ (by decide), by omega⟩
  have ordered : input[3 * round + 2]?.isSome = true → input[3 * round + 1]?.isSome = true := by
    rw [isSome_getElem?, isSome_getElem?]
    omega
  obtain ⟨byte, hidden⟩ := (b64Rounds_hasRound input (by omega)).bytes ordered small
  rw [byte, hidden]
  have parts : part = 0 ∨ part = 1 ∨ part = 2 := by omega
  rcases parts with rfl | rfl | rfl
  · refine ⟨?_, Bool.false_ne_true⟩
    change input.getD (3 * round + 0) 0 = _
    rw [List.getD_eq_getElem?_getD, List.getElem?_eq_getElem inside, Option.getD_some]
  · simp [List.getElem?_eq_getElem inside]
  · simp [List.getElem?_eq_getElem inside]

theorem Completes.no_padding {count : Nat} {body : List Char} (completes : Completes count body) : '=' ∉ body := by
  intro padding
  exact (table_valid (completes.digits _ padding)).2 rfl

theorem Completes.trailingPadding_eq {count : Nat} {body : List Char} (completes : Completes count body) :
    trailingPadding (body ++ List.replicate count '=') = count := by
  have visible : body.reverse.takeWhile (· = '=') = [] := by
    cases reversed : body.reverse with
    | nil => rfl
    | cons last rest =>
        have member : last ∈ body := List.mem_reverse.mp (reversed ▸ List.mem_cons_self)
        have digit : last ≠ '=' := fun padding => completes.no_padding (padding ▸ member)
        exact List.takeWhile_cons_of_neg (by simpa using digit)
  have hidden : ∀ c ∈ List.replicate count '=', decide (c = '=') = true := by
    intro c member
    exact decide_eq_true (List.eq_of_mem_replicate member)
  rw [trailingPadding, List.reverse_append, List.reverse_replicate, List.takeWhile_append_of_pos hidden, visible,
    List.append_nil, List.length_replicate]

/-- A full round in front of a completed text completes it in the same way. -/
theorem Completes.append {count : Nat} {round body : List Char} (digits : ∀ c ∈ round, c ∈ b64chars)
    (four : round.length = 4) (completes : Completes count body) : Completes count (round ++ body) where
  digits := by
    intro c member
    rcases List.mem_append.mp member with front | back
    · exact digits c front
    · exact completes.digits c back
  whole := by
    have whole := completes.whole
    rw [List.length_append, four]
    omega
  short := completes.short
  zeros := by
    intro c last
    cases body with
    | nil =>
        have whole := completes.whole
        have short := completes.short
        rw [List.length_nil] at whole
        obtain rfl : count = 0 := by omega
        rw [Nat.pow_zero, Nat.mod_one]
    | cons first rest =>
        rw [List.getLast?_append_of_ne_nil _ (List.cons_ne_nil _ _)] at last
        exact completes.zeros c last

theorem idxOf_b64Char (v : Nat) : b64chars.idxOf (b64Char v) = v % 64 := by
  have member := b64Char_mem v
  have small := idxOf_lt member
  have digits : BitVec.ofNat 32 (b64chars.idxOf (b64Char v) % 64) = BitVec.ofNat 32 (v % 64) := by
    rw [← b64Inv_b64Char, ← b64Inv_b64Char, b64Char_idxOf member]
  have values := congrArg BitVec.toNat digits
  rw [BitVec.toNat_ofNat, BitVec.toNat_ofNat] at values
  omega

/-- Digits in front of the padding complete a round when the leftover bits of the last digit are zero. -/
theorem completes_digits (front : List Nat) {last count : Nat} (whole : (front.length + 1 + count) % 4 = 0)
    (short : count ≤ 2) (zeros : last % 64 % 4 ^ count = 0) :
    Completes count (front.map b64Char ++ [b64Char last]) where
  digits := by
    intro c member
    rcases List.mem_append.mp member with before | final
    · obtain ⟨digit, -, rfl⟩ := List.mem_map.mp before
      exact b64Char_mem digit
    · rw [List.mem_singleton.mp final]
      exact b64Char_mem last
  whole := by
    rwa [List.length_append, List.length_map, List.length_singleton]
  short := short
  zeros := by
    intro c final
    rw [List.getLast?_concat] at final
    rwa [← Option.some.inj final, idxOf_b64Char]

/-- The bytes that the last round misses are the padding characters of the encoded text. -/
theorem b64Rounds_completes (input : List UInt8) :
    ∃ body, Completes ((3 - input.length % 3) % 3) body ∧
      b64Rounds input = body ++ List.replicate ((3 - input.length % 3) % 3) '=' := by
  induction input using b64Rounds.induct with
  | case1 =>
      refine ⟨[], ⟨?_, rfl, by decide, ?_⟩, rfl⟩
      · intro c member
        cases member
      · intro c last
        cases last
  | case2 first =>
      have missing : packed first none none = first.toNat * 65536 + 0 * 256 + 0 := rfl
      have completes : Completes 2
          [b64Char (packed first none none / 2 ^ 18), b64Char (packed first none none / 2 ^ 12)] :=
        completes_digits [packed first none none / 2 ^ 18] (by simp) (by decide) (by omega)
      refine ⟨_, completes, ?_⟩
      rw [b64Rounds, b64Round_eq, if_neg (by decide), if_neg (by decide)]
      rfl
  | case3 first second =>
      have missing : packed first (some second) none = first.toNat * 65536 + second.toNat * 256 + 0 := rfl
      have completes : Completes 1 [b64Char (packed first (some second) none / 2 ^ 18),
          b64Char (packed first (some second) none / 2 ^ 12), b64Char (packed first (some second) none / 2 ^ 6)] :=
        completes_digits [packed first (some second) none / 2 ^ 18, packed first (some second) none / 2 ^ 12]
          (by simp) (by decide) (by omega)
      refine ⟨_, completes, ?_⟩
      rw [b64Rounds, b64Round_eq, if_pos Option.isSome_some, if_neg (by decide)]
      rfl
  | case4 first second third rest ih =>
      have same : (first :: second :: third :: rest).length % 3 = rest.length % 3 := by
        simp only [List.length_cons]
        omega
      obtain ⟨body, completes, encoded⟩ := ih
      have digits : ∀ c ∈ b64Round first (some second) (some third), c ∈ b64chars := by
        rw [b64Round_eq]
        simp [b64Char_mem]
      refine ⟨b64Round first (some second) (some third) ++ body, ?_, ?_⟩
      · rw [same]
        exact completes.append digits rfl
      · rw [same, b64Rounds, encoded, List.append_assoc]

theorem b64Rounds_canonical (input : List UInt8) : Canonical (b64Rounds input) := by
  obtain ⟨body, completes, encoded⟩ := b64Rounds_completes input
  exact ⟨_, _, completes, encoded⟩

theorem Canonical.accepted {text : List Char} (canonical : Canonical text) : Accepted text := by
  obtain ⟨body, count, completes, rfl⟩ := canonical
  constructor
  · rw [List.length_append, List.length_replicate]
    exact completes.whole
  · rw [List.all_eq_true]
    intro c member
    rcases List.mem_append.mp member with digit | padding
    · exact (table_valid (completes.digits c digit)).1
    · rw [List.eq_of_mem_replicate padding]
      decide

/-- The three size formulas agree. -/
theorem b64Rounds_sizes (input : ByteString) :
    (b64Rounds input.bytes).length = b64EncodedSize input.bytes.length ∧
      b64DecodedSize (b64Rounds input.bytes) = input.bytes.length := by
  have addressable := input.addressable
  constructor
  · have unwrapped : (input.bytes.length + (3 - input.bytes.length % 3)) % 2 ^ 64 =
        input.bytes.length + (3 - input.bytes.length % 3) := Nat.mod_eq_of_lt (by omega)
    rw [length_b64Rounds, b64EncodedSize, unwrapped]
    split
    · omega
    · omega
  · obtain ⟨body, completes, encoded⟩ := b64Rounds_completes input.bytes
    have padding := completes.trailingPadding_eq
    rw [← encoded] at padding
    have length := length_b64Rounds input.bytes
    rw [b64DecodedSize_eq (by omega) (by omega), length, padding]
    omega

/-- The terminator and the rounds of the encoder spell the encoded text. -/
theorem mem_encodingWrites (input : ByteString) (write : Nat × UInt8) :
    write ∈ encodingWrites input.bytes ↔
      write = ((b64Rounds input.bytes).length, 0) ∨
        write.1 < (b64Rounds input.bytes).length ∧ write.2 = charByte (charAt (b64Rounds input.bytes) write.1) := by
  have length := length_b64Rounds input.bytes
  rw [encodingWrites, List.mem_cons, ← (b64Rounds_sizes input).1]
  apply or_congr_right
  rw [List.mem_flatMap]
  constructor
  · rintro ⟨round, inside, member⟩
    rw [List.mem_range] at inside
    obtain ⟨part, small, rfl⟩ := List.mem_map.mp member
    rw [List.mem_range] at small
    refine ⟨by omega, ?_⟩
    rw [b64Rounds_hasRound input.bytes (by omega) part small]
  · rintro ⟨inside, byte⟩
    have small : write.1 % 4 < 4 := Nat.mod_lt _ (by decide)
    have place : write.1 = 4 * (write.1 / 4) + write.1 % 4 := (Nat.div_add_mod write.1 4).symm
    have started : 3 * (write.1 / 4) < input.bytes.length := by omega
    have same := b64Rounds_hasRound input.bytes started (write.1 % 4) small
    rw [← place] at same
    refine ⟨write.1 / 4, List.mem_range.mpr (by omega), ?_⟩
    refine List.mem_map.mpr ⟨write.1 % 4, List.mem_range.mpr small, ?_⟩
    rw [← same, ← byte, ← place]

theorem charByte_ne_zero {c : Char} (valid : b64Isvalidchar c = true) : charByte c ≠ 0 := by
  obtain ⟨lower, upper⟩ := tableIndex_inside valid
  intro zero
  have value := congrArg UInt8.toNat zero
  rw [charByte, UInt8.toNat_ofNat', show (0 : UInt8).toNat = 0 from rfl] at value
  rw [tableIndex] at lower upper
  omega

/-- The buffer of the encoder holds the encoded text as a string. -/
theorem encodedBuffer_holdsString (fresh : ByteMemory) (input : ByteString) :
    HoldsString (encodedBuffer fresh input.bytes) (b64Rounds input.bytes) where
  characters := by
    apply List.ext_getElem
    · rw [ByteMemory.length_slice, List.length_map]
    · intro position left right
      rw [List.length_map] at right
      rw [ByteMemory.getElem_slice, Nat.zero_add, List.getElem_map]
      have character := charAt_eq_getElem right
      apply ByteMemory.storeAll_written
      · intro write member same
        rcases (mem_encodingWrites input write).mp member with rfl | ⟨-, byte⟩
        · exact absurd same (Nat.ne_of_gt right)
        · rw [byte, same, character]
      · refine ⟨(position, charByte (b64Rounds input.bytes)[position]), ?_, rfl⟩
        rw [mem_encodingWrites, ← character]
        exact .inr ⟨right, rfl⟩
  terminator := by
    apply ByteMemory.storeAll_written
    · intro write member same
      rcases (mem_encodingWrites input write).mp member with rfl | ⟨inside, -⟩
      · rfl
      · exact absurd same (Nat.ne_of_lt inside)
    · exact ⟨_, (mem_encodingWrites input _).mpr (.inl rfl), rfl⟩
  first := by
    intro zero
    obtain ⟨c, member, value⟩ := List.mem_map.mp zero
    have accepted := (b64Rounds_canonical input.bytes).accepted
    exact charByte_ne_zero (List.all_eq_true.mp accepted.2 c member) value

/-- The decoder returns the bytes of an encoded text. -/
theorem b64Decode_b64Rounds (fresh : ByteMemory) (input : ByteString) :
    ∃ decoding, b64Decode fresh (b64Rounds input.bytes) = some decoding ∧
      decoding.outlen = input.bytes.length ∧ decoding.out.slice 0 decoding.outlen = input.bytes := by
  have accepted := (b64Rounds_canonical input.bytes).accepted
  have size := (b64Rounds_sizes input).2
  have length := length_b64Rounds input.bytes
  refine ⟨_, b64Decode_accepted fresh accepted, size, ?_⟩
  change (b64Decoded fresh (b64Rounds input.bytes)).out.slice 0 (b64DecodedSize (b64Rounds input.bytes)) = _
  rw [size]
  apply List.ext_getElem
  · rw [ByteMemory.length_slice]
  · intro position left right
    obtain ⟨byte, visible⟩ := b64Byte_b64Rounds input.bytes right
    rw [ByteMemory.getElem_slice, Nat.zero_add, b64Decoded_out fresh accepted (by omega) (by omega), if_neg visible,
      byte]

/-- The digits of a round form one number. -/
def collected (first second third fourth : Nat) : Nat := first * 2 ^ 18 + second * 2 ^ 12 + third * 2 ^ 6 + fourth

/-- The digits of a text stand for these bytes. -/
def digitBytes : List Char → List UInt8
  | first :: second :: third :: fourth :: rest =>
      let v := collected (b64chars.idxOf first) (b64chars.idxOf second) (b64chars.idxOf third) (b64chars.idxOf fourth)
      UInt8.ofNat (v / 2 ^ 16) :: UInt8.ofNat (v / 2 ^ 8) :: UInt8.ofNat v :: digitBytes rest
  | [first, second, third] =>
      let v := collected (b64chars.idxOf first) (b64chars.idxOf second) (b64chars.idxOf third) 0
      [UInt8.ofNat (v / 2 ^ 16), UInt8.ofNat (v / 2 ^ 8)]
  | [first, second] =>
      let v := collected (b64chars.idxOf first) (b64chars.idxOf second) 0 0
      [UInt8.ofNat (v / 2 ^ 16)]
  | [_] => []
  | [] => []

/-- Packing the bytes of a number returns the number. -/
theorem packed_ofNat {v : Nat} (small : v < 2 ^ 24) {second third : Option UInt8}
    (middle : second.getD 0 = UInt8.ofNat (v / 2 ^ 8)) (low : third.getD 0 = UInt8.ofNat v) :
    packed (UInt8.ofNat (v / 2 ^ 16)) second third = v := by
  rw [packed, middle, low, UInt8.toNat_ofNat', UInt8.toNat_ofNat', UInt8.toNat_ofNat']
  omega

theorem b64Char_congr {v w : Nat} (same : v % 64 = w % 64) : b64Char v = b64Char w := by
  simp only [b64Char_eq_get, same]

/-- The bytes of a number encode to the digits of the number. -/
theorem b64Round_collected {v digit1 digit2 digit3 digit4 : Nat} (number : v = collected digit1 digit2 digit3 digit4)
    (small1 : digit1 < 64) (small2 : digit2 < 64) (small3 : digit3 < 64) (small4 : digit4 < 64)
    {second third : Option UInt8} (middle : second.getD 0 = UInt8.ofNat (v / 2 ^ 8))
    (low : third.getD 0 = UInt8.ofNat v) :
    b64Round (UInt8.ofNat (v / 2 ^ 16)) second third =
      [b64Char digit1, b64Char digit2, if second.isSome then b64Char digit3 else '=',
        if third.isSome then b64Char digit4 else '='] := by
  rw [collected] at number
  rw [b64Round_eq, packed_ofNat (by omega) middle low, b64Char_congr (show v / 2 ^ 18 % 64 = digit1 % 64 by omega),
    b64Char_congr (show v / 2 ^ 12 % 64 = digit2 % 64 by omega),
    b64Char_congr (show v / 2 ^ 6 % 64 = digit3 % 64 by omega), b64Char_congr (show v % 64 = digit4 % 64 by omega)]

/-- A byte of zero bits may stand for a missing byte. -/
theorem missing_eq_ofNat {v : Nat} (unused : v % 2 ^ 8 = 0) : (none : Option UInt8).getD 0 = UInt8.ofNat v :=
  (ofNat_eq_byte unused).symm

theorem Completes.rest {count : Nat} (round : List Char) {rest : List Char}
    (completes : Completes count (round ++ rest)) (four : round.length = 4) : Completes count rest where
  digits := fun c member => completes.digits c (List.mem_append_right round member)
  whole := by
    have whole := completes.whole
    rw [List.length_append, four] at whole
    omega
  short := completes.short
  zeros := by
    intro c last
    apply completes.zeros
    rw [List.getLast?_append, last, Option.some_or]

/-- Three digits and one padding character encode two bytes. -/
theorem Completes.threeDigits {count : Nat} {first second third : Char}
    (completes : Completes count [first, second, third]) :
    b64Rounds (digitBytes [first, second, third]) = [first, second, third] ++ List.replicate count '=' := by
  obtain rfl : count = 1 := by
    have whole : (3 + count) % 4 = 0 := completes.whole
    have short := completes.short
    omega
  have known1 := completes.digits first (by simp)
  have known2 := completes.digits second (by simp)
  have known3 := completes.digits third (by simp)
  have unused := completes.zeros third rfl
  have low : none.getD 0 = UInt8.ofNat
      (collected (b64chars.idxOf first) (b64chars.idxOf second) (b64chars.idxOf third) 0) := by
    apply missing_eq_ofNat
    rw [collected]
    omega
  have round := b64Round_collected rfl (idxOf_lt known1) (idxOf_lt known2) (idxOf_lt known3) (by decide)
    Option.getD_some low
  rw [digitBytes, b64Rounds, round, b64Char_idxOf known1, b64Char_idxOf known2, if_pos Option.isSome_some,
    b64Char_idxOf known3]
  rfl

/-- Two digits and two padding characters encode one byte. -/
theorem Completes.twoDigits {count : Nat} {first second : Char} (completes : Completes count [first, second]) :
    b64Rounds (digitBytes [first, second]) = [first, second] ++ List.replicate count '=' := by
  obtain rfl : count = 2 := by
    have whole : (2 + count) % 4 = 0 := completes.whole
    have short := completes.short
    omega
  have known1 := completes.digits first (by simp)
  have known2 := completes.digits second (by simp)
  have unused := completes.zeros second rfl
  have middle : none.getD 0 = UInt8.ofNat
      (collected (b64chars.idxOf first) (b64chars.idxOf second) 0 0 / 2 ^ 8) := by
    apply missing_eq_ofNat
    rw [collected]
    omega
  have low : none.getD 0 = UInt8.ofNat (collected (b64chars.idxOf first) (b64chars.idxOf second) 0 0) := by
    apply missing_eq_ofNat
    rw [collected]
    omega
  have round := b64Round_collected rfl (idxOf_lt known1) (idxOf_lt known2) (by decide) (by decide) middle low
  rw [digitBytes, b64Rounds, round, b64Char_idxOf known1, b64Char_idxOf known2]
  rfl

/-- Four digits encode three bytes. -/
theorem b64Rounds_fourDigits {first second third fourth : Char} (rest : List Char)
    (known : ∀ c ∈ [first, second, third, fourth], c ∈ b64chars) :
    b64Rounds (digitBytes (first :: second :: third :: fourth :: rest)) =
      first :: second :: third :: fourth :: b64Rounds (digitBytes rest) := by
  simp only [List.forall_mem_cons] at known
  obtain ⟨known1, known2, known3, known4, -⟩ := known
  have round := b64Round_collected rfl (idxOf_lt known1) (idxOf_lt known2) (idxOf_lt known3) (idxOf_lt known4)
    Option.getD_some Option.getD_some
  rw [digitBytes, b64Rounds, round, b64Char_idxOf known1, b64Char_idxOf known2, if_pos Option.isSome_some,
    b64Char_idxOf known3, if_pos Option.isSome_some, b64Char_idxOf known4]
  rfl

/-- Every completed text is an encoding. -/
theorem Completes.b64Rounds_digitBytes {count : Nat} {body : List Char} (completes : Completes count body) :
    b64Rounds (digitBytes body) = body ++ List.replicate count '=' := by
  induction body using digitBytes.induct with
  | case1 first second third fourth rest ih =>
      have known : ∀ c ∈ [first, second, third, fourth], c ∈ b64chars := by
        intro c member
        exact completes.digits c (List.mem_append_left rest member)
      have tail : Completes count rest := Completes.rest [first, second, third, fourth] completes rfl
      rw [b64Rounds_fourDigits rest known, ih tail]
      rfl
  | case2 first second third => exact completes.threeDigits
  | case3 first second => exact completes.twoDigits
  | case4 first =>
      have whole : (1 + count) % 4 = 0 := completes.whole
      have short := completes.short
      omega
  | case5 =>
      obtain rfl : count = 0 := by
        have whole : (0 + count) % 4 = 0 := completes.whole
        have short := completes.short
        omega
      rfl

theorem Canonical.encoding {text : List Char} (canonical : Canonical text) : ∃ input, b64Rounds input = text := by
  obtain ⟨body, count, completes, rfl⟩ := canonical
  exact ⟨digitBytes body, completes.b64Rounds_digitBytes⟩

/-- The encoder returns every canonical text from the bytes that the decoder returns. -/
theorem b64Encode_b64Decode (fresh : ByteMemory) {text : CString} (present : text.text ≠ [])
    (canonical : Canonical text.text) :
    ∃ decoding, b64Decode fresh text.text = some decoding ∧
      b64Encode (decoding.out.slice 0 decoding.outlen) = some text.text := by
  obtain ⟨bytes, encoded⟩ := canonical.encoding
  have addressable : 4 * ((bytes.length + 2) / 3) < 2 ^ 64 := by
    rw [← length_b64Rounds, encoded]
    exact text.addressable
  obtain ⟨decoding, decoded, -, same⟩ := b64Decode_b64Rounds fresh ⟨bytes, addressable⟩
  rw [encoded] at decoded
  refine ⟨decoding, decoded, ?_⟩
  have nonempty : bytes ≠ [] := by
    rintro rfl
    exact present encoded.symm
  rw [same, b64Encode, if_neg (by simpa using nonempty), encoded]

/-- Encoding and decoding invert each other on byte strings and on canonical texts. -/
theorem b64_roundTrip (fresh : ByteMemory) :
    (∀ input : ByteString, input.bytes ≠ [] →
      ∃ text, b64Encode input.bytes = some text ∧ HoldsString (encodedBuffer fresh input.bytes) text ∧
        text.length = b64EncodedSize input.bytes.length ∧ Canonical text ∧
        b64DecodedSize text = input.bytes.length ∧
        ∃ decoding, b64Decode fresh text = some decoding ∧ decoding.outlen = input.bytes.length ∧
          decoding.out.slice 0 decoding.outlen = input.bytes) ∧
      ∀ text : CString, text.text ≠ [] → Canonical text.text →
        ∃ decoding, b64Decode fresh text.text = some decoding ∧
          b64Encode (decoding.out.slice 0 decoding.outlen) = some text.text := by
  constructor
  · intro input nonempty
    have encoded : b64Encode input.bytes = some (b64Rounds input.bytes) := by
      rw [b64Encode, if_neg (by simpa using nonempty)]
    obtain ⟨encodedSize, decodedSize⟩ := b64Rounds_sizes input
    exact ⟨b64Rounds input.bytes, encoded, encodedBuffer_holdsString fresh input, encodedSize,
      b64Rounds_canonical input.bytes, decodedSize, b64Decode_b64Rounds fresh input⟩
  · intro text present canonical
    exact b64Encode_b64Decode fresh present canonical

/-- Two bytes leave one padding character in both directions. -/
theorem b64_roundTrip_twoBytes :
    (∃ text, b64Encode [0x4D, 0x61] = some text ∧ text.length = 4 ∧
      ∃ decoding, b64Decode (fun _ => 0) text = some decoding ∧
        decoding.out.slice 0 decoding.outlen = [0x4D, 0x61]) ∧
      ∃ decoding, b64Decode (fun _ => 0) "TWE=".toList = some decoding ∧
        b64Encode (decoding.out.slice 0 decoding.outlen) = some "TWE=".toList := by
  obtain ⟨forward, backward⟩ := b64_roundTrip (fun _ => 0)
  constructor
  · obtain ⟨text, encoded, -, length, -, -, decoding, decoded, -, same⟩ :=
      forward ⟨[0x4D, 0x61], by decide⟩ (List.cons_ne_nil _ _)
    exact ⟨text, encoded, length, decoding, decoded, same⟩
  · have canonical : Canonical "TWE=".toList := by
      have encoded : b64Rounds [0x4D, 0x61] = "TWE=".toList := by decide +kernel
      rw [← encoded]
      exact b64Rounds_canonical _
    exact backward ⟨"TWE=".toList, by decide, by decide⟩ (List.cons_ne_nil _ _) canonical

end SchcWork.Platform
