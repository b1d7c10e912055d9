import Mathlib.Algebra.Ring.Nat
import Mathlib.Data.List.Basic
import Mathlib.Tactic.Common

namespace BitString

/-- A bit string starts with the most significant bit. -/
abbrev Bits := List Bool

def wordBits {width : Nat} (word : BitVec width) : Bits := List.ofFn word.getMsb

def bitsWord (width : Nat) (bits : Bits) : BitVec width :=
  (BitVec.ofBoolListBE bits).setWidth width

@[simp] theorem wordBits_length {width : Nat} (word : BitVec width) : (wordBits word).length = width := by
  simp [wordBits]

theorem wordBits_getElem {width : Nat} (word : BitVec width) (index : Nat)
    (inside : index < (wordBits word).length) : (wordBits word)[index] = word.getMsbD index := by
  rw [wordBits_length] at inside
  have position : width - 1 - index < width := by omega
  simp [wordBits, inside, BitVec.getMsbD, BitVec.getMsb, BitVec.getLsbD_eq_getElem position]

/-- The bits of a word give the word again. -/
@[simp] theorem bitsWord_wordBits {width : Nat} (word : BitVec width) : bitsWord width (wordBits word) = word := by
  apply BitVec.eq_of_getMsbD_eq
  intro index inside
  rw [bitsWord, BitVec.getMsbD_setWidth, BitVec.getMsbD_ofBoolListBE]
  simp [inside, wordBits_getElem]

/-- The word of some bits gives the bits again. -/
theorem wordBits_bitsWord {width : Nat} (bits : Bits) (exact : bits.length = width) :
    wordBits (bitsWord width bits) = bits := by
  subst exact
  apply List.ext_getElem
  · rw [wordBits_length]
  · intro index left right
    rw [wordBits_getElem, bitsWord, BitVec.getMsbD_setWidth, BitVec.getMsbD_ofBoolListBE]
    simp [right]

/-- The high word comes first. -/
theorem wordBits_append {first second : Nat} (high : BitVec first) (low : BitVec second) :
    wordBits (high ++ low) = wordBits high ++ wordBits low := by
  apply List.ext_getElem
  · simp only [wordBits_length, List.length_append]
  · intro index _ _
    rw [wordBits_getElem, BitVec.getMsbD_append, List.getElem_append]
    by_cases before : index < first
    · simp [before, wordBits_getElem, show ¬first ≤ index by omega]
    · simp [before, wordBits_getElem, show first ≤ index by omega]

/-- Two words with the same bits are equal. -/
theorem wordBits_injective {width : Nat} {first second : BitVec width}
    (same : wordBits first = wordBits second) : first = second := by
  rw [← bitsWord_wordBits first, same, bitsWord_wordBits]

/-- A word is its high part and its low part. -/
theorem append_extractLsb' (high low : Nat) (word : BitVec (high + low)) :
    word.extractLsb' low high ++ word.extractLsb' 0 low = word := by
  apply BitVec.eq_of_getLsbD_eq
  intro index inside
  rw [BitVec.getLsbD_append, BitVec.getLsbD_extractLsb', BitVec.getLsbD_extractLsb']
  by_cases lower : index < low
  · simp [lower]
  · simp [lower, show index - low < high by omega, show low + (index - low) = index by omega]

/-- A word below `2 ^ low` starts with zero bits. -/
theorem wordBits_take_eq_replicate {width low : Nat} (word : BitVec width) (small : word.toNat < 2 ^ low) :
    (wordBits word).take (width - low) = List.replicate (width - low) false := by
  apply List.ext_getElem
  · simp
  · intro index left right
    rw [List.length_replicate] at right
    rw [List.getElem_take, wordBits_getElem, List.getElem_replicate, BitVec.getMsbD]
    have high : word.toNat.testBit (width - 1 - index) = false :=
      Nat.testBit_lt_two_pow (Nat.lt_of_lt_of_le small (Nat.pow_le_pow_right (by decide) (by omega)))
    simp [BitVec.getLsbD, high]

/-- Two bytes in network order give one word. -/
theorem shiftLeft_or_eq_append (high low : UInt8) :
    ((high.toUInt16 <<< 8) ||| low.toUInt16).toBitVec = high.toBitVec ++ low.toBitVec := by
  apply BitVec.eq_of_getLsbD_eq
  intro index inside
  rw [BitVec.getLsbD_append]
  by_cases lower : index < 8
  · simp [lower, inside]
  · have beyond : low.toBitVec.getLsbD index = false := BitVec.getLsbD_of_ge _ _ (by omega)
    simp [lower, inside, beyond]

def byteBits (byte : UInt8) : Bits := wordBits byte.toBitVec

def bytesBits (bytes : List UInt8) : Bits := bytes.flatMap byteBits

/-- The reader drops the last bits when they do not fill a byte. -/
def bitsBytes : Bits → List UInt8
  | b0 :: b1 :: b2 :: b3 :: b4 :: b5 :: b6 :: b7 :: rest =>
      ⟨bitsWord 8 [b0, b1, b2, b3, b4, b5, b6, b7]⟩ :: bitsBytes rest
  | _ => []

@[simp] theorem byteBits_length (byte : UInt8) : (byteBits byte).length = 8 := wordBits_length _

@[simp] theorem bytesBits_cons (byte : UInt8) (rest : List UInt8) :
    bytesBits (byte :: rest) = byteBits byte ++ bytesBits rest := List.flatMap_cons

@[simp] theorem bytesBits_length (bytes : List UInt8) : (bytesBits bytes).length = 8 * bytes.length := by
  induction bytes with
  | nil => rfl
  | cons byte rest ih => simp [ih]; omega

/-- The reader takes one byte from the bits of this byte. -/
theorem bitsBytes_byteBits (byte : UInt8) (rest : Bits) :
    bitsBytes (byteBits byte ++ rest) = byte :: bitsBytes rest := by
  have size := byteBits_length byte
  have value : (⟨bitsWord 8 (byteBits byte)⟩ : UInt8) = byte := congrArg UInt8.ofBitVec (bitsWord_wordBits _)
  match bits : byteBits byte, size with
  | [b0, b1, b2, b3, b4, b5, b6, b7], _ =>
      rw [bits] at value
      change _ :: bitsBytes rest = _
      rw [value]

/-- The bits of some bytes give the bytes again, and fewer than eight other bits are dropped. -/
theorem bitsBytes_bytesBits_append (bytes : List UInt8) (spare : Bits) (short : spare.length < 8) :
    bitsBytes (bytesBits bytes ++ spare) = bytes := by
  induction bytes with
  | nil =>
      match spare, short with
      | [], _ | [_], _ | [_, _], _ | [_, _, _], _ | [_, _, _, _], _ | [_, _, _, _, _], _
      | [_, _, _, _, _, _], _ | [_, _, _, _, _, _, _], _ => rfl
  | cons byte rest ih =>
      rw [bytesBits_cons, List.append_assoc, bitsBytes_byteBits, ih]

@[simp] theorem bitsBytes_bytesBits (bytes : List UInt8) : bitsBytes (bytesBits bytes) = bytes := by
  have exact := bitsBytes_bytesBits_append bytes [] (by decide)
  rwa [List.append_nil] at exact

/-- The bits of whole bytes give the bits again. -/
theorem bytesBits_bitsBytes {count : Nat} (bits : Bits) (whole : bits.length = 8 * count) :
    bytesBits (bitsBytes bits) = bits := by
  induction count generalizing bits with
  | zero =>
      rw [List.length_eq_zero_iff.mp whole]
      rfl
  | succ count ih =>
      have byte : byteBits ⟨bitsWord 8 (bits.take 8)⟩ = bits.take 8 :=
        wordBits_bitsWord _ (by rw [List.length_take]; omega)
      have split : byteBits ⟨bitsWord 8 (bits.take 8)⟩ ++ bits.drop 8 = bits := by
        rw [byte, List.take_append_drop]
      have rest := ih (bits.drop 8) (by rw [List.length_drop]; omega)
      rw [← split, bitsBytes_byteBits, bytesBits_cons, rest]

theorem length_bitsBytes {count : Nat} {bits : Bits} (whole : bits.length = 8 * count) :
    (bitsBytes bits).length = count := by
  have same := congrArg List.length (bytesBits_bitsBytes bits whole)
  rw [bytesBits_length] at same
  omega

/-- Whole bytes come first. -/
theorem bitsBytes_append {count : Nat} {first : Bits} (whole : first.length = 8 * count) (rest : Bits) :
    bitsBytes (first ++ rest) = bitsBytes first ++ bitsBytes rest := by
  have bytes (front : List UInt8) : bitsBytes (bytesBits front ++ rest) = front ++ bitsBytes rest := by
    induction front with
    | nil => rfl
    | cons byte front ih => rw [bytesBits_cons, List.append_assoc, bitsBytes_byteBits, ih, List.cons_append]
  rw [← bytes, bytesBits_bitsBytes first whole]

/-- These are the bytes of a word in network order. -/
def wordBytes {width : Nat} (word : BitVec width) : List UInt8 := bitsBytes (wordBits word)

theorem length_wordBytes {width : Nat} (word : BitVec width) (count : Nat) (whole : width = 8 * count) :
    (wordBytes word).length = count :=
  length_bitsBytes ((wordBits_length word).trans whole)

theorem wordBytes_injective {width : Nat} (count : Nat) (whole : width = 8 * count) {first second : BitVec width}
    (same : wordBytes first = wordBytes second) : first = second := by
  have bits := congrArg bytesBits same
  rw [wordBytes, wordBytes, bytesBits_bitsBytes _ ((wordBits_length first).trans whole),
    bytesBits_bitsBytes _ ((wordBits_length second).trans whole)] at bits
  exact wordBits_injective bits

theorem wordBytes_append {first second : Nat} (high : BitVec first) (low : BitVec second) (count : Nat)
    (whole : first = 8 * count) : wordBytes (high ++ low) = wordBytes high ++ wordBytes low := by
  rw [wordBytes, wordBits_append, bitsBytes_append ((wordBits_length high).trans whole)]
  rfl

theorem bitsBytes_wordBits_append {width : Nat} (word : BitVec width) (count : Nat) (whole : width = 8 * count)
    (rest : Bits) : bitsBytes (wordBits word ++ rest) = wordBytes word ++ bitsBytes rest :=
  bitsBytes_append ((wordBits_length word).trans whole) rest

theorem wordBytes_byte (byte : BitVec 8) : wordBytes byte = [⟨byte⟩] := by
  have single := bitsBytes_byteBits ⟨byte⟩ []
  rw [List.append_nil] at single
  exact single

/-- The reader takes a fixed number of bits. -/
def takeBits (size : Nat) (bits : Bits) : Option (Bits × Bits) :=
  if size ≤ bits.length then some (bits.take size, bits.drop size) else none

@[simp] theorem takeBits_append {size : Nat} (first rest : Bits) (exact : first.length = size) :
    takeBits size (first ++ rest) = some (first, rest) := by
  subst exact
  simp [takeBits]

def numberBits (width number : Nat) : Bits := wordBits (BitVec.ofNat width number)

def takeNumber (width : Nat) (bits : Bits) : Option (Nat × Bits) :=
  (takeBits width bits).map fun (first, rest) => ((bitsWord width first).toNat, rest)

@[simp] theorem numberBits_length (width number : Nat) : (numberBits width number).length = width :=
  wordBits_length _

/-- A number that fits its width is read again. -/
theorem takeNumber_numberBits {width number : Nat} (fits : number < 2 ^ width) (rest : Bits) :
    takeNumber width (numberBits width number ++ rest) = some (number, rest) := by
  rw [takeNumber, takeBits_append _ _ (numberBits_length width number)]
  simp [numberBits, Nat.mod_eq_of_lt fits]

/-- A size takes four bits, twelve bits or 28 bits. -/
def sizeBits (size : Nat) : Bits :=
  if size < 15 then numberBits 4 size
  else if size < 255 then numberBits 4 15 ++ numberBits 8 size
  else numberBits 4 15 ++ numberBits 8 255 ++ numberBits 16 size

def takeSize (bits : Bits) : Option (Nat × Bits) := do
  let (short, afterShort) ← takeNumber 4 bits
  if short < 15 then return (short, afterShort)
  let (middle, afterMiddle) ← takeNumber 8 afterShort
  if middle < 255 then return (middle, afterMiddle)
  takeNumber 16 afterMiddle

/-- Each size below `2 ^ 16` is read again. -/
theorem takeSize_sizeBits {size : Nat} (fits : size < 2 ^ 16) (rest : Bits) :
    takeSize (sizeBits size ++ rest) = some (size, rest) := by
  unfold sizeBits takeSize
  split
  next short =>
      rw [takeNumber_numberBits (by omega)]
      simp [short]
  next long =>
      split
      next middle =>
          rw [List.append_assoc, takeNumber_numberBits (by decide)]
          simp [takeNumber_numberBits (show size < 2 ^ 8 by omega), middle]
      next =>
          rw [List.append_assoc, List.append_assoc, takeNumber_numberBits (by decide)]
          simp [takeNumber_numberBits (show 255 < 2 ^ 8 by decide), takeNumber_numberBits fits]

end BitString
