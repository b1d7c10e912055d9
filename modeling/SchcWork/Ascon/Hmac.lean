import SchcWork.Library.Sponge
import SchcWork.Library.KeyedHash

namespace SchcWork.Ascon

open ByteSponge KeyedHash

/-- These are the error codes that the crypto functions of the integration return. -/
inductive CryptoErr where
  | ok
  | aeadFailed
  | bufferToSmall
  | oscoreInvalidAlgorithmAead
  | cryptoOperationNotImplemented
  | hkdfFailed
  deriving Repr, DecidableEq

/-- The words `x[1]` to `x[4]` are the capacity of the state. -/
@[ext]
structure AsconCapacity where
  x1 : UInt64
  x2 : UInt64
  x3 : UInt64
  x4 : UInt64
  deriving Repr, DecidableEq

abbrev AsconState := State AsconCapacity

/-- The library provides a permutation and the state that `ascon_inithash` sets. -/
structure AsconC where
  permute : AsconState → AsconState
  inithash : AsconState

def asconHashSize : Nat := 32
def asconHmacBlockSize : Nat := 32

/-- Every absorb call pads its own input. -/
def AsconC.asconAbsorb (ascon : AsconC) (state : AsconState) (input : List UInt8) : AsconState :=
  absorb ascon.permute state input

def AsconC.asconSqueeze (ascon : AsconC) (state : AsconState) (size : Nat) : List UInt8 :=
  squeeze ascon.permute state size

/-- This is the hash function with one absorb call on the whole message. -/
def AsconC.hash (ascon : AsconC) (message : List UInt8) : List UInt8 :=
  ascon.asconSqueeze (ascon.asconAbsorb ascon.inithash message) asconHashSize

/-- A MAC call returns a code and fills one block. -/
structure MacReply where
  code : Int
  out : List UInt8
  size : out.length = asconHashSize

def hmacAscon (ascon : AsconC) (key msg : List UInt8) : MacReply :=
  let k0 :=
    if asconHmacBlockSize < key.length then
      ascon.asconSqueeze (ascon.asconAbsorb ascon.inithash key) asconHashSize
    else key ++ List.replicate (asconHmacBlockSize - key.length) 0
  let kIpad := k0.map (· ^^^ 0x36)
  let kOpad := k0.map (· ^^^ 0x5c)
  let s := ascon.asconAbsorb ascon.inithash kIpad
  let s := ascon.asconAbsorb s msg
  let innerHash := ascon.asconSqueeze s asconHashSize
  let s := ascon.asconAbsorb ascon.inithash kOpad
  let s := ascon.asconAbsorb s innerHash
  { code := 0
    out := ascon.asconSqueeze s asconHashSize
    size := length_squeeze _ _ _ }

/-- The hash of a split input squeezes the state that two absorb calls leave. -/
def AsconC.splitHash (ascon : AsconC) (first second : List UInt8) : List UInt8 :=
  ascon.asconSqueeze (ascon.asconAbsorb (ascon.asconAbsorb ascon.inithash first) second) asconHashSize

theorem length_hash (ascon : AsconC) (message : List UInt8) : (ascon.hash message).length = 32 :=
  length_squeeze _ _ _

/-- The code normalizes the key as the construction does. -/
theorem hmacAscon_eq_splitHash (ascon : AsconC) (key msg : List UInt8) :
    (hmacAscon ascon key msg).out =
      ascon.splitHash (outerPad ascon.hash 32 key) (ascon.splitHash (innerPad ascon.hash 32 key) msg) := by
  have block : (if asconHmacBlockSize < key.length then
      ascon.asconSqueeze (ascon.asconAbsorb ascon.inithash key) asconHashSize
      else key ++ List.replicate (asconHmacBlockSize - key.length) 0) = keyBlock ascon.hash 32 key := by
    unfold keyBlock
    by_cases long : 32 < key.length
    · simp only [long, if_true, asconHmacBlockSize, length_hash, Nat.sub_self, List.replicate_zero, List.append_nil]
      rfl
    · simp only [long, if_false, asconHmacBlockSize]
  simp only [hmacAscon, block]
  rfl

theorem hmacAscon_code (ascon : AsconC) (key msg : List UInt8) : (hmacAscon ascon key msg).code = 0 := rfl

/-- A split input hashes as the joined input with one flipped bit. -/
theorem splitHash_eq (ascon : AsconC) (first : List UInt8) {second : List UInt8} (full : first.length % 8 = 0)
    (nonempty : second ≠ []) : ascon.splitHash first second = ascon.hash (first ++ flipFirst second) := by
  simp only [AsconC.splitHash, AsconC.hash, AsconC.asconAbsorb, absorb_twice ascon.permute _ first full nonempty]

/-- With the identity as its permutation, a library separates the code from the construction everywhere. -/
theorem hmacAscon_id_ne (start : AsconState) (key msg : List UInt8) :
    (hmacAscon ⟨id, start⟩ key msg).out ≠ hmac (AsconC.hash ⟨id, start⟩) 32 key msg := by
  have even : (outerPad (AsconC.hash ⟨id, start⟩) 32 key).length % 8 = 0 := by
    rw [length_outerPad fun message => Nat.le_of_eq (length_hash _ message)]
  have outer (output : AsconState) :
      absorb id (absorb id start (outerPad (AsconC.hash ⟨id, start⟩) 32 key)) (squeeze id output 32) =
        (absorb id start (outerPad (AsconC.hash ⟨id, start⟩) 32 key ++ squeeze id output 32)).mix 1 := by
    rw [absorb_blocks id start _ even, absorb_append id start _ _ even, absorb_id_mix]
  rw [hmacAscon_eq_splitHash]
  intro same
  -- Both digests cancel under the identity, so only the extra padding bit remains.
  change squeeze id (absorb id (absorb id start _) (squeeze id _ 32)) 32 =
    squeeze id (absorb id start (_ ++ squeeze id _ 32)) 32 at same
  rw [outer, absorb_append id start _ _ even, absorb_append id start _ _ even, absorb_id_digest,
    absorb_id_digest] at same
  exact squeeze_id_mix_one_ne _ same

/-- For no key and message do the stated properties of the library make the code compute HMAC. A library
with an injective permutation always hashes another state, and the code hashes strings with a flipped bit. -/
theorem hmacAscon_neverHmac (key msg : List UInt8) :
    (∀ ascon : AsconC, Function.Injective ascon.permute →
      ascon.asconAbsorb (ascon.asconAbsorb ascon.inithash (innerPad ascon.hash 32 key)) msg ≠
        ascon.asconAbsorb ascon.inithash (innerPad ascon.hash 32 key ++ msg)) ∧
    (∀ ascon : AsconC, msg ≠ [] →
      (hmacAscon ascon key msg).out = ascon.hash (outerPad ascon.hash 32 key ++
        flipFirst (ascon.hash (innerPad ascon.hash 32 key ++ flipFirst msg)))) ∧
    ¬∀ ascon : AsconC, Function.Bijective ascon.permute →
      (hmacAscon ascon key msg).out = hmac ascon.hash 32 key msg := by
  have inner (ascon : AsconC) : (innerPad ascon.hash 32 key).length % 8 = 0 := by
    rw [length_innerPad fun message => Nat.le_of_eq (length_hash ascon message)]
  have outer (ascon : AsconC) : (outerPad ascon.hash 32 key).length % 8 = 0 := by
    rw [length_outerPad fun message => Nat.le_of_eq (length_hash ascon message)]
  refine ⟨?_, ?_, ?_⟩
  · intro ascon injective
    exact absorb_twice_ne injective _ _ _ (inner ascon)
  · intro ascon nonempty
    have digest (message : List UInt8) : ascon.hash message ≠ [] := by
      apply List.ne_nil_of_length_pos
      rw [length_hash]
      decide
    rw [hmacAscon_eq_splitHash, splitHash_eq ascon _ (inner ascon) nonempty,
      splitHash_eq ascon _ (outer ascon) (digest _)]
  · intro always
    let start : AsconState := ⟨0, ⟨0, 0, 0, 0⟩⟩
    exact hmacAscon_id_ne start key msg (always ⟨id, start⟩ Function.bijective_id)

def rotateRight (word count : UInt64) : UInt64 := (word >>> count) ||| (word <<< (64 - count))

/-- One round adds its constant, applies the substitution layer, and diffuses each word. -/
def asconRound (state : AsconState) (constant : UInt64) : AsconState :=
  let ⟨x1, x2, x3, x4⟩ := state.capacity
  let x0 := state.rate ^^^ x4
  let x4 := x4 ^^^ x3
  let x2 := x2 ^^^ constant ^^^ x1
  let t0 := x0 ^^^ (~~~x1 &&& x2)
  let t1 := x1 ^^^ (~~~x2 &&& x3)
  let t2 := x2 ^^^ (~~~x3 &&& x4)
  let t3 := x3 ^^^ (~~~x4 &&& x0)
  let t4 := x4 ^^^ (~~~x0 &&& x1)
  let x1 := t1 ^^^ t0
  let x0 := t0 ^^^ t4
  let x3 := t3 ^^^ t2
  let x2 := ~~~t2
  { rate := x0 ^^^ rotateRight x0 19 ^^^ rotateRight x0 28
    capacity :=
      { x1 := x1 ^^^ rotateRight x1 61 ^^^ rotateRight x1 39
        x2 := x2 ^^^ rotateRight x2 1 ^^^ rotateRight x2 6
        x3 := x3 ^^^ rotateRight x3 10 ^^^ rotateRight x3 17
        x4 := t4 ^^^ rotateRight t4 7 ^^^ rotateRight t4 41 } }

def asconP12 (state : AsconState) : AsconState :=
  [0xf0, 0xe1, 0xd2, 0xc3, 0xb4, 0xa5, 0x96, 0x87, 0x78, 0x69, 0x5a, 0x4b].foldl asconRound state

def asconHash256 : AsconC := ⟨asconP12, asconP12 ⟨0x0000080100cc0002, ⟨0, 0, 0, 0⟩⟩⟩

/-- This is the published digest of the empty message. -/
example : asconHash256.hash [] =
    [0x0B, 0x3B, 0xE5, 0x85, 0x0F, 0x2F, 0x6B, 0x98, 0xCA, 0xF2, 0x9F, 0x8F, 0xDE, 0xA8, 0x9B, 0x64,
      0xA1, 0xFA, 0x70, 0xAA, 0x24, 0x9B, 0x8F, 0x83, 0x9B, 0xD5, 0x3B, 0xAA, 0x30, 0x4D, 0x92, 0xB2] := by
  decide +kernel

theorem zeroSalt_notHmac :
    let salt : List UInt8 := List.replicate 32 0
    let masterSecret : List UInt8 := [1, 2, 3, 4, 5, 6, 7, 8, 9, 10, 11, 12, 13, 14, 15, 16]
    (hmacAscon asconHash256 salt masterSecret).out ≠ hmac asconHash256.hash 32 salt masterSecret := by
  decide +kernel

end SchcWork.Ascon
