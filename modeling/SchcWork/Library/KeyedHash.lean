import Mathlib.Data.List.Basic
import Mathlib.Tactic.Common

namespace KeyedHash

/-- A key that is longer than a block is hashed, and the block is padded with zeros. -/
def keyBlock (hash : List UInt8 → List UInt8) (blockSize : Nat) (key : List UInt8) : List UInt8 :=
  let short := if blockSize < key.length then hash key else key
  short ++ List.replicate (blockSize - short.length) 0

def innerPad (hash : List UInt8 → List UInt8) (blockSize : Nat) (key : List UInt8) : List UInt8 :=
  (keyBlock hash blockSize key).map (· ^^^ 0x36)

def outerPad (hash : List UInt8 → List UInt8) (blockSize : Nat) (key : List UInt8) : List UInt8 :=
  (keyBlock hash blockSize key).map (· ^^^ 0x5c)

def hmac (hash : List UInt8 → List UInt8) (blockSize : Nat) (key message : List UInt8) : List UInt8 :=
  hash (outerPad hash blockSize key ++ hash (innerPad hash blockSize key ++ message))

/-- This is the block `T(count)` of the expansion. -/
def expandBlock (mac : List UInt8 → List UInt8) (info : List UInt8) : Nat → List UInt8
  | 0 => []
  | count + 1 => mac (expandBlock mac info count ++ info ++ [UInt8.ofNat (count + 1)])

/-- These are the first blocks of the expansion in order. -/
def expandStream (mac : List UInt8 → List UInt8) (info : List UInt8) : Nat → List UInt8
  | 0 => []
  | count + 1 => expandStream mac info count ++ expandBlock mac info (count + 1)

theorem length_keyBlock {hash : List UInt8 → List UInt8} {blockSize : Nat}
    (digest : ∀ message, (hash message).length ≤ blockSize) (key : List UInt8) :
    (keyBlock hash blockSize key).length = blockSize := by
  have bound := digest key
  simp only [keyBlock, List.length_append, List.length_replicate]
  split <;> omega

theorem length_innerPad {hash : List UInt8 → List UInt8} {blockSize : Nat}
    (digest : ∀ message, (hash message).length ≤ blockSize) (key : List UInt8) :
    (innerPad hash blockSize key).length = blockSize := by
  rw [innerPad, List.length_map, length_keyBlock digest]

theorem length_outerPad {hash : List UInt8 → List UInt8} {blockSize : Nat}
    (digest : ∀ message, (hash message).length ≤ blockSize) (key : List UInt8) :
    (outerPad hash blockSize key).length = blockSize := by
  rw [outerPad, List.length_map, length_keyBlock digest]

theorem length_expandStream {mac : List UInt8 → List UInt8} {size : Nat}
    (tag : ∀ message, (mac message).length = size) (info : List UInt8) (count : Nat) :
    (expandStream mac info count).length = count * size := by
  induction count with
  | zero => simp [expandStream]
  | succ count ih => rw [expandStream, List.length_append, ih, expandBlock, tag, Nat.succ_mul]

end KeyedHash
