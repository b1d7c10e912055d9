import Mathlib.Data.List.Basic
import Mathlib.Tactic.Common

namespace DuplexCipher

/-- The key stream covers a text that is not longer. -/
def mask (stream text : List UInt8) : List UInt8 := List.zipWith (· ^^^ ·) text stream

/-- A duplex cipher draws one block of key stream from each state and absorbs the text of the block. The last text of
a message is shorter than a block. -/
structure Duplex (State : Type) where
  rate : Nat
  positive : 0 < rate
  keystream : State → List UInt8
  covers : ∀ state, (keystream state).length = rate
  absorbBlock : State → List UInt8 → State
  absorbLast : State → List UInt8 → State

variable {State : Type}

namespace Duplex

variable (cipher : Duplex State)

/-- The first argument counts the full blocks of the text. -/
def encryptBlocks : Nat → State → List UInt8 → List UInt8 × State
  | 0, state, text => (mask (cipher.keystream state) text, cipher.absorbLast state text)
  | blocks + 1, state, text =>
      let block := text.take cipher.rate
      let (rest, final) := encryptBlocks blocks (cipher.absorbBlock state block) (text.drop cipher.rate)
      (mask (cipher.keystream state) block ++ rest, final)

/-- A decryption absorbs the text that it restores. -/
def decryptBlocks : Nat → State → List UInt8 → List UInt8 × State
  | 0, state, ciphertext =>
      let text := mask (cipher.keystream state) ciphertext
      (text, cipher.absorbLast state text)
  | blocks + 1, state, ciphertext =>
      let block := mask (cipher.keystream state) (ciphertext.take cipher.rate)
      let (rest, final) := decryptBlocks blocks (cipher.absorbBlock state block) (ciphertext.drop cipher.rate)
      (block ++ rest, final)

def encrypt (state : State) (text : List UInt8) : List UInt8 × State :=
  cipher.encryptBlocks (text.length / cipher.rate) state text

def decrypt (state : State) (ciphertext : List UInt8) : List UInt8 × State :=
  cipher.decryptBlocks (ciphertext.length / cipher.rate) state ciphertext

/-- The state after a text that is not encrypted. -/
def absorb : Nat → State → List UInt8 → State
  | 0, state, text => cipher.absorbLast state text
  | blocks + 1, state, text =>
      absorb blocks (cipher.absorbBlock state (text.take cipher.rate)) (text.drop cipher.rate)

end Duplex

theorem length_mask {stream text : List UInt8} (short : text.length ≤ stream.length) :
    (mask stream text).length = text.length := by
  rw [mask, List.length_zipWith]
  exact Nat.min_eq_left short

/-- A stream that is applied twice cancels. -/
theorem mask_mask {stream text : List UInt8} (short : text.length ≤ stream.length) :
    mask stream (mask stream text) = text := by
  induction text generalizing stream with
  | nil => rfl
  | cons byte rest ih =>
      cases stream with
      | nil => contradiction
      | cons key others =>
          have tail : mask others (mask others rest) = rest := ih (Nat.le_of_succ_le_succ short)
          have head : byte ^^^ key ^^^ key = byte := by rw [UInt8.xor_assoc, UInt8.xor_self, UInt8.xor_zero]
          change (byte ^^^ key ^^^ key) :: mask others (mask others rest) = _
          rw [head, tail]

namespace Duplex

variable (cipher : Duplex State)

theorem length_encryptBlocks {blocks : Nat} {text : List UInt8} (state : State)
    (full : blocks * cipher.rate ≤ text.length) (last : text.length ≤ (blocks + 1) * cipher.rate) :
    (cipher.encryptBlocks blocks state text).1.length = text.length := by
  induction blocks generalizing state text with
  | zero =>
      rw [Nat.zero_add, Nat.one_mul] at last
      exact length_mask (by rw [cipher.covers]; exact last)
  | succ blocks ih =>
      rw [Nat.succ_mul] at full last
      have block : (text.take cipher.rate).length = cipher.rate := List.length_take_of_le (by omega)
      have rest := @ih (text.drop cipher.rate) (cipher.absorbBlock state (text.take cipher.rate))
        (by rw [List.length_drop]; omega) (by rw [List.length_drop]; omega)
      rw [encryptBlocks, List.length_append, length_mask (Nat.le_of_eq (block.trans (cipher.covers state).symm)),
        block, rest,
        List.length_drop]
      omega

/-- A decryption restores the text and reaches the state of the encryption. -/
theorem decryptBlocks_encryptBlocks {blocks : Nat} {text : List UInt8} (state : State)
    (full : blocks * cipher.rate ≤ text.length) (last : text.length ≤ (blocks + 1) * cipher.rate) :
    cipher.decryptBlocks blocks state (cipher.encryptBlocks blocks state text).1 =
      (text, (cipher.encryptBlocks blocks state text).2) := by
  induction blocks generalizing state text with
  | zero =>
      rw [Nat.zero_add, Nat.one_mul] at last
      have cancelled : mask (cipher.keystream state) (mask (cipher.keystream state) text) = text :=
        mask_mask (by rw [cipher.covers]; exact last)
      simp only [encryptBlocks, decryptBlocks, cancelled]
  | succ blocks ih =>
      rw [Nat.succ_mul] at full last
      have block : (text.take cipher.rate).length = cipher.rate := List.length_take_of_le (by omega)
      have covered : (text.take cipher.rate).length ≤ (cipher.keystream state).length :=
        Nat.le_of_eq (block.trans (cipher.covers state).symm)
      have masked : (mask (cipher.keystream state) (text.take cipher.rate)).length = cipher.rate := by
        rw [length_mask covered, block]
      have rest := @ih (text.drop cipher.rate) (cipher.absorbBlock state (text.take cipher.rate))
        (by rw [List.length_drop]; omega) (by rw [List.length_drop]; omega)
      simp only [encryptBlocks, decryptBlocks, List.take_left' masked, List.drop_left' masked, mask_mask covered, rest,
        List.take_append_drop]

theorem blocks_bounds (text : List UInt8) : text.length / cipher.rate * cipher.rate ≤ text.length ∧
    text.length ≤ (text.length / cipher.rate + 1) * cipher.rate := by
  have split := Nat.div_add_mod' text.length cipher.rate
  have remainder := Nat.mod_lt text.length cipher.positive
  rw [Nat.succ_mul]
  omega

@[simp] theorem length_encrypt (state : State) (text : List UInt8) :
    (cipher.encrypt state text).1.length = text.length := by
  obtain ⟨full, last⟩ := cipher.blocks_bounds text
  exact cipher.length_encryptBlocks state full last

/-- A decryption of an encrypted text restores the text and reaches the same state. -/
theorem decrypt_encrypt (state : State) (text : List UInt8) :
    cipher.decrypt state (cipher.encrypt state text).1 = (text, (cipher.encrypt state text).2) := by
  obtain ⟨full, last⟩ := cipher.blocks_bounds text
  rw [decrypt, length_encrypt]
  exact cipher.decryptBlocks_encryptBlocks state full last

end Duplex

end DuplexCipher
