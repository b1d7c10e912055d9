import SchcWork.Library.Memory
import SchcWork.Ascon.Hmac

namespace SchcWork.Ascon

open KeyedHash

inductive HashAlg where
  | sha256
  | asconHash256
  deriving Repr, DecidableEq

/-- The 32-bit sum may wrap, and the eight-bit variable keeps the low byte of the block count. -/
def hkdfIterations (outLen : Nat) : Nat := (outLen + asconHashSize - 1) % 2 ^ 32 / asconHashSize % 2 ^ 8

/-- The 32-bit difference is the rest of the output from block `i` on. -/
def hkdfCopyLen (outLen i : Nat) : Nat :=
  if (outLen + 2 ^ 32 + asconHashSize - i * asconHashSize) % 2 ^ 32 < asconHashSize then outLen % asconHashSize
  else asconHashSize

/-- The loop runs while `i <= iterations`, and `i++` wraps at eight bits. -/
def hkdfExpandLoop (hmac : List UInt8 → List UInt8 → MacReply) (prk info : List UInt8)
    (outPtr outLen iterations : Nat) : Nat → Nat → List UInt8 → ByteMemory → Option (CryptoErr × ByteMemory)
  | 0, _, _, _ => none
  | fuel + 1, i, t, memory =>
      if iterations < i then some (.ok, memory)
      else
        let msg := (if 1 < i then t else []) ++ info ++ [UInt8.ofNat i]
        let reply := hmac prk msg
        if reply.code ≠ 0 then some (.hkdfFailed, memory)
        else
          let copied := reply.out.take (hkdfCopyLen outLen i)
          let memory := memory.store (outPtr + i * asconHashSize - asconHashSize) copied
          hkdfExpandLoop hmac prk info outPtr outLen iterations fuel ((i + 1) % 2 ^ 8) reply.out memory

def hkdfExpand (hmac : List UInt8 → List UInt8 → MacReply) (alg : HashAlg) (prk info : List UInt8)
    (outPtr outLen : Nat) (memory : ByteMemory) (fuel : Nat) : Option (CryptoErr × ByteMemory) :=
  if alg ≠ .asconHash256 then some (.cryptoOperationNotImplemented, memory)
  else
    let iterations := hkdfIterations outLen
    if 255 < iterations then some (.hkdfFailed, memory)
    else
      hkdfExpandLoop hmac prk info outPtr outLen iterations fuel 1 (List.replicate asconHashSize 0) memory

/-- These are the first bytes of the expansion stream. -/
def outputKeyingMaterial (hmac : List UInt8 → List UInt8 → MacReply) (prk info : List UInt8) (outLen : Nat) :
    List UInt8 :=
  (expandStream (fun msg => (hmac prk msg).out) info ((outLen + 31) / 32)).take outLen

section Loop

variable {hmac : List UInt8 → List UInt8 → MacReply}
variable {prk info : List UInt8} {outPtr outLen : Nat} {memory : ByteMemory}

/-- Up to 254 blocks the counter is exact. -/
theorem hkdfIterations_eq (fits : outLen ≤ 254 * 32) : hkdfIterations outLen = (outLen + 31) / 32 := by
  unfold hkdfIterations asconHashSize
  omega

/-- The last block copies what is left, and every other block is copied whole. -/
theorem hkdfCopyLen_eq {done : Nat} (fits : outLen ≤ 254 * 32) (more : done * 32 < outLen) :
    hkdfCopyLen outLen (done + 1) = min 32 (outLen - done * 32) := by
  unfold hkdfCopyLen asconHashSize
  split <;> omega

/-- One more block extends the copied prefix of the stream. -/
theorem take_expandStream_succ {mac : List UInt8 → List UInt8} (tag : ∀ message, (mac message).length = 32)
    {done : Nat} (fits : outLen ≤ 254 * 32) (more : done * 32 < outLen) :
    (expandStream mac info (done + 1)).take outLen =
      expandStream mac info done ++ (expandBlock mac info (done + 1)).take (hkdfCopyLen outLen (done + 1)) := by
  have prefixLength : (expandStream mac info done).length = done * 32 := length_expandStream tag info done
  have block : (expandBlock mac info (done + 1)).length = 32 := tag _
  rw [expandStream, List.take_append, prefixLength, hkdfCopyLen_eq fits more,
    List.take_of_length_le (l := expandStream mac info done) (by omega)]
  congr 1
  rcases Nat.le_total 32 (outLen - done * 32) with whole | part
  · rw [Nat.min_eq_left whole, List.take_of_length_le (by omega), List.take_of_length_le (by omega)]
  · rw [Nat.min_eq_right part]

/-- After `done` blocks the loop holds the last block and completes the stream. -/
theorem hkdfExpandLoop_run (returnsZero : ∀ key msg, (hmac key msg).code = 0) (fits : outLen ≤ 254 * 32)
    (remaining done fuel : Nat) (t : List UInt8) (count : done + remaining = (outLen + 31) / 32)
    (enough : remaining < fuel)
    (carried : (if 1 < done + 1 then t else []) = expandBlock (fun msg => (hmac prk msg).out) info done) :
    hkdfExpandLoop hmac prk info outPtr outLen ((outLen + 31) / 32) fuel (done + 1) t
      (memory.store outPtr ((expandStream (fun msg => (hmac prk msg).out) info done).take outLen)) =
      some (.ok, memory.store outPtr (outputKeyingMaterial hmac prk info outLen)) := by
  have tag (message : List UInt8) : ((fun msg => (hmac prk msg).out) message).length = 32 := (hmac prk message).size
  induction remaining generalizing done fuel t with
  | zero =>
      obtain ⟨fuel, rfl⟩ := Nat.exists_eq_add_of_le' enough
      rw [Nat.add_zero] at count
      rw [hkdfExpandLoop, if_pos (by omega), outputKeyingMaterial, count]
  | succ remaining ih =>
      obtain ⟨fuel, rfl⟩ := Nat.exists_eq_add_of_le' (show 1 ≤ fuel by omega)
      have more : done * 32 < outLen := by omega
      have position : outPtr + (done + 1) * asconHashSize - asconHashSize = outPtr + done * 32 := by
        unfold asconHashSize
        omega
      have counter : (done + 1 + 1) % 2 ^ 8 = done + 1 + 1 := Nat.mod_eq_of_lt (by omega)
      have prefixLength := length_expandStream tag info done
      have copied : (expandStream (fun msg => (hmac prk msg).out) info done).take outLen =
          expandStream (fun msg => (hmac prk msg).out) info done := List.take_of_length_le (by omega)
      have block : (hmac prk (expandBlock (fun msg => (hmac prk msg).out) info done ++ info ++
          [UInt8.ofNat (done + 1)])).out = expandBlock (fun msg => (hmac prk msg).out) info (done + 1) := rfl
      rw [hkdfExpandLoop, if_neg (by omega)]
      simp only [carried, returnsZero, ne_eq, not_true_eq_false, if_false, block, counter, position]
      rw [copied, ← prefixLength, ByteMemory.store_append, ← take_expandStream_succ tag fits more]
      exact ih (done + 1) fuel _ (by omega) (by omega) (if_pos (by omega))

/-- Up to 254 blocks the expansion returns the keying material and writes nothing else. -/
theorem hkdfExpand_eq (returnsZero : ∀ key msg, (hmac key msg).code = 0) (fits : outLen ≤ 254 * 32)
    {fuel : Nat} (enough : 256 ≤ fuel) :
    hkdfExpand hmac .asconHash256 prk info outPtr outLen memory fuel =
      some (.ok, memory.store outPtr (outputKeyingMaterial hmac prk info outLen)) := by
  have run := @hkdfExpandLoop_run hmac prk info outPtr outLen memory returnsZero fits
    ((outLen + 31) / 32) 0 fuel (List.replicate asconHashSize 0) (Nat.zero_add _) (by omega) rfl
  rw [expandStream, List.take_nil, ByteMemory.store_nil] at run
  rw [hkdfExpand, if_neg (by decide), hkdfIterations_eq fits]
  dsimp only
  rw [if_neg (by omega), run]

/-- With 255 blocks the counter wraps before it passes the bound, so the loop never ends. -/
theorem hkdfExpandLoop_endless (returnsZero : ∀ key msg, (hmac key msg).code = 0) (fuel i : Nat)
    (inside : i ≤ 255) (t : List UInt8) (memory : ByteMemory) :
    hkdfExpandLoop hmac prk info outPtr outLen 255 fuel i t memory = none := by
  induction fuel generalizing i t memory with
  | zero => rfl
  | succ fuel ih =>
      rw [hkdfExpandLoop, if_neg (by omega)]
      simp only [returnsZero, ne_eq, not_true_eq_false, if_false]
      exact ih ((i + 1) % 2 ^ 8) (by omega) _ _

/-- A loop that ends reports success, whatever it has written. -/
theorem hkdfExpandLoop_ok (returnsZero : ∀ key msg, (hmac key msg).code = 0) {iterations fuel i : Nat}
    {t : List UInt8} {memory : ByteMemory} {reply : CryptoErr × ByteMemory}
    (returned : hkdfExpandLoop hmac prk info outPtr outLen iterations fuel i t memory = some reply) :
    reply.1 = .ok := by
  induction fuel generalizing i t memory with
  | zero => cases returned
  | succ fuel ih =>
      rw [hkdfExpandLoop] at returned
      split at returned
      · rw [← Option.some.inj returned]
      · simp only [returnsZero, ne_eq, not_true_eq_false, if_false] at returned
        exact ih returned

/-- The guard of the block count never holds. -/
theorem hkdfExpand_eq_loop (outLen : Nat) (memory : ByteMemory) (fuel : Nat) :
    hkdfExpand hmac .asconHash256 prk info outPtr outLen memory fuel =
      hkdfExpandLoop hmac prk info outPtr outLen (hkdfIterations outLen) fuel 1 (List.replicate asconHashSize 0)
        memory := by
  have bound : hkdfIterations outLen ≤ 255 := by
    unfold hkdfIterations
    omega
  rw [hkdfExpand, if_neg (by decide)]
  dsimp only
  rw [if_neg (by omega)]

theorem hkdfExpand_endless (returnsZero : ∀ key msg, (hmac key msg).code = 0) (lower : 254 * 32 < outLen)
    (upper : outLen ≤ 255 * 32) (fuel : Nat) :
    hkdfExpand hmac .asconHash256 prk info outPtr outLen memory fuel = none := by
  have wrapped : hkdfIterations outLen = 255 := by
    unfold hkdfIterations asconHashSize
    omega
  rw [hkdfExpand_eq_loop, wrapped]
  exact hkdfExpandLoop_endless returnsZero fuel 1 (by decide) _ _

end Loop

/-- The expansion fills the output with the first bytes of the stream and writes no other byte. -/
theorem hkdfExpand_fills (hmac : List UInt8 → List UInt8 → MacReply)
    (returnsZero : ∀ key msg, (hmac key msg).code = 0) (prk info : List UInt8) (outPtr outLen : Nat)
    (memory : ByteMemory) (fits : outLen ≤ 254 * 32) (fuel : Nat) (enough : 256 ≤ fuel) :
    hkdfExpand hmac .asconHash256 prk info outPtr outLen memory fuel =
      some (.ok, memory.store outPtr
        ((expandStream (fun msg => (hmac prk msg).out) info ((outLen + 31) / 32)).take outLen)) :=
  hkdfExpand_eq returnsZero fits enough

theorem hkdfExpand_fills_key :
    hkdfExpand (hmacAscon asconHash256) .asconHash256 [1, 2] [3] 0 40 (fun _ => 0) 256 =
      some (.ok, ByteMemory.store (fun _ => 0) 0
        ((expandStream (fun msg => (hmacAscon asconHash256 [1, 2] msg).out) [3] 2).take 40)) :=
  hkdfExpand_fills (hmacAscon asconHash256) (fun _ _ => rfl) [1, 2] [3] 0 40 (fun _ => 0) (by decide) 256 (by decide)

/-- A call terminates, fills the output up to 255 blocks, and rejects a longer output untouched. -/
def RespectsLimit (hmac : List UInt8 → List UInt8 → MacReply) (prk info : List UInt8) (outPtr outLen : Nat)
    (memory : ByteMemory) : Prop :=
  ∃ fuel, hkdfExpand hmac .asconHash256 prk info outPtr outLen memory fuel =
    some (if outLen ≤ 255 * 32 then (.ok, memory.store outPtr (outputKeyingMaterial hmac prk info outLen))
      else (.hkdfFailed, memory))

/-- A full output never returns, and one more byte is reported as a success without any output. -/
theorem largestOutput_unlimited :
    ¬RespectsLimit (hmacAscon asconHash256) [1, 2] [3] 0 (255 * 32) (fun _ => 0) ∧
      hkdfExpand (hmacAscon asconHash256) .asconHash256 [1, 2] [3] 0 (255 * 32 + 1) (fun _ => 0) 1 =
        some (.ok, fun _ => 0) := by
  constructor
  · rintro ⟨fuel, returned⟩
    rw [hkdfExpand_endless (hmacAscon_code asconHash256) (by decide) (by decide)] at returned
    cases returned
  · rfl

/-- The expansion respects the limit exactly up to 254 blocks. -/
theorem respectsLimit_iff (ascon : AsconC) (prk info : List UInt8) (outPtr outLen : Nat) (memory : ByteMemory) :
    RespectsLimit (hmacAscon ascon) prk info outPtr outLen memory ↔ outLen ≤ 254 * 32 := by
  have returnsZero := hmacAscon_code ascon
  constructor
  · rintro ⟨fuel, returned⟩
    by_contra long
    by_cases limit : outLen ≤ 255 * 32
    · rw [hkdfExpand_endless returnsZero (by omega) limit] at returned
      cases returned
    · rw [hkdfExpand_eq_loop] at returned
      have success := hkdfExpandLoop_ok returnsZero returned
      rw [if_neg limit] at success
      cases success
  · intro fits
    refine ⟨256, ?_⟩
    rw [hkdfExpand_eq returnsZero fits (Nat.le_refl _), if_pos (by omega)]

/-- A null pointer is a salt of its own. -/
abbrev Salt := Option (List UInt8)

/-- A missing salt is a string of zero bytes. -/
def extractKey (salt : Salt) : List UInt8 :=
  match salt with
  | none | some [] => List.replicate asconHashSize 0
  | some bytes => bytes

/-- The pseudorandom key is written before the code of the HMAC is tested. -/
def hkdfExtract (hmac : List UInt8 → List UInt8 → MacReply) (alg : HashAlg) (salt : Salt) (ikm out : List UInt8) :
    CryptoErr × List UInt8 :=
  if alg ≠ .asconHash256 then (.cryptoOperationNotImplemented, out)
  else
    let reply := hmac (extractKey salt) ikm
    if reply.code ≠ 0 then (.hkdfFailed, reply.out) else (.ok, reply.out)

def hkdfAsconHash256 (hmac : List UInt8 → List UInt8 → MacReply) (masterSecret : List UInt8) (masterSalt : Salt)
    (info : List UInt8) (outPtr outLen : Nat) (memory : ByteMemory) (fuel : Nat) :
    Option (CryptoErr × ByteMemory) :=
  let extracted := hkdfExtract hmac .asconHash256 masterSalt masterSecret (List.replicate asconHashSize 0)
  if extracted.1 ≠ .ok then some (extracted.1, memory)
  else hkdfExpand hmac .asconHash256 extracted.2 info outPtr outLen memory fuel

/-- Both steps together fill the output with the stream under the extracted key. -/
theorem hkdfAsconHash256_fills {hmac : List UInt8 → List UInt8 → MacReply}
    (returnsZero : ∀ key msg, (hmac key msg).code = 0) (masterSecret : List UInt8) (masterSalt : Salt)
    (info : List UInt8) {outPtr outLen : Nat} (memory : ByteMemory) (fits : outLen ≤ 254 * 32) {fuel : Nat}
    (enough : 256 ≤ fuel) :
    hkdfAsconHash256 hmac masterSecret masterSalt info outPtr outLen memory fuel =
      some (.ok, memory.store outPtr
        (outputKeyingMaterial hmac (hmac (extractKey masterSalt) masterSecret).out info outLen)) := by
  have extracted : hkdfExtract hmac .asconHash256 masterSalt masterSecret (List.replicate asconHashSize 0) =
      (.ok, (hmac (extractKey masterSalt) masterSecret).out) := by
    rw [hkdfExtract, if_neg (not_not.mpr rfl)]
    exact if_neg (not_not.mpr (returnsZero _ _))
  rw [hkdfAsconHash256, extracted]
  exact hkdfExpand_eq returnsZero fits enough

end SchcWork.Ascon
