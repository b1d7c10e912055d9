import SchcWork.Library.Duplex
import SchcWork.Worker.Oscore
import SchcWork.Ascon.Hmac

namespace SchcWork.Ascon

open ByteSponge DuplexCipher
open Worker (AeadAlgorithm)

inductive AesOperation where
  | encrypt
  | decrypt
  deriving Repr, DecidableEq

/-- A `struct byte_array` has a pointer and a 32-bit length. -/
structure ByteArray where
  ptr : Nat
  len : Nat
  fits : len < 2 ^ 32

def ByteArray.read (array : ByteArray) (memory : ByteMemory) : List UInt8 := memory.slice array.ptr array.len

def asconKeyBytes : Nat := 16
def asconNonceBytes : Nat := 16

/-- The library encrypts to a ciphertext with a truncated tag and decrypts with the same tag length. -/
structure AsconAead where
  encryptTrunc (m assoc nonce key : List UInt8) (tagBits : Nat) : Int × List UInt8 × List UInt8
  decryptTrunc (t c assoc nonce key : List UInt8) (tagBits : Nat) : Int × List UInt8

/-- Encryption returns a ciphertext and a tag of the stated sizes, and decryption inverts it. -/
structure AsconAead.Lawful (library : AsconAead) : Prop where
  succeeds : ∀ m assoc nonce key tagBits, 0 ≤ (library.encryptTrunc m assoc nonce key tagBits).1
  ciphertextSize : ∀ m assoc nonce key tagBits,
    (library.encryptTrunc m assoc nonce key tagBits).2.1.length = m.length
  tagSize : ∀ m assoc nonce key tagBits, tagBits ≤ 128 →
    (library.encryptTrunc m assoc nonce key tagBits).2.2.length = tagBits / 8
  inverts : ∀ m assoc nonce key tagBits, tagBits ≤ 128 →
    library.decryptTrunc (library.encryptTrunc m assoc nonce key tagBits).2.2
      (library.encryptTrunc m assoc nonce key tagBits).2.1 assoc nonce key tagBits = (0, m)

/-- The arguments keep the order of the source. -/
structure AeadArgs where
  input : ByteArray
  key : ByteArray
  nonce : ByteArray
  aad : ByteArray
  out : ByteArray
  tag : ByteArray

/-- These are the regions that a decryption call takes its ciphertext and its tag from. -/
structure DecryptCall where
  ciphertext : ByteSpan
  tag : ByteSpan
  deriving Repr, DecidableEq

structure AeadOutcome where
  result : CryptoErr
  memory : ByteMemory
  outLen : Nat
  tagLen : Nat
  call : Option DecryptCall

def aeadTagLen : AeadAlgorithm → Option Nat
  | .oscoreAsconaead128 => some 16
  | .oscoreAsconaead128_64 => some 8
  | .oscoreAsconaead128_32 => some 4
  | _ => none

def aeadEncrypt (library : AsconAead) (tagLen : Nat) (args : AeadArgs) (memory : ByteMemory) : AeadOutcome :=
  if args.out.len < args.input.len then ⟨.bufferToSmall, memory, args.out.len, args.tag.len, none⟩
  else if args.tag.len < tagLen then ⟨.aeadFailed, memory, args.out.len, args.tag.len, none⟩
  else
    let reply := library.encryptTrunc (args.input.read memory) (args.aad.read memory)
      (memory.slice args.nonce.ptr asconNonceBytes) (memory.slice args.key.ptr asconKeyBytes) (tagLen * 8)
    let memory := (memory.store args.out.ptr reply.2.1).store args.tag.ptr reply.2.2
    if reply.1 < 0 then ⟨.aeadFailed, memory, args.out.len, args.tag.len, none⟩
    else ⟨.ok, memory, args.out.len, tagLen, none⟩

/-- This is the difference of two 32-bit lengths. -/
def wrappedSub (first second : Nat) : Nat := (2 ^ 32 + first - second) % 2 ^ 32

theorem wrappedSub_lt (first second : Nat) : wrappedSub first second < 2 ^ 32 := by
  unfold wrappedSub
  omega

/-- Without a borrow the 32-bit difference is the difference. -/
theorem wrappedSub_eq {first second : Nat} (fits : first < 2 ^ 32) (le : second ≤ first) :
    wrappedSub first second = first - second := by
  unfold wrappedSub
  omega

/-- The difference wraps for an input that is shorter than the tag. -/
def ciphertextLen (inputLen tagLen : Nat) : Nat := wrappedSub inputLen tagLen

/-- These are the last bytes of the input, and the ciphertext is the input without the tag length. -/
def decryptCall (args : AeadArgs) (tagLen : Nat) : DecryptCall :=
  ⟨⟨args.input.ptr, ciphertextLen args.input.len tagLen⟩, ⟨args.input.ptr + args.input.len - tagLen, tagLen⟩⟩

/-- The output length is set even when the library rejects the tag. -/
def aeadDecrypt (library : AsconAead) (tagLen : Nat) (args : AeadArgs) (memory : ByteMemory) : AeadOutcome :=
  if args.out.len < ciphertextLen args.input.len tagLen then
    ⟨.bufferToSmall, memory, args.out.len, args.tag.len, none⟩
  else
    let call := decryptCall args tagLen
    let reply := library.decryptTrunc (call.tag.read memory) (call.ciphertext.read memory) (args.aad.read memory)
      (memory.slice args.nonce.ptr asconNonceBytes) (memory.slice args.key.ptr asconKeyBytes) (tagLen * 8)
    let memory := memory.store args.out.ptr reply.2
    let outLen := ciphertextLen args.input.len tagLen
    if reply.1 < 0 then ⟨.aeadFailed, memory, outLen, args.tag.len, some call⟩
    else ⟨.ok, memory, outLen, tagLen, some call⟩

/-- The first argument is the algorithm of the context that `get_oscore_ctx` returns. -/
def aead (oscoreCtx : Option AeadAlgorithm) (library : AsconAead) (op : AesOperation) (args : AeadArgs)
    (memory : ByteMemory) : AeadOutcome :=
  let failed (err : CryptoErr) : AeadOutcome := ⟨err, memory, args.out.len, args.tag.len, none⟩
  match oscoreCtx with
  | none => failed .aeadFailed
  | some aeadAlg =>
      match aeadTagLen aeadAlg with
      | none => failed .oscoreInvalidAlgorithmAead
      | some tagLen =>
          if args.key.len < asconKeyBytes then failed .aeadFailed
          else if args.nonce.len < asconNonceBytes then failed .aeadFailed
          else
            match op with
            | .encrypt => aeadEncrypt library tagLen args memory
            | .decrypt => aeadDecrypt library tagLen args memory

theorem aeadTagLen_le {aeadAlg : AeadAlgorithm} {tagLen : Nat} (known : aeadTagLen aeadAlg = some tagLen) :
    4 ≤ tagLen ∧ tagLen ≤ 16 := by
  cases aeadAlg <;> simp only [aeadTagLen, Option.some.injEq, reduceCtorEq] at known <;> omega

/-- Key and nonce hold at least the bytes that the library reads. -/
structure KeyMaterial (args : AeadArgs) : Prop where
  key : asconKeyBytes ≤ args.key.len
  nonce : asconNonceBytes ≤ args.nonce.len

section Calls

variable {library : AsconAead} {aeadAlg : AeadAlgorithm} {tagLen : Nat} {args : AeadArgs} {memory : ByteMemory}

theorem aead_encrypt (known : aeadTagLen aeadAlg = some tagLen) (material : KeyMaterial args) :
    aead (some aeadAlg) library .encrypt args memory = aeadEncrypt library tagLen args memory := by
  have key := Nat.not_lt.mpr material.key
  have nonce := Nat.not_lt.mpr material.nonce
  simp only [aead, known, key, nonce, if_false]

theorem aead_decrypt (known : aeadTagLen aeadAlg = some tagLen) (material : KeyMaterial args) :
    aead (some aeadAlg) library .decrypt args memory = aeadDecrypt library tagLen args memory := by
  have key := Nat.not_lt.mpr material.key
  have nonce := Nat.not_lt.mpr material.nonce
  simp only [aead, known, key, nonce, if_false]

/-- A short key or a short nonce fails before any call of the library. -/
theorem aead_decrypt_rejected (known : aeadTagLen aeadAlg = some tagLen) (missing : ¬KeyMaterial args) :
    aead (some aeadAlg) library .decrypt args memory =
      ⟨.aeadFailed, memory, args.out.len, args.tag.len, none⟩ := by
  by_cases key : args.key.len < asconKeyBytes
  · simp only [aead, known, key, if_true]
  · by_cases nonce : args.nonce.len < asconNonceBytes
    · simp only [aead, known, key, nonce, if_true, if_false]
    · exact absurd ⟨Nat.le_of_not_lt key, Nat.le_of_not_lt nonce⟩ missing

/-- A bounded output rejects every input that is shorter than the tag. -/
theorem ciphertextLen_le_iff {inputLen outLen : Nat} (inputFits : inputLen < 2 ^ 32) (tagFits : tagLen ≤ 16)
    (bounded : outLen < 2 ^ 32 - 16) :
    ciphertextLen inputLen tagLen ≤ outLen ↔ tagLen ≤ inputLen ∧ inputLen - tagLen ≤ outLen := by
  unfold ciphertextLen wrappedSub
  omega

theorem ciphertextLen_eq {inputLen : Nat} (inputFits : inputLen < 2 ^ 32) (long : tagLen ≤ inputLen) :
    ciphertextLen inputLen tagLen = inputLen - tagLen :=
  wrappedSub_eq inputFits long

/-- A call splits its input before the tag. -/
theorem decryptCall_eq (long : tagLen ≤ args.input.len) :
    decryptCall args tagLen =
      ⟨⟨args.input.ptr, args.input.len - tagLen⟩, ⟨args.input.ptr + (args.input.len - tagLen), tagLen⟩⟩ := by
  rw [decryptCall, ciphertextLen_eq args.input.fits long, Nat.add_sub_assoc long]

/-- The input holds a tag behind a ciphertext that fits the output. -/
structure Framed (args : AeadArgs) (tagLen : Nat) : Prop where
  tag : tagLen ≤ args.input.len
  rest : args.input.len - tagLen ≤ args.out.len

/-- This is what the library answers to the two last parts of the input. -/
def openReply (library : AsconAead) (tagLen : Nat) (args : AeadArgs) (memory : ByteMemory) : Int × List UInt8 :=
  library.decryptTrunc (memory.slice (args.input.ptr + (args.input.len - tagLen)) tagLen)
    (memory.slice args.input.ptr (args.input.len - tagLen)) (args.aad.read memory)
    (memory.slice args.nonce.ptr asconNonceBytes) (memory.slice args.key.ptr asconKeyBytes) (tagLen * 8)

/-- The call passes the two parts to the library, takes over its verdict and stores its plaintext. -/
structure Opens (library : AsconAead) (tagLen : Nat) (args : AeadArgs) (memory : ByteMemory) (opened : AeadOutcome) :
    Prop where
  call : opened.call =
    some ⟨⟨args.input.ptr, args.input.len - tagLen⟩, ⟨args.input.ptr + (args.input.len - tagLen), tagLen⟩⟩
  result : opened.result = if 0 ≤ (openReply library tagLen args memory).1 then .ok else .aeadFailed
  stored : opened.memory = memory.store args.out.ptr (openReply library tagLen args memory).2
  outLen : opened.outLen = args.input.len - tagLen

/-- The call fails without the library and writes nothing. -/
structure Rejects (memory : ByteMemory) (opened : AeadOutcome) : Prop where
  call : opened.call = none
  result : opened.result ≠ .ok
  kept : opened.memory = memory

theorem aeadDecrypt_opens (tagFits : tagLen ≤ 16) (bounded : args.out.len < 2 ^ 32 - 16)
    (framed : Framed args tagLen) :
    Opens library tagLen args memory (aeadDecrypt library tagLen args memory) := by
  have inside := (ciphertextLen_le_iff args.input.fits tagFits bounded).mpr ⟨framed.tag, framed.rest⟩
  have length : ciphertextLen args.input.len tagLen = args.input.len - tagLen :=
    ciphertextLen_eq args.input.fits framed.tag
  have parts := @decryptCall_eq tagLen args framed.tag
  have reply : library.decryptTrunc ((decryptCall args tagLen).tag.read memory)
      ((decryptCall args tagLen).ciphertext.read memory) (args.aad.read memory)
      (memory.slice args.nonce.ptr asconNonceBytes) (memory.slice args.key.ptr asconKeyBytes) (tagLen * 8) =
        openReply library tagLen args memory := by
    rw [parts]
    rfl
  rw [aeadDecrypt, if_neg (Nat.not_lt.mpr inside), length]
  dsimp only
  rw [reply]
  split
  · rename_i negative
    exact ⟨congrArg some parts, (if_neg (Int.not_le.mpr negative)).symm, rfl, rfl⟩
  · rename_i accepted
    exact ⟨congrArg some parts, (if_pos (Int.not_lt.mp accepted)).symm, rfl, rfl⟩

/-- The difference of the lengths wraps for an input without a tag, so the output is too small for it. -/
theorem aeadDecrypt_rejects (tagFits : tagLen ≤ 16) (bounded : args.out.len < 2 ^ 32 - 16)
    (unframed : ¬Framed args tagLen) : Rejects memory (aeadDecrypt library tagLen args memory) := by
  have small : args.out.len < ciphertextLen args.input.len tagLen := by
    rw [← Nat.not_le, ciphertextLen_le_iff args.input.fits tagFits bounded]
    rintro ⟨tag, rest⟩
    exact unframed ⟨tag, rest⟩
  rw [aeadDecrypt, if_pos small]
  exact ⟨rfl, nofun, rfl⟩

end Calls

/-- The two output regions of an encryption are large enough and do not overlap. -/
structure SealBuffers (args : AeadArgs) (tagLen : Nat) : Prop where
  out : args.input.len ≤ args.out.len
  tag : tagLen ≤ args.tag.len
  apart : args.tag.ptr + tagLen ≤ args.out.ptr ∨ args.out.ptr + args.input.len ≤ args.tag.ptr

/-- This is what the library makes of the input. -/
def sealReply (library : AsconAead) (tagLen : Nat) (args : AeadArgs) (memory : ByteMemory) :
    Int × List UInt8 × List UInt8 :=
  library.encryptTrunc (args.input.read memory) (args.aad.read memory) (memory.slice args.nonce.ptr asconNonceBytes)
    (memory.slice args.key.ptr asconKeyBytes) (tagLen * 8)

/-- The call stores the ciphertext and the truncated tag of the library. -/
structure Seals (library : AsconAead) (tagLen : Nat) (args : AeadArgs) (memory : ByteMemory) (sealed : AeadOutcome) :
    Prop where
  result : sealed.result = .ok
  stored : sealed.memory = (memory.store args.out.ptr (sealReply library tagLen args memory).2.1).store args.tag.ptr
    (sealReply library tagLen args memory).2.2
  ciphertext : sealed.memory.slice args.out.ptr args.input.len = (sealReply library tagLen args memory).2.1
  tag : sealed.memory.slice args.tag.ptr tagLen = (sealReply library tagLen args memory).2.2
  tagLen : sealed.tagLen = tagLen

/-- The receiver has the framed message as its input, with equal keys, nonces, and associated data. -/
structure Delivered (sender : AeadArgs) (plain : ByteMemory) (framed : List UInt8) (receiver : AeadArgs)
    (received : ByteMemory) : Prop where
  bytes : receiver.input.read received = framed
  aad : receiver.aad.read received = sender.aad.read plain
  nonce : received.slice receiver.nonce.ptr asconNonceBytes = plain.slice sender.nonce.ptr asconNonceBytes
  key : received.slice receiver.key.ptr asconKeyBytes = plain.slice sender.key.ptr asconKeyBytes

/-- The receiver has the plaintext of the sender in its output. -/
structure Recovers (sender : AeadArgs) (plain : ByteMemory) (receiver : AeadArgs) (opened : AeadOutcome) : Prop where
  result : opened.result = .ok
  outLen : opened.outLen = sender.input.len
  plaintext : opened.memory.slice receiver.out.ptr sender.input.len = sender.input.read plain

section Framing

variable {library : AsconAead} {tagLen : Nat} {sender receiver : AeadArgs} {plain received : ByteMemory}

theorem length_sealReply (lawful : library.Lawful) (tagFits : tagLen ≤ 16) :
    (sealReply library tagLen sender plain).2.1.length = sender.input.len ∧
      (sealReply library tagLen sender plain).2.2.length = tagLen := by
  constructor
  · rw [sealReply, lawful.ciphertextSize, ByteArray.read, ByteMemory.length_slice]
  · rw [sealReply, lawful.tagSize _ _ _ _ _ (by omega)]
    omega

theorem aeadEncrypt_seals (lawful : library.Lawful) (tagFits : tagLen ≤ 16) (buffers : SealBuffers sender tagLen) :
    Seals library tagLen sender plain (aeadEncrypt library tagLen sender plain) := by
  have code : ¬(sealReply library tagLen sender plain).1 < 0 := Int.not_lt.mpr (lawful.succeeds _ _ _ _ _)
  obtain ⟨ciphertextSize, tagSize⟩ := @length_sealReply library tagLen sender plain lawful tagFits
  have apart := buffers.apart
  have outcome : aeadEncrypt library tagLen sender plain =
      ⟨.ok, (plain.store sender.out.ptr (sealReply library tagLen sender plain).2.1).store sender.tag.ptr
        (sealReply library tagLen sender plain).2.2, sender.out.len, tagLen, none⟩ := by
    rw [aeadEncrypt, if_neg (Nat.not_lt.mpr buffers.out), if_neg (Nat.not_lt.mpr buffers.tag)]
    exact if_neg code
  rw [outcome]
  refine ⟨rfl, rfl, ?_, ?_, rfl⟩
  · rw [ByteMemory.slice_store_disjoint _ _ _ _ _ (by omega), ByteMemory.slice_store_eq _ _ ciphertextSize]
  · rw [ByteMemory.slice_store_eq _ _ tagSize]

/-- A delivered message decrypts to the plaintext. -/
theorem aeadDecrypt_recovers (lawful : library.Lawful) (tagFits : tagLen ≤ 16) {framed : List UInt8}
    (whole : framed = (sealReply library tagLen sender plain).2.1 ++ (sealReply library tagLen sender plain).2.2)
    (delivered : Delivered sender plain framed receiver received) (room : sender.input.len ≤ receiver.out.len)
    (bounded : receiver.out.len < 2 ^ 32 - 16) :
    Recovers sender plain receiver (aeadDecrypt library tagLen receiver received) := by
  obtain ⟨ciphertextSize, tagSize⟩ := @length_sealReply library tagLen sender plain lawful tagFits
  have bytes := delivered.bytes
  have size : receiver.input.len = sender.input.len + tagLen := by
    have lengths := congrArg List.length (bytes.trans whole)
    rwa [ByteArray.read, ByteMemory.length_slice, List.length_append, ciphertextSize, tagSize] at lengths
  have rest : receiver.input.len - tagLen = sender.input.len := by omega
  have opens := @aeadDecrypt_opens library tagLen receiver received tagFits bounded ⟨by omega, by omega⟩
  have parts : received.slice receiver.input.ptr sender.input.len ++
      received.slice (receiver.input.ptr + sender.input.len) tagLen =
        (sealReply library tagLen sender plain).2.1 ++ (sealReply library tagLen sender plain).2.2 := by
    rw [← ByteMemory.slice_append, ← size]
    exact bytes.trans whole
  obtain ⟨ciphertext, tag⟩ := List.append_inj parts (by rw [ByteMemory.length_slice, ciphertextSize])
  have reply : openReply library tagLen receiver received = (0, sender.input.read plain) := by
    rw [openReply, rest, ciphertext, tag, delivered.aad, delivered.nonce, delivered.key]
    exact lawful.inverts _ _ _ _ _ (by omega)
  refine ⟨?_, opens.outLen.trans rest, ?_⟩
  · rw [opens.result, reply]
    rfl
  · rw [opens.stored, reply]
    exact ByteMemory.slice_store_eq _ _ (by rw [ByteArray.read, ByteMemory.length_slice])

end Framing

/-- The patched caller puts the tag behind the ciphertext and shortens the output by the tag. -/
def coseEncryptArgs (args : AeadArgs) : AeadArgs :=
  let tagLen := wrappedSub args.out.len args.input.len
  { args with
    out := ⟨args.out.ptr, wrappedSub args.out.len tagLen, wrappedSub_lt _ _⟩
    tag := ⟨args.out.ptr + args.input.len, tagLen, wrappedSub_lt _ _⟩ }

/-- Room for the ciphertext and the tag gives the patched caller sufficient buffers. -/
theorem coseEncryptArgs_buffers {args : AeadArgs} {tagLen : Nat} (room : args.input.len + tagLen ≤ args.out.len) :
    SealBuffers (coseEncryptArgs args) tagLen := by
  have tagLength : wrappedSub args.out.len args.input.len = args.out.len - args.input.len :=
    wrappedSub_eq args.out.fits (by omega)
  have outLength : wrappedSub args.out.len (args.out.len - args.input.len) =
      args.out.len - (args.out.len - args.input.len) := wrappedSub_eq args.out.fits (by omega)
  refine ⟨?_, ?_, Or.inr (Nat.le_refl _)⟩
  · change args.input.len ≤ wrappedSub args.out.len (wrappedSub args.out.len args.input.len)
    rw [tagLength, outLength]
    omega
  · change tagLen ≤ wrappedSub args.out.len args.input.len
    rw [tagLength]
    omega

/-- The output of the patched caller is the ciphertext followed by the tag. -/
theorem coseEncryptArgs_joined {library : AsconAead} {args : AeadArgs} {tagLen : Nat} {plain : ByteMemory}
    {sealed : AeadOutcome} (seals : Seals library tagLen (coseEncryptArgs args) plain sealed) :
    sealed.memory.slice args.out.ptr (args.input.len + tagLen) =
      (sealReply library tagLen args plain).2.1 ++ (sealReply library tagLen args plain).2.2 := by
  rw [ByteMemory.slice_append]
  exact congrArg₂ (· ++ ·) seals.ciphertext seals.tag

/-- An encryption stores what the library makes of its input, the patched caller gets it as one framed message, and a
delivered framed message decrypts to its plaintext. A decryption takes the verdict and the plaintext of the library for
the two parts of a framed input, and every other input is an error without a call of the library. -/
theorem aead_framing (library : AsconAead) (lawful : library.Lawful) (aeadAlg : AeadAlgorithm) (tagLen : Nat)
    (known : aeadTagLen aeadAlg = some tagLen) :
    (∀ sender plain, KeyMaterial sender → SealBuffers sender tagLen →
      let sealed := aead (some aeadAlg) library .encrypt sender plain
      Seals library tagLen sender plain sealed ∧
        ∀ receiver received, KeyMaterial receiver → sender.input.len ≤ receiver.out.len →
          receiver.out.len < 2 ^ 32 - 16 →
          Delivered sender plain (sealed.memory.slice sender.out.ptr sender.input.len ++
            sealed.memory.slice sender.tag.ptr tagLen) receiver received →
          Recovers sender plain receiver (aead (some aeadAlg) library .decrypt receiver received)) ∧
    (∀ args plain, KeyMaterial args → args.input.len + tagLen ≤ args.out.len →
      let sealed := aead (some aeadAlg) library .encrypt (coseEncryptArgs args) plain
      Seals library tagLen (coseEncryptArgs args) plain sealed ∧
        sealed.memory.slice args.out.ptr (args.input.len + tagLen) =
          (sealReply library tagLen args plain).2.1 ++ (sealReply library tagLen args plain).2.2 ∧
        ∀ receiver received, KeyMaterial receiver → args.input.len ≤ receiver.out.len →
          receiver.out.len < 2 ^ 32 - 16 →
          Delivered args plain (sealed.memory.slice args.out.ptr (args.input.len + tagLen)) receiver received →
          Recovers args plain receiver (aead (some aeadAlg) library .decrypt receiver received)) ∧
    (∀ receiver received, receiver.out.len < 2 ^ 32 - 16 →
      let opened := aead (some aeadAlg) library .decrypt receiver received
      (KeyMaterial receiver ∧ Framed receiver tagLen → Opens library tagLen receiver received opened) ∧
      (¬(KeyMaterial receiver ∧ Framed receiver tagLen) → Rejects received opened)) := by
  have tagFits := (aeadTagLen_le known).2
  refine ⟨?_, ?_, ?_⟩
  · intro sender plain senderKeys buffers
    rw [aead_encrypt known senderKeys]
    have seals := @aeadEncrypt_seals library tagLen sender plain lawful tagFits buffers
    refine ⟨seals, ?_⟩
    intro receiver received receiverKeys room bounded delivered
    rw [aead_decrypt known receiverKeys]
    exact aeadDecrypt_recovers lawful tagFits (by rw [seals.ciphertext, seals.tag]) delivered room bounded
  · intro args plain keys room
    have callerKeys : KeyMaterial (coseEncryptArgs args) := ⟨keys.key, keys.nonce⟩
    rw [aead_encrypt known callerKeys]
    have seals := @aeadEncrypt_seals library tagLen (coseEncryptArgs args) plain lawful tagFits
      (coseEncryptArgs_buffers room)
    refine ⟨seals, coseEncryptArgs_joined seals, ?_⟩
    intro receiver received receiverKeys inside bounded delivered
    rw [aead_decrypt known receiverKeys]
    exact aeadDecrypt_recovers lawful tagFits (coseEncryptArgs_joined seals) delivered inside bounded
  · intro receiver received bounded
    by_cases material : KeyMaterial receiver
    · rw [aead_decrypt known material]
      refine ⟨fun accepted => aeadDecrypt_opens tagFits bounded accepted.2, fun refused => ?_⟩
      exact aeadDecrypt_rejects tagFits bounded fun framed => refused ⟨material, framed⟩
    · rw [aead_decrypt_rejected known material]
      exact ⟨fun accepted => absurd accepted.1 material, fun _ => ⟨rfl, nofun, rfl⟩⟩

def asconP8 (state : AsconState) : AsconState :=
  [0xb4, 0xa5, 0x96, 0x87, 0x78, 0x69, 0x5a, 0x4b].foldl asconRound state

/-- A block covers the first two words of the state. -/
def mixBlock (state : AsconState) (x0 x1 : UInt64) : AsconState :=
  ⟨state.rate ^^^ x0, { state.capacity with x1 := state.capacity.x1 ^^^ x1 }⟩

/-- The padding bit follows the last byte of a text that does not fill the block. -/
def asconDuplex : Duplex AsconState where
  rate := 16
  positive := by decide
  keystream state := storeBytes state.rate ++ storeBytes state.capacity.x1
  covers _ := rfl
  absorbBlock state block := asconP8 (mixBlock state (loadBytes (block.take 8)) (loadBytes (block.drop 8)))
  absorbLast state last :=
    let mixed := mixBlock state (loadBytes (last.take 8)) (loadBytes (last.drop 8))
    if last.length < 8 then mixBlock mixed (padding last.length) 0 else mixBlock mixed 0 (padding (last.length - 8))

/-- The nonce, the key and the associated data give the state that encrypts. -/
def asconStart (assoc nonce key : List UInt8) : AsconState :=
  let k0 := loadBytes (key.take 8)
  let k1 := loadBytes (key.drop 8)
  let s := asconP12 ⟨0x00001000808c0001, ⟨k0, k1, loadBytes (nonce.take 8), loadBytes (nonce.drop 8)⟩⟩
  let s : AsconState := ⟨s.rate, { s.capacity with x3 := s.capacity.x3 ^^^ k0, x4 := s.capacity.x4 ^^^ k1 }⟩
  let s := if assoc = [] then s else asconP8 (asconDuplex.absorb (assoc.length / 16) s assoc)
  ⟨s.rate, { s.capacity with x4 := s.capacity.x4 ^^^ 0x8000000000000000 }⟩

/-- The tag masks the key into the state that the message leaves. -/
def asconTag (key : List UInt8) (state : AsconState) : List UInt8 :=
  let k0 := loadBytes (key.take 8)
  let k1 := loadBytes (key.drop 8)
  let s := asconP12 ⟨state.rate, { state.capacity with x2 := state.capacity.x2 ^^^ k0, x3 := state.capacity.x3 ^^^ k1 }⟩
  storeBytes (s.capacity.x3 ^^^ k0) ++ storeBytes (s.capacity.x4 ^^^ k1)

/-- This is Ascon-AEAD128 with a truncated tag. -/
def asconAead128 : AsconAead where
  encryptTrunc m assoc nonce key tagBits :=
    let (c, final) := asconDuplex.encrypt (asconStart assoc nonce key) m
    (0, c, (asconTag key final).take (tagBits / 8))
  decryptTrunc t c assoc nonce key tagBits :=
    let (m, final) := asconDuplex.decrypt (asconStart assoc nonce key) c
    if t = (asconTag key final).take (tagBits / 8) then (0, m) else (-1, [])

theorem asconAead128_lawful : asconAead128.Lawful where
  succeeds _ _ _ _ _ := Int.le_refl 0
  ciphertextSize m assoc nonce key _ := asconDuplex.length_encrypt (asconStart assoc nonce key) m
  tagSize m assoc nonce key tagBits bounded := by
    have size : (asconTag key (asconDuplex.encrypt (asconStart assoc nonce key) m).2).length = 16 := rfl
    change ((asconTag key (asconDuplex.encrypt (asconStart assoc nonce key) m).2).take (tagBits / 8)).length = _
    rw [List.length_take, size]
    omega
  inverts m assoc nonce key tagBits _ := by
    have restored := asconDuplex.decrypt_encrypt (asconStart assoc nonce key) m
    simp only [asconAead128, restored, if_true]

/-- This is the memory of a device that sends its first request. -/
def requestMemory : ByteMemory :=
  ByteMemory.store (fun _ => 0) 0
    ([0x33, 0xFF, 0x6E, 0x2F, 0x58, 0x22, 0xB6, 0xA6, 0x77, 0xEC, 0x01, 0x10, 0xE4, 0xF0, 0xA0, 0xCC] ++
      [0xDD, 0x03, 0xEB, 0xA6, 0xC3, 0x2F, 0xF1, 0xB4, 0x90, 0x5B, 0x24, 0x37, 0xD9, 0x39, 0x08, 0x9A] ++
      [0x9F, 0x68, 0x45, 0x6E, 0x63, 0x72, 0x79, 0x70, 0x74, 0x30, 0x40, 0x4B, 0x9F, 0x01, 0x9F, 0x18, 0x25, 0xFF,
        0x40, 0x41, 0x00, 0x40, 0xFF, 0xFF] ++
      [0x1C, 0x01, 0x60, 0x57, 0x6F, 0x62, 0x73, 0x65, 0x72, 0x76, 0x65])

/-- The sender key, the nonce, the associated data and the plaintext follow each other. -/
def requestArgs : AeadArgs :=
  ⟨⟨56, 11, by decide⟩, ⟨0, 16, by decide⟩, ⟨16, 16, by decide⟩, ⟨32, 24, by decide⟩, ⟨128, 64, by decide⟩,
    ⟨0, 0, by decide⟩⟩

/-- The receiver reads the framed message. -/
def requestReceiver : AeadArgs := { requestArgs with input := ⟨128, 15, by decide⟩, out := ⟨192, 15, by decide⟩ }

/-- The patched caller makes the message that the device sent in a recorded session, and it decrypts to the request. -/
theorem recordedRequest_framing :
    let sealed := aead (some .oscoreAsconaead128_32) asconAead128 .encrypt (coseEncryptArgs requestArgs) requestMemory
    let opened := aead (some .oscoreAsconaead128_32) asconAead128 .decrypt requestReceiver sealed.memory
    sealed.memory.slice 128 15 =
        [0x84, 0xD4, 0x5A, 0x0B, 0xCE, 0xC3, 0xB4, 0xB5, 0x8A, 0xF6, 0x8E, 0xBF, 0xD4, 0x28, 0x3A] ∧
      Recovers requestArgs requestMemory requestReceiver opened ∧
      requestArgs.input.read requestMemory = [0x1C, 0x01, 0x60, 0x57, 0x6F, 0x62, 0x73, 0x65, 0x72, 0x76, 0x65] := by
  intro sealed opened
  obtain ⟨-, joined, recovers⟩ := (aead_framing asconAead128 asconAead128_lawful .oscoreAsconaead128_32 4 rfl).2.1
    requestArgs requestMemory ⟨by decide, by decide⟩ (by decide)
  refine ⟨joined.trans (by decide +kernel), ?_, by decide +kernel⟩
  exact recovers requestReceiver sealed.memory ⟨by decide, by decide⟩ (by decide) (by decide)
    ⟨rfl, by decide +kernel, by decide +kernel, by decide +kernel⟩

end SchcWork.Ascon
