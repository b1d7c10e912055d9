import SchcWork.Nvm.Record

namespace SchcWork.Nvm

open Platform Worker

/-- The decoder returns its result and the key of its caller, and it records the decoded bytes that it reads. -/
structure KeyDecoding where
  err : Err
  nvmKey : NvmKey
  reads : List Nat
  deriving Repr, DecidableEq

/-- Each round compares one byte with the length of an identifier and skips the identifier. -/
def decodeFields (decodedBytes : ByteMemory) : (currentPtr remainingLen : Nat) → (reads : List Nat) →
    List (List UInt8) → Err × List Nat
  | _, _, reads, [] => (.ok, reads)
  | currentPtr, remainingLen, reads, bytes :: rest =>
      if remainingLen < 4 then (.oscoreSsnOverflow, reads)
      -- The source reads one byte of the 32-bit length.
      else if (decodedBytes currentPtr).toNat ≠ bytes.length then (.oscoreSsnOverflow, reads ++ [currentPtr])
      else if remainingLen - 4 < bytes.length then (.oscoreSsnOverflow, reads ++ [currentPtr])
      else decodeFields decodedBytes (currentPtr + 4 + bytes.length) (remainingLen - 4 - bytes.length)
        (reads ++ [currentPtr]) rest

/-- The key decoder walks over copies of the three identifiers. -/
def keyFields (nvmKey : NvmKey) : List (List UInt8) := [nvmKey.senderId, nvmKey.recipientId, nvmKey.idContext]

/-- The pointers into the decoded bytes go to the copies, so the key of the caller stays as it is. -/
def nvmKeyBase64Decode (fresh : ByteMemory) (b64Input : Option (List Char)) (nvmKey : NvmKey) : KeyDecoding :=
  match b64Input.bind (b64Decode fresh) with
  | none => ⟨.other (2 ^ 32 - 1), nvmKey, []⟩
  | some decoding =>
      let decoded := decodeFields decoding.out 0 decoding.outlen [] (keyFields nvmKey)
      ⟨decoded.1, nvmKey, decoded.2⟩

/-- These are the positions of the length bytes with the lengths that the decoder expects there. -/
def lengthFields : (currentPtr : Nat) → List (List UInt8) → List (Nat × Nat)
  | _, [] => []
  | currentPtr, bytes :: rest => (currentPtr, bytes.length) :: lengthFields (currentPtr + 4 + bytes.length) rest

def encodedSize : List (List UInt8) → Nat
  | [] => 0
  | bytes :: rest => 4 + bytes.length + encodedSize rest

section Fields

variable (decodedBytes : ByteMemory)

/-- The decoder succeeds exactly when the bytes suffice and every length byte is the expected one. -/
theorem decodeFields_ok_iff (currentPtr remainingLen : Nat) (reads : List Nat) (fields : List (List UInt8)) :
    (decodeFields decodedBytes currentPtr remainingLen reads fields).1 = .ok ↔
      encodedSize fields ≤ remainingLen ∧
        ∀ field ∈ lengthFields currentPtr fields, (decodedBytes field.1).toNat = field.2 := by
  induction fields generalizing currentPtr remainingLen reads with
  | nil => simp [decodeFields, encodedSize, lengthFields]
  | cons bytes rest ih =>
      rw [decodeFields, encodedSize, lengthFields, List.forall_mem_cons]
      by_cases short : remainingLen < 4
      · rw [if_pos short]
        apply iff_of_false nofun
        intro accepted
        have fits := accepted.1
        omega
      · by_cases other : (decodedBytes currentPtr).toNat ≠ bytes.length
        · rw [if_neg short, if_pos other]
          apply iff_of_false nofun
          intro accepted
          exact other accepted.2.1
        · rw [if_neg short, if_neg other]
          by_cases cut : remainingLen - 4 < bytes.length
          · rw [if_pos cut]
            apply iff_of_false nofun
            intro accepted
            have fits := accepted.1
            omega
          · rw [if_neg cut, ih]
            have sizes : encodedSize rest ≤ remainingLen - 4 - bytes.length ↔
                4 + bytes.length + encodedSize rest ≤ remainingLen := by omega
            rw [sizes]
            simp only [not_not.mp other, true_and]

/-- A successful decoder has read every length byte. -/
theorem decodeFields_reads (currentPtr remainingLen : Nat) (reads : List Nat) (fields : List (List UInt8))
    (success : (decodeFields decodedBytes currentPtr remainingLen reads fields).1 = .ok) :
    (decodeFields decodedBytes currentPtr remainingLen reads fields).2 =
      reads ++ (lengthFields currentPtr fields).map Prod.fst := by
  induction fields generalizing currentPtr remainingLen reads with
  | nil => simp [decodeFields, lengthFields]
  | cons bytes rest ih =>
      rw [decodeFields] at success ⊢
      split at success
      · cases success
      · split at success
        · cases success
        · split at success
          · cases success
          · rename_i enough same fits
            rw [if_neg enough, if_neg same, if_neg fits, ih _ _ _ success, lengthFields, List.map_cons,
              List.append_assoc]
            rfl

/-- Every byte that the decoder reads lies inside the decoded bytes. -/
theorem decodeFields_bound (currentPtr remainingLen : Nat) (reads : List Nat) (fields : List (List UInt8)) :
    ∀ position ∈ (decodeFields decodedBytes currentPtr remainingLen reads fields).2,
      position ∈ reads ∨ position < currentPtr + remainingLen := by
  induction fields generalizing currentPtr remainingLen reads with
  | nil => exact fun position member => .inl member
  | cons bytes rest ih =>
      intro position member
      rw [decodeFields] at member
      have first (enough : ¬remainingLen < 4) (read : position ∈ reads ++ [currentPtr]) :
          position ∈ reads ∨ position < currentPtr + remainingLen := by
        rcases List.mem_append.mp read with before | here
        · exact .inl before
        · rw [List.mem_singleton.mp here]
          exact .inr (by omega)
      split at member
      · exact .inl member
      · rename_i enough
        split at member
        · exact first enough member
        · split at member
          · exact first enough member
          · rename_i fits
            rcases ih _ _ _ position member with read | inside
            · exact first enough read
            · exact .inr (by omega)

end Fields

/-- The key of the caller survives every decoding. -/
theorem nvmKeyBase64Decode_nvmKey (fresh : ByteMemory) (b64Input : Option (List Char)) (nvmKey : NvmKey) :
    (nvmKeyBase64Decode fresh b64Input nvmKey).nvmKey = nvmKey := by
  unfold nvmKeyBase64Decode
  split
  · rfl
  · rfl

theorem nvmKeyBase64Decode_accepted (fresh : ByteMemory) {text : List Char} (accepted : Accepted text)
    (nvmKey : NvmKey) :
    nvmKeyBase64Decode fresh (some text) nvmKey =
      let decoded := decodeFields (b64Decoded fresh text).out 0 (b64DecodedSize text) [] (keyFields nvmKey)
      ⟨decoded.1, nvmKey, decoded.2⟩ := by
  rw [nvmKeyBase64Decode, Option.bind_some, b64Decode_accepted fresh accepted]
  rfl

def idBytes (key : NvmKey) : Nat := key.senderId.length + key.recipientId.length + key.idContext.length

structure SameLengths (first second : NvmKey) : Prop where
  senderId : first.senderId.length = second.senderId.length
  recipientId : first.recipientId.length = second.recipientId.length
  idContext : first.idContext.length = second.idContext.length

/-- The codec restores a key into every key of its lengths, and no other key has its encoding. -/
structure KeyRoundTrips (stack : Stack) (key : NvmKey) : Prop where
  restored : ∀ fresh target, SameLengths target key →
    (nvmKeyBase64Decode fresh (nvmKeyBase64Encode stack key) target).err = .ok ∧
      (nvmKeyBase64Decode fresh (nvmKeyBase64Encode stack key) target).nvmKey = key
  distinct : ∀ otherStack other, idBytes other ≤ 243 → other ≠ key →
    nvmKeyBase64Encode otherStack other ≠ nvmKeyBase64Encode stack key

def emptyKey : NvmKey := ⟨[], [], []⟩

theorem eq_emptyKey_iff (key : NvmKey) : key = emptyKey ↔ idBytes key = 0 := by
  constructor
  · rintro rfl
    rfl
  · intro none
    obtain ⟨senderId, recipientId, idContext⟩ := key
    simp only [idBytes] at none
    rw [List.eq_nil_of_length_eq_zero (l := senderId) (by omega),
      List.eq_nil_of_length_eq_zero (l := recipientId) (by omega),
      List.eq_nil_of_length_eq_zero (l := idContext) (by omega)]
    rfl

/-- The encoding of a key has four characters for each started group of three bytes. -/
theorem length_nvmKeyBase64Encode (stack : Stack) (key : NvmKey) (short : idBytes key ≤ 243) :
    ∃ text, nvmKeyBase64Encode stack key = some text ∧ text.length = 4 * ((idBytes key + 12 + 2) / 3) := by
  have size : nvmKeyBytesLen key = idBytes key + 12 := by
    unfold nvmKeyBytesLen
    unfold idBytes at *
    omega
  have encoded (memory : ByteMemory) : ∃ text, b64Encode (memory.slice 0 (nvmKeyBytesLen key)) = some text ∧
      text.length = 4 * ((idBytes key + 12 + 2) / 3) := by
    refine ⟨b64Rounds (memory.slice 0 (nvmKeyBytesLen key)), ?_, ?_⟩
    · rw [b64Encode, if_neg]
      rw [ByteMemory.length_slice, size]
      omega
    · rw [length_b64Rounds, ByteMemory.length_slice, size]
  exact encoded _

/-- The encoding of the empty key is the encoding of twelve zeros. -/
theorem nvmKeyBase64Encode_empty (stack : Stack) :
    nvmKeyBase64Encode stack emptyKey = some (List.replicate 16 'A') := by
  have zeros : lengthBytes 0 = List.replicate 4 0 := by decide
  have nothing (memory : ByteMemory) : memory.slice 0 0 = [] := rfl
  have second := ByteMemory.store_append stack.uninitialised 0 (List.replicate 4 0) (List.replicate 4 0)
  have third := ByteMemory.store_append stack.uninitialised 0 (List.replicate 8 0) (List.replicate 4 0)
  have buffer : (stack.uninitialised.store 0 (List.replicate 12 0)).slice 0 12 = List.replicate 12 0 :=
    ByteMemory.slice_store_eq _ _ rfl
  simp only [List.length_replicate, Nat.zero_add, List.replicate_append_replicate, Nat.reduceAdd] at second third
  simp only [nvmKeyBase64Encode, nvmKeyRound, emptyKey, List.length_nil, zeros, nothing, ByteMemory.store_nil,
    Nat.zero_add, Nat.add_zero, Nat.reduceAdd, second, third]
  change b64Encode ((stack.uninitialised.store 0 (List.replicate 12 0)).slice 0 12) = _
  rw [buffer]
  decide

/-- The decoding of twelve zeros accepts a key without bytes. -/
theorem nvmKeyBase64Decode_empty (fresh : ByteMemory) :
    (nvmKeyBase64Decode fresh (some (List.replicate 16 'A')) emptyKey).err = .ok := by
  have accepted : Accepted (List.replicate 16 'A') := by decide
  have size : b64DecodedSize (List.replicate 16 'A') = 12 := by decide
  have byte (position : Nat) (field : position = 0 ∨ position = 4 ∨ position = 8) :
      ((b64Decoded fresh (List.replicate 16 'A')).out position).toNat = 0 := by
    have zero : ¬Hidden (List.replicate 16 'A') position ∧ (b64Byte (List.replicate 16 'A') position).toNat = 0 := by
      rcases field with rfl | rfl | rfl
      · decide
      · decide
      · decide
    rw [b64Decoded_out fresh accepted (by omega) (by rw [List.length_replicate]; omega), if_neg zero.1]
    exact zero.2
  rw [nvmKeyBase64Decode_accepted fresh accepted, size]
  apply (decodeFields_ok_iff _ _ _ _ _).mpr
  refine ⟨by decide, ?_⟩
  intro field member
  have fields : lengthFields 0 (keyFields emptyKey) = [(0, 0), (4, 0), (8, 0)] := rfl
  simp only [fields, List.mem_cons, List.not_mem_nil, or_false] at member
  rcases member with rfl | rfl | rfl
  · exact byte 0 (by decide)
  · exact byte 4 (by decide)
  · exact byte 8 (by decide)

/-- This key has the same lengths and differs in every byte. -/
def shiftedKey (key : NvmKey) : NvmKey :=
  ⟨key.senderId.map (· + 1), key.recipientId.map (· + 1), key.idContext.map (· + 1)⟩

theorem map_succ_eq_self {bytes : List UInt8} (same : bytes.map (· + 1) = bytes) : bytes = [] := by
  cases bytes with
  | nil => rfl
  | cons byte rest =>
      rw [List.map_cons, List.cons.injEq] at same
      have value := congrArg UInt8.toNat same.1
      rw [UInt8.toNat_add, UInt8.toNat_one] at value
      omega

/-- The codec round-trips a key exactly when all its identifiers are empty. -/
theorem keyRoundTrips_iff (stack : Stack) (key : NvmKey) (short : idBytes key ≤ 243) :
    KeyRoundTrips stack key ↔ key.senderId = [] ∧ key.recipientId = [] ∧ key.idContext = [] := by
  constructor
  · intro codec
    have restored := codec.restored (fun _ => 0) (shiftedKey key) ⟨by simp [shiftedKey], by simp [shiftedKey],
      by simp [shiftedKey]⟩
    -- The decoder leaves the shifted key in place, so only a key without bytes is restored.
    have same := restored.2
    rw [nvmKeyBase64Decode_nvmKey] at same
    have parts := congrArg NvmKey.senderId same
    exact ⟨map_succ_eq_self parts, map_succ_eq_self (congrArg NvmKey.recipientId same),
      map_succ_eq_self (congrArg NvmKey.idContext same)⟩
  · rintro ⟨senderId, recipientId, idContext⟩
    obtain rfl : key = emptyKey := by
      rw [eq_emptyKey_iff, idBytes, senderId, recipientId, idContext]
      rfl
    constructor
    · intro fresh target same
      obtain rfl : target = emptyKey := by
        rw [eq_emptyKey_iff, idBytes, same.senderId, same.recipientId, same.idContext]
        rfl
      rw [nvmKeyBase64Encode_empty]
      exact ⟨nvmKeyBase64Decode_empty fresh, nvmKeyBase64Decode_nvmKey _ _ _⟩
    · intro otherStack other otherShort differs same
      obtain ⟨text, encoded, length⟩ := length_nvmKeyBase64Encode otherStack other otherShort
      have bytes : idBytes other ≠ 0 := fun none => differs ((eq_emptyKey_iff other).mpr none)
      rw [encoded, nvmKeyBase64Encode_empty] at same
      rw [Option.some.inj same, List.length_replicate] at length
      omega

theorem emptyKey_roundTrips : KeyRoundTrips ⟨fun _ => 0, fun _ _ => 0⟩ emptyKey :=
  (keyRoundTrips_iff ⟨fun _ => 0, fun _ _ => 0⟩ emptyKey (by decide)).mpr ⟨rfl, rfl, rfl⟩

/-- The decoder rejects the encoding of a sender identifier of one byte, and two such keys share their encoding. -/
theorem oneByteKey_lost :
    let stack : Stack := ⟨fun _ => 0, fun _ _ => 0x10⟩
    let key : NvmKey := ⟨[1], [], []⟩
    (nvmKeyBase64Decode (fun _ => 0) (nvmKeyBase64Encode stack key) key).err = .oscoreSsnOverflow ∧
      nvmKeyBase64Encode stack ⟨[2], [], []⟩ = nvmKeyBase64Encode stack key ∧ ¬KeyRoundTrips stack key := by
  have lost : (nvmKeyBase64Decode (fun _ => 0) (nvmKeyBase64Encode ⟨fun _ => 0, fun _ _ => 0x10⟩ ⟨[1], [], []⟩)
      ⟨[1], [], []⟩).err = .oscoreSsnOverflow := by decide +kernel
  refine ⟨lost, rfl, ?_⟩
  intro codec
  have restored := codec.restored (fun _ => 0) ⟨[1], [], []⟩ ⟨rfl, rfl, rfl⟩
  rw [lost] at restored
  cases restored.1

/-- A safe decoding stays inside all its buffers, and it accepts only length bytes that the decoder wrote. -/
structure DecodesSafely (fresh : ByteMemory) (text : List Char) (nvmKey : NvmKey) : Prop where
  inside : ∀ decoding, b64Decode fresh text = some decoding → decoding.Inside text
  buffer : ∀ decoding, b64Decode fresh text = some decoding →
    ∀ position ∈ (nvmKeyBase64Decode fresh (some text) nvmKey).reads, position < decoding.allocated
  written : ∀ decoding, b64Decode fresh text = some decoding →
    (nvmKeyBase64Decode fresh (some text) nvmKey).err = .ok →
      ∀ position ∈ (nvmKeyBase64Decode fresh (some text) nvmKey).reads, position ∈ decoding.writes

/-- Padding hides a length byte while every visible length byte is the expected one and the text is long enough. -/
structure HidesLength (text : List Char) (nvmKey : NvmKey) : Prop where
  fits : encodedSize (keyFields nvmKey) ≤ b64DecodedSize text
  agrees : ∀ field ∈ lengthFields 0 (keyFields nvmKey),
    if Hidden text field.1 then field.2 < 256 else (b64Byte text field.1).toNat = field.2
  hidden : ∃ field ∈ lengthFields 0 (keyFields nvmKey), Hidden text field.1

/-- Every length byte lies in front of the end of its key. -/
theorem lengthFields_lt (currentPtr : Nat) (fields : List (List UInt8)) :
    ∀ field ∈ lengthFields currentPtr fields, field.1 < currentPtr + encodedSize fields := by
  induction fields generalizing currentPtr with
  | nil => exact fun field member => absurd member List.not_mem_nil
  | cons bytes rest ih =>
      intro field member
      rw [encodedSize]
      rw [lengthFields, List.mem_cons] at member
      rcases member with rfl | later
      · show currentPtr < _
        omega
      · have behind := ih _ field later
        omega

/-- Later length bytes lie behind earlier ones. -/
theorem lengthFields_ge (currentPtr : Nat) (fields : List (List UInt8)) :
    ∀ field ∈ lengthFields currentPtr fields, currentPtr ≤ field.1 := by
  induction fields generalizing currentPtr with
  | nil => exact fun field member => absurd member List.not_mem_nil
  | cons bytes rest ih =>
      intro field member
      rw [lengthFields, List.mem_cons] at member
      rcases member with rfl | later
      · exact Nat.le_refl _
      · have behind := ih _ field later
        omega

/-- A fresh buffer may hold the expected length at each of its positions. -/
theorem exists_fresh (currentPtr : Nat) (fields : List (List UInt8)) :
    ∃ fresh : ByteMemory, ∀ field ∈ lengthFields currentPtr fields, fresh field.1 = UInt8.ofNat field.2 := by
  induction fields generalizing currentPtr with
  | nil => exact ⟨fun _ => 0, fun field member => absurd member List.not_mem_nil⟩
  | cons bytes rest ih =>
      obtain ⟨fresh, held⟩ := ih (currentPtr + 4 + bytes.length)
      refine ⟨fresh.store currentPtr [UInt8.ofNat bytes.length], ?_⟩
      intro field member
      rw [lengthFields, List.mem_cons] at member
      rcases member with rfl | later
      · rw [ByteMemory.store_byte, if_pos rfl]
      · have behind := lengthFields_ge _ rest field later
        rw [ByteMemory.store_byte, if_neg (by omega), held field later]

section Safety

variable {text : List Char} {nvmKey : NvmKey}

/-- A rejected text reads nothing. -/
theorem decodesSafely_rejected (fresh : ByteMemory) (rejected : ¬Accepted text) :
    DecodesSafely fresh text nvmKey := by
  have none := b64Decode_rejected fresh rejected
  constructor
  · intro decoding decoded
    cases none.symm.trans decoded
  · intro decoding decoded
    cases none.symm.trans decoded
  · intro decoding decoded
    cases none.symm.trans decoded

/-- The decoder accepts a text with a given fresh buffer exactly when its length bytes are the expected ones. -/
theorem nvmKeyBase64Decode_ok_iff (fresh : ByteMemory) (accepted : Accepted text)
    (short : trailingPadding text ≤ 3) (addressable : text.length < 2 ^ 64) :
    (nvmKeyBase64Decode fresh (some text) nvmKey).err = .ok ↔
      encodedSize (keyFields nvmKey) ≤ b64DecodedSize text ∧
        ∀ field ∈ lengthFields 0 (keyFields nvmKey),
          (if Hidden text field.1 then fresh field.1 else b64Byte text field.1).toNat = field.2 := by
  rw [nvmKeyBase64Decode_accepted fresh accepted]
  refine (decodeFields_ok_iff _ _ _ _ _).trans ?_
  apply and_congr_right
  intro fits
  apply forall₂_congr
  intro field member
  have size := b64DecodedSize_le accepted short addressable
  have below := lengthFields_lt 0 _ field member
  rw [b64Decoded_out fresh accepted (by omega) (by omega)]

/-- A successful decoding read the length bytes and nothing else. -/
theorem mem_reads_of_ok {fresh : ByteMemory} (accepted : Accepted text)
    (success : (nvmKeyBase64Decode fresh (some text) nvmKey).err = .ok) (position : Nat) :
    position ∈ (nvmKeyBase64Decode fresh (some text) nvmKey).reads ↔
      ∃ field ∈ lengthFields 0 (keyFields nvmKey), field.1 = position := by
  rw [nvmKeyBase64Decode_accepted fresh accepted] at success ⊢
  show position ∈ (decodeFields _ _ _ _ _).2 ↔ _
  rw [decodeFields_reads _ _ _ _ _ success, List.nil_append, List.mem_map]

/-- A length byte of an accepted key was written exactly when no padding hides it. -/
theorem length_written_iff (fresh : ByteMemory) (accepted : Accepted text) (short : trailingPadding text ≤ 3)
    (addressable : text.length < 2 ^ 64) (fits : encodedSize (keyFields nvmKey) ≤ b64DecodedSize text)
    {field : Nat × Nat} (member : field ∈ lengthFields 0 (keyFields nvmKey)) :
    field.1 ∈ (b64Decoded fresh text).writes ↔ ¬Hidden text field.1 := by
  have size := b64DecodedSize_le accepted short addressable
  have below := lengthFields_lt 0 _ field member
  rw [mem_writes fresh accepted (by omega)]
  constructor
  · exact fun written => written.2
  · exact fun visible => ⟨by omega, visible⟩

/-- Some fresh buffer makes the decoder accept a hidden length byte. -/
theorem hidesLength_unsafe (accepted : Accepted text) (short : trailingPadding text ≤ 3)
    (addressable : text.length < 2 ^ 64) (hides : HidesLength text nvmKey) :
    ∃ fresh, ¬DecodesSafely fresh text nvmKey := by
  obtain ⟨fresh, held⟩ := exists_fresh 0 (keyFields nvmKey)
  refine ⟨fresh, ?_⟩
  intro safe
  have success : (nvmKeyBase64Decode fresh (some text) nvmKey).err = .ok := by
    rw [nvmKeyBase64Decode_ok_iff fresh accepted short addressable]
    refine ⟨hides.fits, ?_⟩
    intro field member
    have agrees := hides.agrees field member
    by_cases hidden : Hidden text field.1
    · rw [if_pos hidden] at agrees ⊢
      rw [held field member, UInt8.toNat_ofNat_of_lt' agrees]
    · rw [if_neg hidden] at agrees ⊢
      exact agrees
  obtain ⟨field, member, hidden⟩ := hides.hidden
  have read := (mem_reads_of_ok accepted success field.1).mpr ⟨field, member, rfl⟩
  have written := safe.written _ (b64Decode_accepted fresh accepted) success field.1 read
  exact (length_written_iff fresh accepted short addressable hides.fits member).mp written hidden

/-- Without a hidden length byte every decoding is safe. -/
theorem decodesSafely_of_visible (fresh : ByteMemory) (accepted : Accepted text) (short : trailingPadding text ≤ 3)
    (addressable : text.length < 2 ^ 64) (visible : ¬HidesLength text nvmKey) :
    DecodesSafely fresh text nvmKey := by
  have only (decoding : B64Decoding) (decoded : b64Decode fresh text = some decoding) :
      decoding = b64Decoded fresh text :=
    Option.some.inj (decoded.symm.trans (b64Decode_accepted fresh accepted))
  have size := b64DecodedSize_le accepted short addressable
  constructor
  · intro decoding decoded
    rw [only decoding decoded]
    exact (b64Decoded_inside_iff fresh accepted addressable).mpr short
  · intro decoding decoded position read
    rw [only decoding decoded]
    rw [nvmKeyBase64Decode_accepted fresh accepted] at read
    show position < (b64DecodedSize text + 1) % 2 ^ 64
    rcases decodeFields_bound _ _ _ _ _ position read with earlier | inside
    · cases earlier
    · omega
  · intro decoding decoded success position read
    rw [only decoding decoded]
    obtain ⟨field, member, rfl⟩ := (mem_reads_of_ok accepted success position).mp read
    obtain ⟨fits, agree⟩ := (nvmKeyBase64Decode_ok_iff fresh accepted short addressable).mp success
    rw [length_written_iff fresh accepted short addressable fits member]
    intro hidden
    apply visible
    refine ⟨fits, ?_, field, member, hidden⟩
    intro other otherMember
    have same := agree other otherMember
    by_cases otherHidden : Hidden text other.1
    · rw [if_pos otherHidden] at same ⊢
      rw [← same]
      exact UInt8.toNat_lt _
    · rw [if_neg otherHidden] at same ⊢
      exact same

/-- Only a text with a short trailing padding is decoded safely. -/
theorem trailingPadding_of_safe (accepted : Accepted text) (addressable : text.length < 2 ^ 64)
    (safe : ∀ fresh, DecodesSafely fresh text nvmKey) : trailingPadding text ≤ 3 := by
  have inside := (safe fun _ => 0).inside _ (b64Decode_accepted _ accepted)
  exact (b64Decoded_inside_iff _ accepted addressable).mp inside

end Safety

/-- The key decoder is safe for a string exactly when validation rejects the string, or when the string ends in at
most three padding characters and none of them or of the others hides a length byte that could be accepted. -/
theorem decodesSafely_iff (string : CString) (nvmKey : NvmKey) :
    (∀ fresh, DecodesSafely fresh string.text nvmKey) ↔
      ¬Accepted string.text ∨ trailingPadding string.text ≤ 3 ∧ ¬HidesLength string.text nvmKey := by
  by_cases accepted : Accepted string.text
  · rw [or_iff_right (not_not.mpr accepted)]
    constructor
    · intro safe
      have short := trailingPadding_of_safe accepted string.addressable safe
      refine ⟨short, ?_⟩
      intro hides
      obtain ⟨fresh, fails⟩ := hidesLength_unsafe accepted short string.addressable hides
      exact fails (safe fresh)
    · rintro ⟨short, visible⟩ fresh
      exact decodesSafely_of_visible fresh accepted short string.addressable visible
  · exact iff_of_true (fun fresh => decodesSafely_rejected fresh accepted) (.inl accepted)

/-- A text over the alphabet is a string. -/
def asCString (text : List Char) (accepted : Accepted text) (addressable : text.length < 2 ^ 64) : CString where
  text := text
  noNul := by
    intro nul
    exact absurd (List.all_eq_true.mp accepted.2 _ nul) (by decide)
  addressable := addressable

/-- Four padding characters wrap the size, four of them behind a round leave the buffer, and padding in the middle
makes the decoder accept a byte that nothing wrote. -/
theorem paddedStrings_unsafe :
    let wrapped := asCString "====".toList (by decide) (by decide)
    let long := asCString "AAAA====".toList (by decide) (by decide)
    let hidden := asCString "AAAAAA=AAAAAAAAA".toList (by decide) (by decide)
    b64DecodedSize wrapped.text = 2 ^ 64 - 1 ∧
      (¬∀ fresh, DecodesSafely fresh wrapped.text emptyKey) ∧ (¬∀ fresh, DecodesSafely fresh long.text emptyKey) ∧
      ¬∀ fresh, DecodesSafely fresh hidden.text emptyKey := by
  have hides : HidesLength "AAAAAA=AAAAAAAAA".toList emptyKey :=
    ⟨by decide, by decide, (4, 0), by decide, by decide⟩
  refine ⟨by decide, ?_, ?_, ?_⟩
  · intro safe
    exact absurd (trailingPadding_of_safe (by decide) (by decide) safe) (by decide)
  · intro safe
    exact absurd (trailingPadding_of_safe (by decide) (by decide) safe) (by decide)
  · obtain ⟨fresh, fails⟩ := hidesLength_unsafe (by decide) (by decide) (by decide) hides
    intro safe
    exact fails (safe fresh)

end SchcWork.Nvm
