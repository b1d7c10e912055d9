import SchcWork.Net.Udp

namespace SchcWork.Net

open OnesComplement

/-- This is the value of a 16-bit field of a frame in network byte order. -/
def frameWord (frame : List UInt8) (offset : Nat) : Nat :=
  256 * (frame.getD offset 0).toNat + (frame.getD (offset + 1) 0).toNat

/-- The pseudo-header holds both addresses, a 32-bit length, and the next header. -/
def pseudoHeader (source destination : List UInt8) (length : Nat) : List UInt8 :=
  source ++ destination ++ [UInt8.ofNat (length / 2 ^ 24), UInt8.ofNat (length / 2 ^ 16),
    UInt8.ofNat (length / 2 ^ 8), UInt8.ofNat length] ++ [0, 0, 0, 17]

/-- The ones'-complement sum of the pseudo-header and the UDP segment is the largest word. -/
def ChecksumVerifies (frame : List UInt8) : Prop :=
  let segment := frame.drop 40
  sum 0xFFFF (bigEndianWords
    (pseudoHeader ((frame.drop 8).take 16) ((frame.drop 24).take 16) segment.length ++ segment)) = 0xFFFF

instance (frame : List UInt8) : Decidable (ChecksumVerifies frame) :=
  inferInstanceAs (Decidable (_ = _))

/-- The frame size, both length fields, and the checksum of a frame agree. -/
structure FrameWellFormed (frame : List UInt8) : Prop where
  size : frame.length = 40 + frameWord frame 4
  udpLength : frameWord frame 44 = frameWord frame 4
  verifies : ChecksumVerifies frame

theorem csumAdd_eq (sum : Nat) (bytes : List UInt8) : csumAdd sum bytes = sum + (bigEndianWords bytes).sum := by
  induction bytes using bigEndianWords.induct generalizing sum with
  | case1 => simp [csumAdd, bigEndianWords]
  | case2 last =>
      simp only [csumAdd, bigEndianWords, Nat.shiftLeft_eq, List.sum_cons, List.sum_nil]
      omega
  | case3 high low rest ih =>
      have joined : high.toNat <<< 8 ||| low.toNat = 256 * high.toNat + low.toNat := by
        rw [← Nat.shiftLeft_add_eq_or_of_lt low.toNat_lt, Nat.shiftLeft_eq, Nat.mul_comm]
      rw [csumAdd, ih, joined, bigEndianWords, List.sum_cons, Nat.add_assoc]

/-- The carry loop ends with the residue of the sum. -/
theorem foldCarries_eq_residue (sum : Nat) : foldCarries sum = residue 0xFFFF sum := by
  induction sum using foldCarries.induct with
  | case1 sum done =>
      rw [foldCarries, if_pos done, residue_of_le]
      rw [Nat.shiftRight_eq_div_pow] at done
      omega
  | case2 sum more ih =>
      rw [foldCarries, if_neg more, ih]
      rw [Nat.shiftRight_eq_div_pow] at more
      have low : sum &&& 0xFFFF = sum % 2 ^ 16 := Nat.and_two_pow_sub_one_eq_mod sum 16
      rw [low, Nat.shiftRight_eq_div_pow, residue_eq_iff (by omega) (by omega)]
      have split : sum = sum % 2 ^ 16 + sum / 2 ^ 16 + 65535 * (sum / 2 ^ 16) := by omega
      exact (Nat.modEq_iff_dvd' (by omega)).mpr ⟨sum / 2 ^ 16, by omega⟩

/-- This is the plain sum of the pseudo-header and the segment of a packet. -/
def checksumTotal (memory : ByteMemory) (size : Nat) : Nat :=
  (bigEndianWords (memory.slice 8 16)).sum + (bigEndianWords (memory.slice 24 16)).sum +
    size / 2 ^ 16 % 2 ^ 16 + size % 2 ^ 16 + 17 + (bigEndianWords (memory.slice 40 size)).sum

/-- The checksum function returns the swapped complement of the total. -/
theorem udpChecksum_eq (memory : ByteMemory) (size : Nat) :
    udpChecksum memory 40 size 8 24 = htons (complement 0xFFFF (checksumTotal memory size)) := by
  have highHalf : size >>> 16 &&& 0xFFFF = size / 2 ^ 16 % 2 ^ 16 := by
    rw [Nat.shiftRight_eq_div_pow]
    exact Nat.and_two_pow_sub_one_eq_mod _ 16
  have lowHalf : size &&& 0xFFFF = size % 2 ^ 16 := Nat.and_two_pow_sub_one_eq_mod size 16
  have next : ipprotoUdp.toNat = 17 := rfl
  have total : csumAdd (csumAdd (csumAdd 0 (memory.slice 8 16)) (memory.slice 24 16) +
      (size >>> 16 &&& 0xFFFF) + (size &&& 0xFFFF) + ipprotoUdp.toNat) (memory.slice 40 size) =
      checksumTotal memory size := by
    simp only [csumAdd_eq, highHalf, lowHalf, next, checksumTotal, Nat.zero_add]
  have bound : residue 0xFFFF (checksumTotal memory size) ≤ 0xFFFF := residue_le (by decide) _
  simp only [udpChecksum, total, foldCarries_eq_residue]
  rw [Nat.mod_eq_of_lt (by omega), complement]
  congr 1
  split <;> split <;> omega

/-- The total depends only on the addresses and on the segment. -/
theorem checksumTotal_congr {first second : ByteMemory} {size : Nat}
    (same : ∀ index, 8 ≤ index → index < 40 + size → first index = second index) :
    checksumTotal first size = checksumTotal second size := by
  have source : first.slice 8 16 = second.slice 8 16 :=
    (ByteMemory.slice_eq_iff _ _ _ _).mpr fun index lower upper => same index lower (by omega)
  have destination : first.slice 24 16 = second.slice 24 16 :=
    (ByteMemory.slice_eq_iff _ _ _ _).mpr fun index lower upper => same index (by omega) (by omega)
  have segment : first.slice 40 size = second.slice 40 size :=
    (ByteMemory.slice_eq_iff _ _ _ _).mpr fun index lower upper => same index (by omega) (by omega)
  simp only [checksumTotal, source, destination, segment]

/-- The checksum field is one word of the segment, so the total contains it once. -/
theorem checksumTotal_split (memory : ByteMemory) {size : Nat} (room : 8 ≤ size) :
    checksumTotal memory size =
      checksumTotal (memory.store16 46 0) size + networkWord memory 46 := by
  have segment (packet : ByteMemory) : (bigEndianWords (packet.slice 40 size)).sum =
      (bigEndianWords (packet.slice 40 6)).sum + networkWord packet 46 +
        (bigEndianWords (packet.slice 48 (size - 8))).sum := by
    have pieces : packet.slice 40 size = packet.slice 40 6 ++ (packet.slice 46 2 ++ packet.slice 48 (size - 8)) := by
      rw [← ByteMemory.slice_append packet 46 2 (size - 8), ← ByteMemory.slice_append packet 40 6]
      congr 1
      omega
    have field : bigEndianWords (packet.slice 46 2) = [networkWord packet 46] := rfl
    rw [pieces, bigEndianWords_append _ _ (by simp), bigEndianWords_append _ _ (by simp), field]
    simp only [List.sum_append, List.sum_cons, List.sum_nil]
    omega
  have cleared : networkWord (memory.store16 46 0) 46 = 0 := by
    simp [networkWord, ByteMemory.store16_low, ByteMemory.store16_high]
  have outside (start length : Nat) (apart : start + length ≤ 46 ∨ 48 ≤ start) :
      (memory.store16 46 0).slice start length = memory.slice start length :=
    ByteMemory.slice_store_disjoint memory 46 _ start length (by simpa using apart)
  simp only [checksumTotal, segment, cleared, outside 8 16 (by omega), outside 24 16 (by omega),
    outside 40 6 (by omega), outside 48 (size - 8) (by omega)]
  omega

theorem frameWord_slice (memory : ByteMemory) {size offset : Nat} (inside : offset + 2 ≤ size) :
    frameWord (memory.slice 0 size) offset = networkWord memory offset := by
  have high := ByteMemory.getElem?_slice memory 0 (show offset < size by omega)
  have low := ByteMemory.getElem?_slice memory 0 (show offset + 1 < size by omega)
  rw [Nat.zero_add] at high low
  simp only [frameWord, networkWord, List.getD_eq_getElem?_getD, high, low, Option.getD_some]

private theorem pseudoHeader_sum (memory : ByteMemory) {size : Nat} (fits : size < 2 ^ 32) :
    (bigEndianWords (pseudoHeader (memory.slice 8 16) (memory.slice 24 16) size)).sum =
      (bigEndianWords (memory.slice 8 16)).sum + (bigEndianWords (memory.slice 24 16)).sum +
        size / 2 ^ 16 % 2 ^ 16 + size % 2 ^ 16 + 17 := by
  rw [pseudoHeader, bigEndianWords_append _ _ (by simp), bigEndianWords_append _ _ (by simp),
    bigEndianWords_append _ _ (by simp)]
  simp only [List.sum_append, bigEndianWords, List.sum_cons, List.sum_nil, UInt8.toNat_ofNat']
  have zero : (0 : UInt8).toNat = 0 := rfl
  have next : (17 : UInt8).toNat = 17 := rfl
  rw [zero, next]
  omega

/-- The total is the plain sum of the words of the pseudo-header and the segment. -/
theorem checksumTotal_eq_words (memory : ByteMemory) {size : Nat} (fits : size < 2 ^ 32) :
    checksumTotal memory size = (bigEndianWords (pseudoHeader (memory.slice 8 16) (memory.slice 24 16) size ++
      memory.slice 40 size)).sum := by
  have even : (pseudoHeader (memory.slice 8 16) (memory.slice 24 16) size).length % 2 = 0 := by
    simp [pseudoHeader]
  rw [bigEndianWords_append _ _ even, List.sum_append, pseudoHeader_sum memory fits]
  rfl

/-- The rule holds exactly when the total represents the largest word. -/
theorem checksumVerifies_slice (memory : ByteMemory) {size : Nat} (fits : size < 2 ^ 32) :
    ChecksumVerifies (memory.slice 0 (40 + size)) ↔
      residue 0xFFFF (checksumTotal memory size) = 0xFFFF := by
  have segment : (memory.slice 0 (40 + size)).drop 40 = memory.slice 40 size := by
    rw [ByteMemory.drop_slice]
    congr 1
    omega
  have source : ((memory.slice 0 (40 + size)).drop 8).take 16 = memory.slice 8 16 := by
    rw [ByteMemory.drop_slice, ByteMemory.take_slice]
    congr 1
    omega
  have destination : ((memory.slice 0 (40 + size)).drop 24).take 16 = memory.slice 24 16 := by
    rw [ByteMemory.drop_slice, ByteMemory.take_slice]
    congr 1
    omega
  simp only [ChecksumVerifies, segment, source, destination, ByteMemory.length_slice]
  rw [sum_eq_residue (by decide) _ (bigEndianWords_bounded _), ← checksumTotal_eq_words memory fits]

/-- The update stores the complement of the total without the checksum field. -/
theorem updateUdpChecksum_field (packet : ByteMemory) :
    networkWord (updateUdpChecksum packet) 46 =
      complement 0xFFFF (checksumTotal (packet.store16 46 0) (networkWord packet 44)) := by
  have bound : complement 0xFFFF (checksumTotal (packet.store16 46 0) (networkWord packet 44)) ≤ 0xFFFF :=
    complement_le (by decide) _
  simp only [updateUdpChecksum, ntohs_load16]
  change networkWord ((packet.store16 46 0).store16 46
    (udpChecksum (packet.store16 46 0) 40 (networkWord packet 44) 8 24)) 46 = _
  rw [udpChecksum_eq, networkWord_store16 _ _ _ (by omega)]

/-- The update makes the checksum rule hold for the length that the header states. -/
theorem updateUdpChecksum_verifies (packet : ByteMemory) (room : 8 ≤ networkWord packet 44) :
    ChecksumVerifies ((updateUdpChecksum packet).slice 0 (40 + networkWord packet 44)) := by
  have bound := networkWord_lt packet 44
  rw [checksumVerifies_slice _ (by omega), checksumTotal_split _ room]
  have total : checksumTotal ((updateUdpChecksum packet).store16 46 0) (networkWord packet 44) =
      checksumTotal (packet.store16 46 0) (networkWord packet 44) := by
    apply checksumTotal_congr
    intro index lower upper
    by_cases field : index = 46 ∨ index = 47
    · rcases field with rfl | rfl
      · rw [ByteMemory.store16_low, ByteMemory.store16_low]
      · exact (ByteMemory.store16_high _ 46 0).trans (ByteMemory.store16_high _ 46 0).symm
    · rw [ByteMemory.store16_outside _ _ _ (by omega), ByteMemory.store16_outside _ _ _ (by omega),
        updateUdpChecksum_outside packet (by omega)]
  rw [total, updateUdpChecksum_field]
  exact residue_add_complement (by decide) _

/-- The stored checksum is never the reserved zero. -/
theorem updateUdpChecksum_nonzero (packet : ByteMemory) : 0 < networkWord (updateUdpChecksum packet) 46 := by
  rw [updateUdpChecksum_field]
  exact complement_pos (by decide) _

/-- A nonzero checksum that verifies is the only one, so an update keeps it. -/
theorem updateUdpChecksum_keeps (packet : ByteMemory) (room : 8 ≤ networkWord packet 44)
    (verifies : ChecksumVerifies (packet.slice 0 (40 + networkWord packet 44)))
    (nonzero : networkWord packet 46 ≠ 0) :
    networkWord (updateUdpChecksum packet) 46 = networkWord packet 46 := by
  have bound := networkWord_lt packet 44
  have fieldBound := networkWord_lt packet 46
  rw [checksumVerifies_slice _ (by omega), checksumTotal_split _ room] at verifies
  rw [updateUdpChecksum_field]
  exact (complement_unique (by omega) (by omega) verifies).symm

/-- This pair of updates gives the packet the length and the checksum of a new payload. -/
def resize (packet : ByteMemory) (size : Nat) : ByteMemory := updateUdpChecksum (updateIp6UdpLen packet size)

/-- Resizing changes only the two length fields and the checksum field. -/
theorem resize_outside (packet : ByteMemory) (size : Nat) {index : Nat} (plen : index ≠ 4 ∧ index ≠ 5)
    (ulen : index ≠ 44 ∧ index ≠ 45) (sum : index ≠ 46 ∧ index ≠ 47) : resize packet size index = packet index := by
  rw [resize, updateUdpChecksum_outside _ sum, updateIp6UdpLen_outside _ _ plen ulen]

theorem resize_lengths (packet : ByteMemory) {size : Nat} (fits : size ≤ 65527) :
    networkWord (resize packet size) 4 = 8 + size ∧ networkWord (resize packet size) 44 = 8 + size := by
  have fields := updateIp6UdpLen_fields packet fits
  constructor
  · rw [← fields.1]
    exact networkWord_congr (updateUdpChecksum_outside _ (by decide)) (updateUdpChecksum_outside _ (by decide))
  · rw [← fields.2]
    exact networkWord_congr (updateUdpChecksum_outside _ (by decide)) (updateUdpChecksum_outside _ (by decide))

/-- Resizing writes the length fields and the checksum field, so packets may differ there. -/
def IsResized (index : Nat) : Prop := index = 4 ∨ index = 5 ∨ index = 44 ∨ index = 45 ∨ index = 46 ∨ index = 47

/-- Packets that agree outside the written fields agree everywhere after resizing. -/
theorem resize_congr {first second : ByteMemory} {size : Nat} (fits : size ≤ 65527)
    (same : ∀ index, index < 48 + size → ¬IsResized index → first index = second index) :
    ∀ index, index < 48 + size → resize first size index = resize second size index := by
  intro index inside
  have cleared : ∀ index, index < 48 + size →
      (updateIp6UdpLen first size).store16 46 0 index = (updateIp6UdpLen second size).store16 46 0 index := by
    intro index inside
    refine ByteMemory.store_congr _ _ fun outsideSum => ByteMemory.store_congr _ _ fun outsideUlen =>
      ByteMemory.store_congr _ _ fun outsidePlen => same index inside ?_
    simp only [uhUlenOffset, ip6PlenOffset, sizeofIp6Hdr, List.length_cons, List.length_nil] at *
    unfold IsResized
    omega
  have firstLength := (updateIp6UdpLen_fields first fits).2
  have secondLength := (updateIp6UdpLen_fields second fits).2
  by_cases field : index = 46 ∨ index = 47
  · have total : checksumTotal ((updateIp6UdpLen first size).store16 46 0) (8 + size) =
        checksumTotal ((updateIp6UdpLen second size).store16 46 0) (8 + size) :=
      checksumTotal_congr fun index _ upper => cleared index (by omega)
    have word : networkWord (resize first size) 46 = networkWord (resize second size) 46 := by
      rw [resize, resize, updateUdpChecksum_field, updateUdpChecksum_field, firstLength, secondLength, total]
    obtain ⟨high, low⟩ := bytes_eq_of_networkWord word
    rcases field with rfl | rfl
    · exact high
    · exact low
  · have kept := cleared index inside
    rw [ByteMemory.store16_outside _ _ _ (by omega), ByteMemory.store16_outside _ _ _ (by omega)] at kept
    rw [resize, resize, updateUdpChecksum_outside _ (by omega), updateUdpChecksum_outside _ (by omega), kept]

/-- The length update keeps a packet whose fields already hold the length. -/
theorem updateIp6UdpLen_eq_self {packet : ByteMemory} {size : Nat} (fits : size ≤ 65527)
    (plen : networkWord packet 4 = 8 + size) (ulen : networkWord packet 44 = 8 + size) :
    updateIp6UdpLen packet size = packet := by
  obtain ⟨newPlen, newUlen⟩ := updateIp6UdpLen_fields packet fits
  obtain ⟨plenHigh, plenLow⟩ := bytes_eq_of_networkWord (newPlen.trans plen.symm)
  obtain ⟨ulenHigh, ulenLow⟩ := bytes_eq_of_networkWord (newUlen.trans ulen.symm)
  funext index
  by_cases field : index = 4 ∨ index = 5 ∨ index = 44 ∨ index = 45
  · rcases field with rfl | rfl | rfl | rfl
    · exact plenHigh
    · exact plenLow
    · exact ulenHigh
    · exact ulenLow
  · exact updateIp6UdpLen_outside packet size (by omega) (by omega)

/-- Resizing keeps a packet with the right lengths and a nonzero checksum that verifies. -/
theorem resize_eq_self {packet : ByteMemory} {size : Nat} (fits : size ≤ 65527)
    (plen : networkWord packet 4 = 8 + size) (ulen : networkWord packet 44 = 8 + size)
    (verifies : ChecksumVerifies (packet.slice 0 (48 + size))) (nonzero : networkWord packet 46 ≠ 0) :
    resize packet size = packet := by
  have whole : 40 + networkWord packet 44 = 48 + size := by omega
  have field := updateUdpChecksum_keeps packet (by omega) (by rwa [whole]) nonzero
  obtain ⟨high, low⟩ := bytes_eq_of_networkWord field
  rw [resize, updateIp6UdpLen_eq_self fits plen ulen]
  funext index
  by_cases sum : index = 46 ∨ index = 47
  · rcases sum with rfl | rfl
    · exact high
    · exact low
  · exact updateUdpChecksum_outside packet (by omega)

/-- A resized packet is a well-formed frame. -/
theorem resize_wellFormed (packet : ByteMemory) {size : Nat} (fits : size ≤ 65527) :
    FrameWellFormed ((resize packet size).slice 0 (48 + size)) := by
  have lengths := resize_lengths packet fits
  have inner := (updateIp6UdpLen_fields packet fits).2
  have verifies := updateUdpChecksum_verifies (updateIp6UdpLen packet size) (by omega)
  have whole : 40 + networkWord (updateIp6UdpLen packet size) 44 = 48 + size := by omega
  constructor
  · rw [ByteMemory.length_slice, frameWord_slice _ (by omega), lengths.1]
    omega
  · rw [frameWord_slice _ (by omega), frameWord_slice _ (by omega), lengths.1, lengths.2]
  · rw [whole] at verifies
    exact verifies

/-- The two updates touch only the headers and the payload of the new length. -/
theorem resizeTouches_within (packet : ByteMemory) {size : Nat} (fits : size ≤ 65527) :
    ∀ span ∈ updateIp6UdpLenTouches ++ updateUdpChecksumTouches (updateIp6UdpLen packet size),
      span.Within (48 + size) := by
  have ulen : ntohs ((updateIp6UdpLen packet size).load16 uhUlenOffset) = 8 + size := by
    rw [ntohs_load16]
    exact (updateIp6UdpLen_fields packet fits).2
  intro span member
  simp only [updateIp6UdpLenTouches, updateUdpChecksumTouches, ulen, List.cons_append, List.nil_append,
    List.mem_cons, List.not_mem_nil, or_false] at member
  simp only [ip6PlenOffset, uhUlenOffset, uhSumOffset, ip6SrcOffset, ip6DstOffset, sizeofIp6Hdr] at member
  unfold ByteSpan.Within
  rcases member with rfl | rfl | rfl | rfl | rfl | rfl | rfl
  all_goals dsimp only
  all_goals omega

/-- The two updates give a packet the lengths and the checksum of its payload, and a second pair of
updates finds nothing to change. -/
theorem lengthAndChecksumUpdates_correct (packet : ByteMemory) (size : Nat) (fits : size ≤ 65527) :
    let updated := updateUdpChecksum (updateIp6UdpLen packet size)
    networkWord updated ip6PlenOffset = 8 + size ∧
    networkWord updated uhUlenOffset = 8 + size ∧
    ipv6UdpPayloadLen updated = size ∧
    networkWord updated uhSumOffset ≠ 0 ∧
    ChecksumVerifies (updated.slice 0 (48 + size)) ∧
    (∀ index, ¬IsResized index → updated index = packet index) ∧
    (∀ span ∈ updateIp6UdpLenTouches ++ updateUdpChecksumTouches (updateIp6UdpLen packet size),
      span.Within (48 + size)) ∧
    updateUdpChecksum (updateIp6UdpLen updated size) = updated := by
  intro updated
  have lengths := resize_lengths packet fits
  have nonzero : networkWord updated uhSumOffset ≠ 0 := by
    have positive := updateUdpChecksum_nonzero (updateIp6UdpLen packet size)
    exact Nat.ne_of_gt positive
  have verifies : ChecksumVerifies (updated.slice 0 (48 + size)) := (resize_wellFormed packet fits).verifies
  have payload : ipv6UdpPayloadLen updated = size := by
    rw [ipv6UdpPayloadLen_eq]
    have ulen : networkWord updated 44 = 8 + size := lengths.2
    omega
  refine ⟨lengths.1, lengths.2, payload, nonzero, verifies, ?_, resizeTouches_within packet fits, ?_⟩
  · intro index outside
    unfold IsResized at outside
    exact resize_outside packet size (by omega) (by omega) (by omega)
  · exact resize_eq_self fits lengths.1 lengths.2 verifies nonzero

theorem threeBytePayload_updates_correct :
    let updated := updateUdpChecksum (updateIp6UdpLen UInt8.ofNat 3)
    networkWord updated ip6PlenOffset = 8 + 3 ∧
    networkWord updated uhUlenOffset = 8 + 3 ∧
    ipv6UdpPayloadLen updated = 3 ∧
    networkWord updated uhSumOffset ≠ 0 ∧
    ChecksumVerifies (updated.slice 0 (48 + 3)) ∧
    (∀ index, ¬IsResized index → updated index = UInt8.ofNat index) ∧
    (∀ span ∈ updateIp6UdpLenTouches ++ updateUdpChecksumTouches (updateIp6UdpLen UInt8.ofNat 3),
      span.Within (48 + 3)) ∧
    updateUdpChecksum (updateIp6UdpLen updated 3) = updated :=
  lengthAndChecksumUpdates_correct UInt8.ofNat 3 (by decide)

end SchcWork.Net
