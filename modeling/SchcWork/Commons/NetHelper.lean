import SchcWork.Net.Checksum

namespace SchcWork.Commons

open OnesComplement
open SchcWork.Net (foldCarries htons sizeofUdphdr ipprotoUdp pseudoHeader checksumTotal)

/-- The loop adds words of the host, and an odd last byte is added alone. -/
def addHostWords (sum : Nat) : List UInt8 → Nat
  | [] => sum
  | [last] => sum + last.toNat
  | low :: high :: rest => addHostWords (sum + (low.toNat + 256 * high.toNat)) rest

/-- The result keeps the low 16 bits of the inverted sum. -/
def checksum (buffer : List UInt8) : Nat := 0xFFFF - foldCarries (addHostWords 0 buffer) % 2 ^ 16

/-- These are the bytes that a stored `htonl(word)` occupies. -/
def htonl (word : Nat) : List UInt8 :=
  [UInt8.ofNat (word / 2 ^ 24), UInt8.ofNat (word / 2 ^ 16), UInt8.ofNat (word / 2 ^ 8), UInt8.ofNat word]

/-- The function copies the headers and the payload into one cleared buffer. -/
def checksumBuffer (src dst udp payload : List UInt8) : ByteMemory :=
  let pseudoHeader : ByteMemory := fun _ => 0
  let pseudoHeader := pseudoHeader.store 0 src
  let pseudoHeader := pseudoHeader.store 16 dst
  let pseudoHeader := pseudoHeader.store 32 (htonl (sizeofUdphdr + payload.length))
  let pseudoHeader := pseudoHeader.store 39 [ipprotoUdp]
  let pseudoHeader := pseudoHeader.store 40 udp
  pseudoHeader.store (40 + sizeofUdphdr) payload

/-- The four pointers are offsets into one memory. -/
def udpChecksum (memory : ByteMemory) (src dst udp payload payloadLen : Nat) : Nat :=
  let pseudoHeader := checksumBuffer (memory.slice src 16) (memory.slice dst 16)
    (memory.slice udp sizeofUdphdr) (memory.slice payload payloadLen)
  checksum (pseudoHeader.slice 0 (40 + sizeofUdphdr + payloadLen))

theorem addHostWords_eq (sum : Nat) (bytes : List UInt8) :
    addHostWords sum bytes = sum + (littleEndianWords bytes).sum := by
  induction bytes using littleEndianWords.induct generalizing sum with
  | case1 => rfl
  | case2 last => rfl
  | case3 low high rest ih => rw [addHostWords, ih, littleEndianWords, List.sum_cons, Nat.add_assoc]

/-- The result is the plain complement, so it is zero for the largest word. -/
theorem checksum_eq (buffer : List UInt8) :
    checksum buffer = 0xFFFF - residue 0xFFFF (littleEndianWords buffer).sum := by
  have bound := residue_le (show 0 < 0xFFFF by decide) (littleEndianWords buffer).sum
  rw [checksum, addHostWords_eq, Nat.zero_add, Net.foldCarries_eq_residue, Nat.mod_eq_of_lt (by omega)]

/-- A byte shift of a word is its swap up to a multiple of the largest word. -/
theorem htons_shift {word : Nat} (fits : word ≤ 0xFFFF) : 256 * word = htons word + 65535 * (word / 256) := by
  unfold htons
  omega

/-- A byte shift of the total swaps the bytes of its residue. -/
theorem residue_shifted {total shifted : Nat} (positive : 0 < total) (shiftedPos : 0 < shifted)
    (congruent : shifted ≡ 256 * total [MOD 65535]) :
    residue 0xFFFF shifted = htons (residue 0xFFFF total) := by
  have bound := residue_le (show 0 < 0xFFFF by decide) total
  have represented : 0 < residue 0xFFFF total := residue_pos positive
  have swapped : htons (residue 0xFFFF total) ≤ 0xFFFF := by
    unfold htons
    omega
  have nonzero : 0 < htons (residue 0xFFFF total) := by
    unfold htons
    omega
  rw [← residue_of_le swapped, residue_eq_iff shiftedPos nonzero]
  have shift := (residue_modEq 0xFFFF total).mul_left 256
  apply congruent.trans
  apply shift.symm.trans
  rw [htons_shift bound, Nat.ModEq, Nat.add_mul_mod_self_left]

/-- The copied buffer is the pseudo-header followed by the segment. -/
theorem checksumBuffer_slice {src dst udp : List UInt8} (payload : List UInt8) (srcSize : src.length = 16)
    (dstSize : dst.length = 16) (udpSize : udp.length = 8) :
    (checksumBuffer src dst udp payload).slice 0 (40 + sizeofUdphdr + payload.length) =
      pseudoHeader src dst (8 + payload.length) ++ (udp ++ payload) := by
  have pieces (buffer : ByteMemory) : buffer.slice 0 (40 + sizeofUdphdr + payload.length) =
      buffer.slice 0 16 ++ (buffer.slice 16 16 ++ (buffer.slice 32 4 ++ (buffer.slice 36 4 ++
        (buffer.slice 40 8 ++ buffer.slice 48 payload.length)))) := by
    simp only [← ByteMemory.slice_append buffer, sizeofUdphdr]
    congr 1
    omega
  have source : (checksumBuffer src dst udp payload).slice 0 16 = src := by
    simp only [checksumBuffer, sizeofUdphdr]
    rw [ByteMemory.slice_store_disjoint, ByteMemory.slice_store_disjoint, ByteMemory.slice_store_disjoint,
      ByteMemory.slice_store_disjoint, ByteMemory.slice_store_disjoint, ByteMemory.slice_store_eq _ _ srcSize]
    all_goals omega
  have destination : (checksumBuffer src dst udp payload).slice 16 16 = dst := by
    simp only [checksumBuffer, sizeofUdphdr]
    rw [ByteMemory.slice_store_disjoint, ByteMemory.slice_store_disjoint, ByteMemory.slice_store_disjoint,
      ByteMemory.slice_store_disjoint, ByteMemory.slice_store_eq _ _ dstSize]
    all_goals omega
  have length : (checksumBuffer src dst udp payload).slice 32 4 = htonl (8 + payload.length) := by
    simp only [checksumBuffer, sizeofUdphdr]
    rw [ByteMemory.slice_store_disjoint, ByteMemory.slice_store_disjoint, ByteMemory.slice_store_disjoint]
    · exact ByteMemory.slice_store_eq _ _ rfl
    all_goals omega
  have next : (checksumBuffer src dst udp payload).slice 36 4 = [0, 0, 0, 17] := by
    simp only [checksumBuffer, sizeofUdphdr]
    rw [ByteMemory.slice_store_disjoint, ByteMemory.slice_store_disjoint]
    · simp [ByteMemory.slice, ByteMemory.store, htonl, srcSize, dstSize, ipprotoUdp, List.range_succ]
    all_goals omega
  have header : (checksumBuffer src dst udp payload).slice 40 8 = udp := by
    simp only [checksumBuffer, sizeofUdphdr]
    rw [ByteMemory.slice_store_disjoint, ByteMemory.slice_store_eq _ _ udpSize]
    omega
  have body : (checksumBuffer src dst udp payload).slice 48 payload.length = payload := by
    simp only [checksumBuffer, sizeofUdphdr]
    exact ByteMemory.slice_store_eq _ _ rfl
  rw [pieces, source, destination, length, next, header, body]
  simp only [pseudoHeader, htonl, List.append_assoc]

/-- The helper returns the swapped complement without the rule for the reserved zero. -/
theorem udpChecksum_eq (memory : ByteMemory) {size : Nat} (fits : size ≤ 65527) :
    udpChecksum memory 8 24 40 48 size =
      0xFFFF - htons (residue 0xFFFF (checksumTotal memory (8 + size))) := by
  have segment : memory.slice 40 8 ++ memory.slice 48 size = memory.slice 40 (8 + size) :=
    (ByteMemory.slice_append memory 40 8 size).symm
  have buffer := checksumBuffer_slice (memory.slice 48 size) (ByteMemory.length_slice memory 8 16)
    (ByteMemory.length_slice memory 24 16) (ByteMemory.length_slice memory 40 8)
  rw [ByteMemory.length_slice, segment] at buffer
  have words := Net.checksumTotal_eq_words memory (show 8 + size < 2 ^ 32 by omega)
  have positive : 0 < checksumTotal memory (8 + size) := by
    unfold checksumTotal
    omega
  have total : residue 0xFFFF (littleEndianWords (pseudoHeader (memory.slice 8 16) (memory.slice 24 16) (8 + size) ++
      memory.slice 40 (8 + size))).sum = htons (residue 0xFFFF (checksumTotal memory (8 + size))) := by
    rw [words] at positive ⊢
    exact residue_shifted positive (littleEndianWords_sum_pos positive) (littleEndianWords_sum_modEq _)
  simp only [udpChecksum, checksum_eq]
  rw [← total, ← buffer]
  rfl

/-- This is the plain sum of the words that a UDP checksum covers. -/
def datagramWordSum (memory : ByteMemory) (size : Nat) : Nat :=
  (bigEndianWords (pseudoHeader (memory.slice 8 16) (memory.slice 24 16) (8 + size) ++
    memory.slice 40 (8 + size))).sum

/-- The two functions return one nonzero value for a datagram. -/
def ChecksumsAgree (memory : ByteMemory) (size : Nat) : Prop :=
  udpChecksum memory 8 24 40 48 size = Net.udpChecksum memory 40 (8 + size) 8 24 ∧
    udpChecksum memory 8 24 40 48 size ≠ 0 ∧ Net.udpChecksum memory 40 (8 + size) 8 24 ≠ 0

/-- Swapping the bytes of a complement complements the swapped bytes. -/
theorem htons_sub {word : Nat} (fits : word ≤ 0xFFFF) : htons (0xFFFF - word) = 0xFFFF - htons word := by
  unfold htons
  omega

/-- The functions agree exactly when the words do not add up to a multiple of the largest word. -/
theorem checksumsAgree_iff (memory : ByteMemory) (size : Nat) (fits : size ≤ 65527) :
    ChecksumsAgree memory size ↔ ¬65535 ∣ datagramWordSum memory size := by
  have words : checksumTotal memory (8 + size) = datagramWordSum memory size :=
    Net.checksumTotal_eq_words memory (by omega)
  have positive : 0 < checksumTotal memory (8 + size) := by
    unfold checksumTotal
    omega
  have bound := residue_le (show 0 < 0xFFFF by decide) (checksumTotal memory (8 + size))
  have represented : 0 < residue 0xFFFF (checksumTotal memory (8 + size)) := residue_pos positive
  have largest := residue_eq_limit_iff (show 0 < 0xFFFF by decide) positive
  rw [← words, ← largest, ChecksumsAgree, udpChecksum_eq memory fits, Net.udpChecksum_eq, complement]
  by_cases whole : residue 0xFFFF (checksumTotal memory (8 + size)) = 0xFFFF
  · rw [if_pos whole, whole]
    decide
  · rw [if_neg whole, htons_sub bound]
    have shift := htons_shift bound
    have smaller : htons (residue 0xFFFF (checksumTotal memory (8 + size))) < 0xFFFF := by omega
    have nonzero : 0xFFFF - htons (residue 0xFFFF (checksumTotal memory (8 + size))) ≠ 0 := by omega
    exact iff_of_true ⟨rfl, nonzero, nonzero⟩ whole

theorem clearedDatagram_agrees : ChecksumsAgree (fun _ => 0) 3 :=
  (checksumsAgree_iff (fun _ => 0) 3 (by decide)).mpr (by decide)

/-- The words of this loopback datagram add up to the largest word. -/
def zeroSumDatagram : ByteMemory :=
  let memory : ByteMemory := fun _ => 0
  ((memory.store 23 [1]).store 39 [1]).store 40 [0x16, 0x33, 0x16, 0x33, 0, 10, 0, 0, 0xD3, 0x72]

theorem zeroSumDatagram_disagrees :
    Net.networkWord zeroSumDatagram 44 = 8 + 2 ∧ Net.networkWord zeroSumDatagram 46 = 0 ∧
      udpChecksum zeroSumDatagram 8 24 40 48 2 = 0 ∧ ¬ChecksumsAgree zeroSumDatagram 2 := by
  have zero : udpChecksum zeroSumDatagram 8 24 40 48 2 = 0 := by
    rw [udpChecksum_eq _ (by decide)]
    decide
  refine ⟨by decide, by decide, zero, ?_⟩
  intro agree
  exact agree.2.1 zero

end SchcWork.Commons
