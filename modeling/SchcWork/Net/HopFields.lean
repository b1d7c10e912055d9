import SchcWork.Net.Checksum

namespace SchcWork.Net

/-- The links keep these bits of a frame. The flow label and the hop limit may change. -/
def hopMask : Nat → UInt8
  | 1 => 0xF0
  | 2 | 3 | 7 => 0
  | _ => 0xFF

def maskHop (frame : List UInt8) : List UInt8 := frame.mapIdx fun index byte => byte &&& hopMask index

/-- Two frames agree up to the flow label and the hop limit. -/
def SameExceptHop (first second : List UInt8) : Prop := maskHop first = maskHop second

instance (first second : List UInt8) : Decidable (SameExceptHop first second) := inferInstanceAs (Decidable (_ = _))

theorem hopMask_eq {index : Nat} (kept : index = 0 ∨ 4 ≤ index ∧ index ≠ 7) : hopMask index = 0xFF := by
  unfold hopMask
  split <;> first | omega | rfl

theorem and_allOnes (byte : UInt8) : byte &&& 0xFF = byte := UInt8.and_neg_one

theorem SameExceptHop.length {first second : List UInt8} (same : SameExceptHop first second) :
    first.length = second.length := by
  have lengths := congrArg List.length same
  rwa [maskHop, maskHop, List.length_mapIdx, List.length_mapIdx] at lengths

theorem sameExceptHop_slices {first second : ByteMemory} {size : Nat} :
    SameExceptHop (first.slice 0 size) (second.slice 0 size) ↔
      ∀ index, index < size → first index &&& hopMask index = second index &&& hopMask index := by
  have masked (memory : ByteMemory) (index : Nat) (inside : index < size) :
      (maskHop (memory.slice 0 size))[index]? = some (memory index &&& hopMask index) := by
    rw [maskHop, List.getElem?_mapIdx, ByteMemory.getElem?_slice memory 0 inside, Nat.zero_add, Option.map_some]
  constructor
  · intro same index inside
    have bytes := congrArg (·[index]?) same
    rw [masked first index inside, masked second index inside] at bytes
    exact Option.some.inj bytes
  · intro same
    apply List.ext_getElem?
    intro index
    by_cases inside : index < size
    · rw [masked first index inside, masked second index inside, same index inside]
    · rw [List.getElem?_eq_none (by simpa [maskHop] using inside),
        List.getElem?_eq_none (by simpa [maskHop] using inside)]

/-- A common rest keeps the agreement. -/
theorem sameExceptHop_append {first second rest : List UInt8} (same : SameExceptHop first second) :
    SameExceptHop (first ++ rest) (second ++ rest) := by
  have length := same.length
  unfold SameExceptHop maskHop at same ⊢
  rw [List.mapIdx_append, List.mapIdx_append, same, length]

/-- Behind the first eight bytes the agreement is an equality. -/
theorem SameExceptHop.behind {first second rest others : List UInt8}
    (same : SameExceptHop (first ++ rest) (second ++ others))
    (firstLength : first.length = 8) (secondLength : second.length = 8) : rest = others := by
  have kept (bytes : List UInt8) : bytes.mapIdx (fun index byte => byte &&& hopMask (index + 8)) = bytes := by
    apply List.ext_getElem (List.length_mapIdx ..)
    intro index left right
    rw [List.getElem_mapIdx, hopMask_eq (by omega), and_allOnes]
  unfold SameExceptHop maskHop at same
  rw [List.mapIdx_append, List.mapIdx_append, firstLength, secondLength, kept, kept] at same
  exact (List.append_inj same (by rw [List.length_mapIdx, List.length_mapIdx, firstLength, secondLength])).2

/-- This memory takes the flow label and the hop limit from another packet. -/
def withHop (memory other : ByteMemory) : ByteMemory := fun index =>
  if hopMask index = 0xFF then memory index else other index

theorem withHop_kept (memory other : ByteMemory) {index : Nat} (kept : index = 0 ∨ 4 ≤ index ∧ index ≠ 7) :
    withHop memory other index = memory index := if_pos (hopMask_eq kept)

/-- The length fields and the checksum of a packet fit its payload. -/
structure Complete (packet : ByteMemory) (size : Nat) : Prop where
  fits : size ≤ 65527
  plen : networkWord packet 4 = 8 + size
  ulen : networkWord packet 44 = 8 + size
  verifies : ChecksumVerifies (packet.slice 0 (48 + size))
  nonzero : networkWord packet 46 ≠ 0

theorem complete_resize (packet : ByteMemory) {size : Nat} (fits : size ≤ 65527) :
    Complete (resize packet size) size := by
  obtain ⟨plen, ulen⟩ := resize_lengths packet fits
  exact ⟨fits, plen, ulen, (resize_wellFormed packet fits).verifies,
    Nat.ne_of_gt (updateUdpChecksum_nonzero (updateIp6UdpLen packet size))⟩

theorem Complete.resize_eq {packet : ByteMemory} {size : Nat} (whole : Complete packet size) :
    resize packet size = packet := resize_eq_self whole.fits whole.plen whole.ulen whole.verifies whole.nonzero

/-- The lengths and the checksum of a packet do not cover the flow label and the hop limit. -/
theorem Complete.withHop {memory : ByteMemory} {size : Nat} (whole : Complete memory size) (other : ByteMemory) :
    Complete (withHop memory other) size := by
  have fits := whole.fits
  have word (offset : Nat) (upper : 40 ≤ offset ∨ offset = 4) :
      networkWord (Net.withHop memory other) offset = networkWord memory offset :=
    networkWord_congr (withHop_kept _ _ (by omega)) (withHop_kept _ _ (by omega))
  have total : checksumTotal (Net.withHop memory other) (8 + size) = checksumTotal memory (8 + size) :=
    checksumTotal_congr fun index lower _ => withHop_kept _ _ (by omega)
  have verifies := whole.verifies
  rw [show 48 + size = 40 + (8 + size) by omega, checksumVerifies_slice _ (by omega)] at verifies
  refine ⟨fits, (word 4 (by omega)).trans whole.plen, (word 44 (by omega)).trans whole.ulen, ?_, ?_⟩
  · rw [show 48 + size = 40 + (8 + size) by omega, checksumVerifies_slice _ (by omega), total]
    exact verifies
  · rw [word 46 (by omega)]
    exact whole.nonzero

/-- A packet is restored up to the flow label and the hop limit from a memory that agrees up to them. -/
theorem Complete.restored {memory other : ByteMemory} {size : Nat} (whole : Complete memory size)
    (agree : ∀ index, index < 48 + size → ¬IsResized index →
      other index &&& hopMask index = memory index &&& hopMask index) :
    SameExceptHop (memory.slice 0 (48 + size)) ((resize other size).slice 0 (48 + size)) := by
  rw [sameExceptHop_slices]
  intro index inside
  have same : resize other size index = Net.withHop memory other index := by
    rw [← congrFun (whole.withHop other).resize_eq index]
    apply resize_congr whole.fits _ index inside
    intro other' bound unresized
    unfold Net.withHop
    split
    · rename_i full
      have bytes := agree other' bound unresized
      rwa [full, and_allOnes, and_allOnes] at bytes
    · rfl
  rw [same]
  unfold Net.withHop
  split
  · rfl
  · rename_i partial_
    have unresized : ¬IsResized index := by
      intro resized
      unfold IsResized at resized
      exact partial_ (hopMask_eq (by omega))
    exact (agree index inside unresized).symm

/-- A relayed packet with the right lengths and checksum stays as it is when it is resized. -/
theorem Complete.resize_relayed {memory other : ByteMemory} {size : Nat} (whole : Complete memory size)
    (agree : ∀ index, index < 48 + size → other index &&& hopMask index = memory index &&& hopMask index) :
    (resize other size).slice 0 (48 + size) = other.slice 0 (48 + size) := by
  have mixed (index : Nat) (inside : index < 48 + size) : other index = Net.withHop memory other index := by
    unfold Net.withHop
    split
    · rename_i full
      have bytes := agree index inside
      rwa [full, and_allOnes, and_allOnes] at bytes
    · rfl
  rw [ByteMemory.slice_eq_iff]
  intro index _ inside
  rw [resize_congr whole.fits (fun other bound _ => mixed other bound) index (by omega),
    congrFun (whole.withHop other).resize_eq index, mixed index (by omega)]

end SchcWork.Net
