import SchcWork.Net.Checksum
import SchcWork.Net.HopFields
import SchcWork.Schc.OuterCompression

namespace SchcWork.Schc

open BitString HeaderCompression Net OnesComplement

/-- These are the eight bytes before the addresses. -/
def Ipv6Header.front (ipv6 : Ipv6Header) : List UInt8 :=
  bitsBytes (wordBits ipv6.version ++ wordBits ipv6.trafficClass ++ wordBits ipv6.flowLabel) ++
    wordBytes ipv6.payloadLength ++ wordBytes ipv6.nextHeader ++ wordBytes ipv6.hopLimit

def Ipv6Header.deviceAddress (ipv6 : Ipv6Header) : List UInt8 := wordBytes ipv6.prefixDev ++ wordBytes ipv6.iidDev

def Ipv6Header.applicationAddress (ipv6 : Ipv6Header) : List UInt8 :=
  wordBytes ipv6.prefixApp ++ wordBytes ipv6.iidApp

/-- The source address comes first. -/
def Ipv6Header.addresses (direction : Direction) (ipv6 : Ipv6Header) : List UInt8 :=
  if direction = .down then ipv6.applicationAddress ++ ipv6.deviceAddress
  else ipv6.deviceAddress ++ ipv6.applicationAddress

/-- The source port comes first. -/
def UdpHeader.ports (direction : Direction) (udp : UdpHeader) : List UInt8 :=
  if direction = .down then wordBytes udp.portApp ++ wordBytes udp.portDev
  else wordBytes udp.portDev ++ wordBytes udp.portApp

namespace Packet

/-- The UDP header and the data follow the addresses. -/
def segment (direction : Direction) (packet : Packet) : List UInt8 :=
  packet.udp.ports direction ++ (wordBytes packet.udp.length ++ (wordBytes packet.udp.checksum ++ packet.datagramData))

def frame (direction : Direction) (packet : Packet) : List UInt8 :=
  packet.ipv6.front ++ (packet.ipv6.addresses direction ++ packet.segment direction)

end Packet

theorem Ipv6Header.length_front (ipv6 : Ipv6Header) : ipv6.front.length = 8 := by
  have first : (bitsBytes (wordBits ipv6.version ++ wordBits ipv6.trafficClass ++ wordBits ipv6.flowLabel)).length =
      4 := length_bitsBytes (by simp only [List.length_append, wordBits_length])
  have payloadLength : (wordBytes ipv6.payloadLength).length = 2 := length_wordBytes _ 2 rfl
  have nextHeader : (wordBytes ipv6.nextHeader).length = 1 := length_wordBytes _ 1 rfl
  have hopLimit : (wordBytes ipv6.hopLimit).length = 1 := length_wordBytes _ 1 rfl
  rw [Ipv6Header.front, List.length_append, List.length_append, List.length_append, first, payloadLength, nextHeader,
    hopLimit]

theorem Ipv6Header.length_deviceAddress (ipv6 : Ipv6Header) : ipv6.deviceAddress.length = 16 := by
  have prefixLength : (wordBytes ipv6.prefixDev).length = 8 := length_wordBytes _ 8 rfl
  have iidLength : (wordBytes ipv6.iidDev).length = 8 := length_wordBytes _ 8 rfl
  rw [Ipv6Header.deviceAddress, List.length_append, prefixLength, iidLength]

theorem Ipv6Header.length_applicationAddress (ipv6 : Ipv6Header) : ipv6.applicationAddress.length = 16 := by
  have prefixLength : (wordBytes ipv6.prefixApp).length = 8 := length_wordBytes _ 8 rfl
  have iidLength : (wordBytes ipv6.iidApp).length = 8 := length_wordBytes _ 8 rfl
  rw [Ipv6Header.applicationAddress, List.length_append, prefixLength, iidLength]

theorem Ipv6Header.length_addresses (direction : Direction) (ipv6 : Ipv6Header) :
    (ipv6.addresses direction).length = 32 := by
  unfold Ipv6Header.addresses
  split <;> rw [List.length_append, ipv6.length_deviceAddress, ipv6.length_applicationAddress]

theorem UdpHeader.length_ports (direction : Direction) (udp : UdpHeader) : (udp.ports direction).length = 4 := by
  have device : (wordBytes udp.portDev).length = 2 := length_wordBytes _ 2 rfl
  have application : (wordBytes udp.portApp).length = 2 := length_wordBytes _ 2 rfl
  unfold UdpHeader.ports
  split <;> rw [List.length_append, device, application]

namespace Packet

theorem length_segment (direction : Direction) (packet : Packet) :
    (packet.segment direction).length = packet.datagramLength := by
  have size : (wordBytes packet.udp.length).length = 2 := length_wordBytes _ 2 rfl
  have sum : (wordBytes packet.udp.checksum).length = 2 := length_wordBytes _ 2 rfl
  rw [segment, List.length_append, List.length_append, List.length_append, packet.udp.length_ports, size, sum,
    datagramLength]
  omega

theorem length_frame (direction : Direction) (packet : Packet) :
    (packet.frame direction).length = 40 + packet.datagramLength := by
  rw [frame, List.length_append, List.length_append, packet.ipv6.length_front, packet.ipv6.length_addresses,
    packet.length_segment]
  omega

end Packet

theorem frameWord_append_right {first : List UInt8} (rest : List UInt8) {offset size : Nat}
    (length : first.length = size) (behind : size ≤ offset) :
    frameWord (first ++ rest) offset = frameWord rest (offset - size) := by
  have next : offset + 1 - size = offset - size + 1 := by omega
  simp only [frameWord, List.getD_eq_getElem?_getD, List.getElem?_append_right (show first.length ≤ offset by omega),
    List.getElem?_append_right (show first.length ≤ offset + 1 by omega), length, next]

/-- The two bytes of a word are its quotient and its remainder. -/
theorem wordBytes_split (word : BitVec 16) :
    wordBytes word = [⟨word.extractLsb' 8 8⟩, ⟨word.extractLsb' 0 8⟩] := by
  have joined : word.extractLsb' 8 8 ++ word.extractLsb' 0 8 = word := append_extractLsb' 8 8 word
  have bytes := wordBytes_append (word.extractLsb' 8 8) (word.extractLsb' 0 8) 1 rfl
  rw [joined] at bytes
  rw [bytes, wordBytes_byte, wordBytes_byte]
  rfl

theorem wordBytes_sum (word : BitVec 16) : (bigEndianWords (wordBytes word)).sum = word.toNat := by
  have inside := word.isLt
  rw [wordBytes_split]
  simp only [bigEndianWords, List.sum_cons, List.sum_nil, Nat.add_zero]
  change 256 * (word.extractLsb' 8 8).toNat + (word.extractLsb' 0 8).toNat = _
  rw [BitVec.extractLsb'_toNat, BitVec.extractLsb'_toNat, Nat.shiftRight_eq_div_pow, Nat.shiftRight_eq_div_pow]
  omega

theorem frameWord_wordBytes (word : BitVec 16) (rest : List UInt8) :
    frameWord (wordBytes word ++ rest) 0 = word.toNat := by
  have sum := wordBytes_sum word
  rw [wordBytes_split] at sum ⊢
  simpa [bigEndianWords, frameWord] using sum

namespace Packet

/-- The three computed fields of a frame are the fields of the packet. -/
theorem frame_words (direction : Direction) (packet : Packet) :
    frameWord (packet.frame direction) 4 = packet.ipv6.payloadLength.toNat ∧
      frameWord (packet.frame direction) 44 = packet.udp.length.toNat ∧
      frameWord (packet.frame direction) 46 = packet.udp.checksum.toNat := by
  have first : (bitsBytes (wordBits packet.ipv6.version ++ wordBits packet.ipv6.trafficClass ++
      wordBits packet.ipv6.flowLabel)).length = 4 :=
    length_bitsBytes (by simp only [List.length_append, wordBits_length])
  have size : (wordBytes packet.udp.length).length = 2 := length_wordBytes _ 2 rfl
  have addresses : (packet.frame direction) = (packet.ipv6.front ++ packet.ipv6.addresses direction) ++
      (packet.segment direction) := by rw [frame, List.append_assoc]
  have header : (packet.ipv6.front ++ packet.ipv6.addresses direction).length = 40 := by
    rw [List.length_append, packet.ipv6.length_front, packet.ipv6.length_addresses]
  refine ⟨?_, ?_, ?_⟩
  · rw [frame, Ipv6Header.front, List.append_assoc, List.append_assoc, List.append_assoc,
      frameWord_append_right _ first (by decide)]
    exact frameWord_wordBytes _ _
  · rw [addresses, frameWord_append_right _ header (by decide), segment,
      frameWord_append_right _ (packet.udp.length_ports direction) (by decide)]
    exact frameWord_wordBytes _ _
  · rw [addresses, frameWord_append_right _ header (by decide), segment,
      frameWord_append_right _ (packet.udp.length_ports direction) (by decide),
      frameWord_append_right _ size (by decide)]
    exact frameWord_wordBytes _ _

end Packet

/-- The sum of an even part and the sum of the rest add up. -/
theorem bigEndianWords_sum_append {first : List UInt8} (half : Nat) (even : first.length = 2 * half)
    (rest : List UInt8) :
    (bigEndianWords (first ++ rest)).sum = (bigEndianWords first).sum + (bigEndianWords rest).sum := by
  rw [bigEndianWords_append first rest (by omega), List.sum_append]

theorem pseudoHeader_total {source destination : List UInt8} (sourceLength : source.length = 16)
    (destinationLength : destination.length = 16) {size : Nat} (fits : size < 2 ^ 16) (rest : List UInt8) :
    (bigEndianWords (pseudoHeader source destination size ++ rest)).sum =
      (bigEndianWords source).sum + (bigEndianWords destination).sum + size + 17 + (bigEndianWords rest).sum := by
  have tail : (bigEndianWords [UInt8.ofNat (size / 2 ^ 24), UInt8.ofNat (size / 2 ^ 16), UInt8.ofNat (size / 2 ^ 8),
      UInt8.ofNat size, 0, 0, 0, 17]).sum = size + 17 := by
    have zero : (0 : UInt8).toNat = 0 := rfl
    have next : (17 : UInt8).toNat = 17 := rfl
    simp only [bigEndianWords, List.sum_cons, List.sum_nil, UInt8.toNat_ofNat', zero, next]
    omega
  rw [pseudoHeader, List.append_assoc, List.append_assoc, List.append_assoc,
    bigEndianWords_sum_append 8 sourceLength, bigEndianWords_sum_append 8 destinationLength]
  change _ + (_ + (bigEndianWords ([UInt8.ofNat (size / 2 ^ 24), UInt8.ofNat (size / 2 ^ 16),
    UInt8.ofNat (size / 2 ^ 8), UInt8.ofNat size, 0, 0, 0, 17] ++ rest)).sum) = _
  rw [bigEndianWords_sum_append 4 rfl, tail]
  omega

namespace Packet

variable (direction : Direction) (packet : Packet)

theorem segment_total :
    (bigEndianWords (packet.segment direction)).sum =
      packet.udp.portDev.toNat + packet.udp.portApp.toNat + packet.udp.length.toNat + packet.udp.checksum.toNat +
        (bigEndianWords packet.datagramData).sum := by
  have size : (wordBytes packet.udp.length).length = 2 := length_wordBytes _ 2 rfl
  have sum : (wordBytes packet.udp.checksum).length = 2 := length_wordBytes _ 2 rfl
  have device : (wordBytes packet.udp.portDev).length = 2 := length_wordBytes _ 2 rfl
  have application : (wordBytes packet.udp.portApp).length = 2 := length_wordBytes _ 2 rfl
  have ports : (bigEndianWords (packet.udp.ports direction)).sum =
      packet.udp.portDev.toNat + packet.udp.portApp.toNat := by
    unfold UdpHeader.ports
    split
    · rw [bigEndianWords_sum_append 1 application, wordBytes_sum, wordBytes_sum, Nat.add_comm]
    · rw [bigEndianWords_sum_append 1 device, wordBytes_sum, wordBytes_sum]
  rw [segment, bigEndianWords_sum_append 2 (packet.udp.length_ports direction),
    bigEndianWords_sum_append 1 size, bigEndianWords_sum_append 1 sum, ports, wordBytes_sum,
    wordBytes_sum]
  omega

/-- The receiver takes its checksum over these words. -/
theorem checksumBytes_split :
    packet.checksumBytes = packet.ipv6.deviceAddress ++ (packet.ipv6.applicationAddress ++
      (wordBytes (BitVec.ofNat 32 packet.datagramLength) ++ (wordBytes (BitVec.ofNat 24 0) ++
        wordBytes packet.ipv6.nextHeader ++ (wordBytes packet.udp.portDev ++ (wordBytes packet.udp.portApp ++
          (wordBytes (BitVec.ofNat 16 packet.datagramLength) ++ packet.datagramData)))))) := by
  rw [checksumBytes]
  simp only [numberBits, List.append_assoc]
  rw [bitsBytes_wordBits_append _ 8 rfl, bitsBytes_wordBits_append _ 8 rfl, bitsBytes_wordBits_append _ 8 rfl,
    bitsBytes_wordBits_append _ 8 rfl, bitsBytes_wordBits_append _ 4 rfl, bitsBytes_wordBits_append _ 3 rfl,
    bitsBytes_wordBits_append _ 1 rfl, bitsBytes_wordBits_append _ 2 rfl, bitsBytes_wordBits_append _ 2 rfl]
  simp only [Ipv6Header.deviceAddress, Ipv6Header.applicationAddress, List.append_assoc]
  rfl

/-- A small length fills the last two of four bytes. -/
theorem wordBytes_length32 {size : Nat} (fits : size < 2 ^ 16) :
    (bigEndianWords (wordBytes (BitVec.ofNat 32 size))).sum = size := by
  have split : BitVec.ofNat 32 size = BitVec.ofNat 16 0 ++ BitVec.ofNat 16 size := by
    apply BitVec.eq_of_toNat_eq
    rw [BitVec.toNat_append, BitVec.toNat_ofNat, BitVec.toNat_ofNat, BitVec.toNat_ofNat, Nat.mod_eq_of_lt fits,
      Nat.mod_eq_of_lt (show size < 2 ^ 32 by omega)]
    simp
  have length : (wordBytes (BitVec.ofNat 16 0)).length = 2 := length_wordBytes _ 2 rfl
  rw [split, wordBytes_append _ _ 2 rfl, bigEndianWords_sum_append 1 length, wordBytes_sum, wordBytes_sum,
    BitVec.toNat_ofNat, BitVec.toNat_ofNat, Nat.mod_eq_of_lt fits]
  exact Nat.zero_add size

/-- The receiver adds the words of the frame, but for the checksum itself. -/
theorem checksumBytes_total (udp : packet.ipv6.nextHeader = 17) (fits : packet.datagramLength < 2 ^ 16) :
    (bigEndianWords packet.checksumBytes).sum =
      (bigEndianWords packet.ipv6.deviceAddress).sum + (bigEndianWords packet.ipv6.applicationAddress).sum +
        packet.datagramLength + 17 + packet.udp.portDev.toNat + packet.udp.portApp.toNat + packet.datagramLength +
        (bigEndianWords packet.datagramData).sum := by
  have length32 : (wordBytes (BitVec.ofNat 32 packet.datagramLength)).length = 4 := length_wordBytes _ 4 rfl
  have next : wordBytes (BitVec.ofNat 24 0) ++ wordBytes packet.ipv6.nextHeader = [0, 0, 0, 17] := by
    rw [udp]
    decide
  have device : (wordBytes packet.udp.portDev).length = 2 := length_wordBytes _ 2 rfl
  have application : (wordBytes packet.udp.portApp).length = 2 := length_wordBytes _ 2 rfl
  have length16 : (wordBytes (BitVec.ofNat 16 packet.datagramLength)).length = 2 := length_wordBytes _ 2 rfl
  have nextSum : (bigEndianWords [0, 0, 0, 17]).sum = 17 := rfl
  rw [checksumBytes_split, next, bigEndianWords_sum_append 8 packet.ipv6.length_deviceAddress,
    bigEndianWords_sum_append 8 packet.ipv6.length_applicationAddress, bigEndianWords_sum_append 2 length32,
    bigEndianWords_sum_append 2 rfl, bigEndianWords_sum_append 1 device, bigEndianWords_sum_append 1 application,
    bigEndianWords_sum_append 1 length16, nextSum, wordBytes_length32 fits, wordBytes_sum, wordBytes_sum,
    wordBytes_sum, BitVec.toNat_ofNat, Nat.mod_eq_of_lt fits]
  omega

/-- The checksum rule holds for a frame exactly when its checksum completes the sum of the receiver. -/
theorem frame_verifies_iff (udp : packet.ipv6.nextHeader = 17) (fits : packet.datagramLength < 2 ^ 16)
    (stated : packet.udp.length.toNat = packet.datagramLength) :
    ChecksumVerifies (packet.frame direction) ↔
      residue 0xFFFF ((bigEndianWords packet.checksumBytes).sum + packet.udp.checksum.toNat) = 0xFFFF := by
  have header : (packet.ipv6.front ++ packet.ipv6.addresses direction).length = 40 := by
    rw [List.length_append, packet.ipv6.length_front, packet.ipv6.length_addresses]
  have segment : (packet.frame direction).drop 40 = packet.segment direction := by
    rw [frame, ← List.append_assoc]
    exact List.drop_left' header
  have behind : (packet.frame direction).drop 8 = packet.ipv6.addresses direction ++ packet.segment direction :=
    List.drop_left' packet.ipv6.length_front
  have sourceAddress : ((packet.frame direction).drop 8).take 16 = (packet.ipv6.addresses direction).take 16 := by
    rw [behind, List.take_append_of_le_length (by rw [packet.ipv6.length_addresses]; decide)]
  have destinationAddress : ((packet.frame direction).drop 24).take 16 = (packet.ipv6.addresses direction).drop 16 := by
    rw [show 24 = 8 + 16 from rfl, ← List.drop_drop, behind,
      List.drop_append_of_le_length (by rw [packet.ipv6.length_addresses]; decide)]
    exact List.take_left' (by rw [List.length_drop, packet.ipv6.length_addresses])
  have sourceLength : ((packet.ipv6.addresses direction).take 16).length = 16 := by
    rw [List.length_take, packet.ipv6.length_addresses]
    rfl
  have destinationLength : ((packet.ipv6.addresses direction).drop 16).length = 16 := by
    rw [List.length_drop, packet.ipv6.length_addresses]
  have addresses : (bigEndianWords ((packet.ipv6.addresses direction).take 16)).sum +
      (bigEndianWords ((packet.ipv6.addresses direction).drop 16)).sum =
        (bigEndianWords packet.ipv6.deviceAddress).sum + (bigEndianWords packet.ipv6.applicationAddress).sum := by
    rw [← bigEndianWords_sum_append 8 sourceLength, List.take_append_drop]
    unfold Ipv6Header.addresses
    split
    · rw [bigEndianWords_sum_append 8 packet.ipv6.length_applicationAddress, Nat.add_comm]
    · rw [bigEndianWords_sum_append 8 packet.ipv6.length_deviceAddress]
  have total : (bigEndianWords (pseudoHeader ((packet.ipv6.addresses direction).take 16)
      ((packet.ipv6.addresses direction).drop 16) (packet.segment direction).length ++
        packet.segment direction)).sum = (bigEndianWords packet.checksumBytes).sum + packet.udp.checksum.toNat := by
    rw [length_segment, pseudoHeader_total sourceLength destinationLength fits, addresses, segment_total,
      checksumBytes_total packet udp fits]
    omega
  simp only [ChecksumVerifies, segment, sourceAddress, destinationAddress]
  rw [sum_eq_residue (by decide) _ (bigEndianWords_bounded _), total]

/-- A well-formed frame holds the lengths and the checksum that the receiver computes. -/
theorem consistent_of_wellFormed {direction : Direction} {packet : Packet} (udp : packet.ipv6.nextHeader = 17)
    (nonzero : packet.udp.checksum ≠ 0) (wellFormed : FrameWellFormed (packet.frame direction)) :
    Outer.Consistent packet.wireField packet := by
  obtain ⟨plen, ulen, -⟩ := packet.frame_words direction
  have size := wellFormed.size
  have udpLength := wellFormed.udpLength
  rw [length_frame, plen] at size
  rw [ulen, plen] at udpLength
  have narrow := packet.ipv6.payloadLength.isLt
  have fits : packet.datagramLength < 2 ^ 16 := by omega
  have verifies := (frame_verifies_iff direction packet udp fits (by omega)).mp wellFormed.verifies
  have positive : 0 < packet.udp.checksum.toNat := by
    rw [Nat.pos_iff_ne_zero]
    exact fun zero => nonzero (BitVec.eq_of_toNat_eq zero)
  have checksum := packet.udp.checksum.isLt
  have sum := complement_unique positive (by omega) verifies
  refine ⟨?_, ?_, ?_⟩
  · apply BitVec.eq_of_toNat_eq
    change _ = (BitVec.ofNat 16 packet.datagramLength).toNat
    rw [BitVec.toNat_ofNat, Nat.mod_eq_of_lt fits]
    omega
  · apply BitVec.eq_of_toNat_eq
    change _ = (BitVec.ofNat 16 packet.datagramLength).toNat
    rw [BitVec.toNat_ofNat, Nat.mod_eq_of_lt fits]
    omega
  · apply BitVec.eq_of_toNat_eq
    change _ = (BitVec.ofNat 16 packet.datagramChecksum).toNat
    rw [BitVec.toNat_ofNat, datagramChecksum, ← sum, Nat.mod_eq_of_lt checksum]

end Packet

/-- The flow label starts in the low half of the second byte. -/
theorem Ipv6Header.front_bytes (ipv6 : Ipv6Header) :
    ipv6.front =
      [⟨ipv6.version ++ ipv6.trafficClass.extractLsb' 4 4⟩,
          ⟨ipv6.trafficClass.extractLsb' 0 4 ++ ipv6.flowLabel.extractLsb' 16 4⟩] ++
        wordBytes (ipv6.flowLabel.extractLsb' 0 16) ++ wordBytes ipv6.payloadLength ++
          [⟨ipv6.nextHeader⟩, ⟨ipv6.hopLimit⟩] := by
  have trafficClass : ipv6.trafficClass.extractLsb' 4 4 ++ ipv6.trafficClass.extractLsb' 0 4 = ipv6.trafficClass :=
    append_extractLsb' 4 4 ipv6.trafficClass
  have flowLabel : ipv6.flowLabel.extractLsb' 16 4 ++ ipv6.flowLabel.extractLsb' 0 16 = ipv6.flowLabel :=
    append_extractLsb' 4 16 ipv6.flowLabel
  have bits : wordBits ipv6.version ++ wordBits ipv6.trafficClass ++ wordBits ipv6.flowLabel =
      wordBits (ipv6.version ++ ipv6.trafficClass.extractLsb' 4 4) ++
        (wordBits (ipv6.trafficClass.extractLsb' 0 4 ++ ipv6.flowLabel.extractLsb' 16 4) ++
          wordBits (ipv6.flowLabel.extractLsb' 0 16)) := by
    rw [← trafficClass, ← flowLabel, wordBits_append, wordBits_append, trafficClass, flowLabel, wordBits_append,
      wordBits_append]
    simp only [List.append_assoc]
  rw [Ipv6Header.front, bits, bitsBytes_wordBits_append _ 1 rfl, bitsBytes_wordBits_append _ 1 rfl, wordBytes_byte,
    wordBytes_byte, wordBytes_byte, wordBytes_byte]
  simp only [List.append_assoc]
  rfl

/-- The high half of a byte does not depend on its low half. -/
theorem highHalf_and (high first second : BitVec 4) :
    (⟨high ++ first⟩ : UInt8) &&& 0xF0 = (⟨high ++ second⟩ : UInt8) &&& 0xF0 := by
  apply UInt8.toBitVec_inj.mp
  apply BitVec.eq_of_getLsbD_eq
  intro index inside
  change ((high ++ first) &&& 0xF0#8).getLsbD index = ((high ++ second) &&& 0xF0#8).getLsbD index
  rw [BitVec.getLsbD_and, BitVec.getLsbD_and, BitVec.getLsbD_append, BitVec.getLsbD_append]
  by_cases lower : index < 4
  · have masked : ∀ position : Fin 4, (0xF0#8).getLsbD position = false := by decide
    rw [masked ⟨index, lower⟩, Bool.and_false, Bool.and_false]
  · rw [if_neg lower, if_neg lower]

/-- Another flow label and another hop limit give a frame that agrees up to them. -/
theorem Packet.frame_sameExceptHop (direction : Direction) (packet : Packet) (flowLabel : BitVec 20)
    (hopLimit : BitVec 8) :
    SameExceptHop (packet.frame direction)
      (Packet.frame direction
        { packet with ipv6 := { packet.ipv6 with flowLabel := flowLabel, hopLimit := hopLimit } }) := by
  apply sameExceptHop_append
  rw [Ipv6Header.front_bytes, Ipv6Header.front_bytes, wordBytes_split, wordBytes_split, wordBytes_split]
  have half := highHalf_and (packet.ipv6.trafficClass.extractLsb' 0 4) (packet.ipv6.flowLabel.extractLsb' 16 4)
    (flowLabel.extractLsb' 16 4)
  simp [SameExceptHop, maskHop, hopMask, half]

end SchcWork.Schc
