import SchcWork.Commons.NetHelper
import SchcWork.Library.TextInput
import SchcWork.Worker.Tunnel

namespace SchcWork.Worker

open Net OnesComplement
open Commons (htonl datagramWordSum)

/-- A text that is no address leaves the cleared bytes alone. -/
def addressBytes (address : Option (Vector UInt8 16)) : List UInt8 := (address.map Vector.toList).getD []

/-- This is the argument of `htons` after its conversion to 16 bits. -/
def portOf (text : List Char) : Nat := (TextInput.atoi text % 2 ^ 16).toNat

def generateIpv6UdpPacket (inetPton : List Char → Option (Vector UInt8 16)) (packet : ByteMemory)
    (srcAddr srcPort dstAddr dstPort : List Char) (payload : List UInt8) : ByteMemory :=
  let packet := packet.store 0 (List.replicate (ipv6HeadersBytes + udpHeadersBytes + payload.length) 0)
  -- The version byte is the first byte of the flow word.
  let packet := packet.store 0 [ipv6Version <<< 4]
  let packet := packet.store 0 (List.zipWith (· ||| ·) (packet.slice 0 4) (htonl 0x6724d))
  let packet := packet.store16 ip6PlenOffset (htons ((udpHeadersBytes + payload.length) % 2 ^ 16))
  let packet := packet.store ip6NxtOffset [ipprotoUdp]
  let packet := packet.store 7 [64]
  let packet := packet.store ip6SrcOffset (addressBytes (inetPton srcAddr))
  let packet := packet.store ip6DstOffset (addressBytes (inetPton dstAddr))
  let packet := packet.store16 sizeofIp6Hdr (htons (portOf srcPort))
  let packet := packet.store16 (sizeofIp6Hdr + 2) (htons (portOf dstPort))
  let packet := packet.store16 uhUlenOffset (htons ((udpHeadersBytes + payload.length) % 2 ^ 16))
  let packet := packet.store16 uhSumOffset 0
  packet.store (ipv6HeadersBytes + udpHeadersBytes) payload

def putU16Be (dst : ByteMemory) (offset v : Nat) : ByteMemory :=
  dst.store offset [UInt8.ofNat (v / 2 ^ 8), UInt8.ofNat v]

/-- The running sum has 32 bits. -/
def checksumAdd16 (sum : Nat) : List UInt8 → Nat
  | [] => sum
  | [last] => (sum + last.toNat <<< 8) % 2 ^ 32
  | high :: low :: rest => checksumAdd16 ((sum + (high.toNat <<< 8 ||| low.toNat)) % 2 ^ 32) rest

/-- The inverted sum has 32 bits when it is compared with zero. -/
def checksumFinalize (sum : Nat) : Nat :=
  let sum := 2 ^ 32 - 1 - foldCarries sum
  if sum = 0 then 0xFFFF else sum % 2 ^ 16

def udp6Checksum (src dst udp : List UInt8) : Nat :=
  let sum := checksumAdd16 0 src
  let sum := checksumAdd16 sum dst
  let sum := checksumAdd16 sum (htonl udp.length)
  let sum := checksumAdd16 sum [0, 0, 0, 17]
  let sum := checksumAdd16 sum udp
  checksumFinalize sum

/-- The builder returns the length of the packet. -/
def buildIpv6UdpPacket (buf : ByteMemory) (srcIp dstIp : Vector UInt8 16) (srcPort dstPort : UInt16)
    (payload : List UInt8) : Nat × ByteMemory :=
  let udpLen := (8 + payload.length) % 2 ^ 16
  let totalLen := 40 + udpLen
  let buf := buf.store 0 (List.replicate totalLen 0)
  let buf := buf.store 0 [0x60]
  let buf := putU16Be buf 4 udpLen
  let buf := buf.store 6 [17]
  let buf := buf.store 7 [0xff]
  let buf := buf.store 8 srcIp.toList
  let buf := buf.store 24 dstIp.toList
  let buf := putU16Be buf 40 srcPort.toNat
  let buf := putU16Be buf 42 dstPort.toNat
  let buf := putU16Be buf 44 udpLen
  let buf := buf.store 48 payload
  let buf := buf.store 46 [0]
  let buf := buf.store 47 [0]
  let csum := udp6Checksum srcIp.toList dstIp.toList (buf.slice 40 udpLen)
  (totalLen, putU16Be buf 46 csum)

/-- The packet carries a payload between two endpoints. -/
structure CarriesDatagram (packet : ByteMemory) (source destination : List UInt8) (sourcePort destinationPort : Nat)
    (payload : List UInt8) : Prop where
  version : packet 0 = 0x60
  trafficClass : packet 1 &&& 0xF0 = 0
  nextHeader : packet 6 = 17
  plen : networkWord packet 4 = 8 + payload.length
  ulen : networkWord packet 44 = 8 + payload.length
  source : packet.slice 8 16 = source
  destination : packet.slice 24 16 = destination
  sourcePort : networkWord packet 40 = sourcePort
  destinationPort : networkWord packet 42 = destinationPort
  payload : packet.slice 48 payload.length = payload

/-- Both builders write these blocks between the flow word and the checksum. -/
def headerBlocks (hop : UInt8) (source destination : List UInt8) (sourcePort destinationPort length : Nat) :
    List (Nat × List UInt8) :=
  [(4, [UInt8.ofNat (length / 256), UInt8.ofNat length]), (6, [17]), (7, [hop]), (8, source), (24, destination),
    (40, [UInt8.ofNat (sourcePort / 256), UInt8.ofNat sourcePort]),
    (42, [UInt8.ofNat (destinationPort / 256), UInt8.ofNat destinationPort]),
    (44, [UInt8.ofNat (length / 256), UInt8.ofNat length])]

theorem networkWord_of_slice {memory : ByteMemory} {offset word : Nat} (fits : word < 65536)
    (bytes : memory.slice offset 2 = [UInt8.ofNat (word / 256), UInt8.ofNat word]) :
    networkWord memory offset = word := by
  obtain ⟨high, low⟩ : memory offset = UInt8.ofNat (word / 256) ∧ memory (offset + 1) = UInt8.ofNat word := by
    simpa [ByteMemory.slice, List.range_succ] using bytes
  rw [networkWord, high, low, UInt8.toNat_ofNat', UInt8.toNat_ofNat']
  omega

section Blocks

variable {memory : ByteMemory} {front rest : List (Nat × List UInt8)} {hop : UInt8} {source destination : List UInt8}
variable {sourcePort destinationPort : Nat} {payload : List UInt8}

/-- A field of the headers keeps its bytes. -/
theorem slice_headerBlocks {length : Nat} (behind : ∀ block ∈ rest, 46 ≤ block.1)
    (before later : List (Nat × List UInt8))
    {offset : Nat} {bytes : List UInt8}
    (split : headerBlocks hop source destination sourcePort destinationPort length = before ++ (offset, bytes) :: later)
    (inside : offset + bytes.length ≤ 46)
    (apart : ∀ block ∈ later, offset + bytes.length ≤ block.1 ∨ block.1 + block.2.length ≤ offset) :
    (memory.storeBlocks (front ++ headerBlocks hop source destination sourcePort destinationPort length ++ rest)).slice
      offset bytes.length = bytes := by
  apply ByteMemory.slice_storeBlocks memory (front ++ before) (later ++ rest)
  · rw [split, List.append_assoc, List.append_assoc, List.append_assoc, List.cons_append]
  · intro block member
    rcases List.mem_append.mp member with header | behindHeader
    · exact apart block header
    · exact Or.inl (inside.trans (behind block behindHeader))

/-- The blocks make a datagram of the right length. -/
theorem carries_of_blocks (sourceLength : source.length = 16) (destinationLength : destination.length = 16)
    (sourceFits : sourcePort < 65536) (destinationFits : destinationPort < 65536) (fits : payload.length ≤ 65527)
    (behind : ∀ block ∈ rest, 46 ≤ block.1) (version : memory.storeBlocks front 0 = 0x60)
    (trafficClass : memory.storeBlocks front 1 &&& 0xF0 = 0)
    (body : (memory.storeBlocks (front ++ headerBlocks hop source destination sourcePort destinationPort
      (8 + payload.length) ++ rest)).slice 48 payload.length = payload) :
    CarriesDatagram (memory.storeBlocks (front ++ headerBlocks hop source destination sourcePort destinationPort
      (8 + payload.length) ++ rest)) source destination sourcePort destinationPort payload := by
  have kept : (memory.storeBlocks (front ++ headerBlocks hop source destination sourcePort destinationPort
      (8 + payload.length) ++ rest)).slice 0 2 = (memory.storeBlocks front).slice 0 2 := by
    rw [List.append_assoc, ByteMemory.storeBlocks, List.foldl_append]
    apply ByteMemory.slice_storeBlocks_disjoint
    intro block member
    rcases List.mem_append.mp member with header | behindHeader
    · simp only [headerBlocks, List.mem_cons, List.not_mem_nil, or_false] at header
      rcases header with rfl | rfl | rfl | rfl | rfl | rfl | rfl | rfl
      all_goals exact Or.inl (Nat.le_of_ble_eq_true rfl)
    · exact Or.inl ((show 0 + 2 ≤ 46 by decide).trans (behind block behindHeader))
  have bytes := (ByteMemory.slice_eq_iff _ _ 0 2).mp kept
  have length := @slice_headerBlocks memory front rest hop source destination sourcePort destinationPort
    (8 + payload.length) behind
  refine ⟨?_, ?_, ?_, ?_, ?_, ?_, ?_, ?_, ?_, body⟩
  · rw [bytes 0 (by decide) (by decide), version]
  · rw [bytes 1 (by decide) (by decide), trafficClass]
  · have next := length [_] _ rfl (by decide) (by simp)
    simpa [ByteMemory.slice, List.range_succ] using next
  · exact networkWord_of_slice (by omega) (length [] _ rfl (Nat.le_of_ble_eq_true rfl) (by simp))
  · exact networkWord_of_slice (by omega) (length [_, _, _, _, _, _, _] _ rfl (Nat.le_of_ble_eq_true rfl) (by simp))
  · have found := length [_, _, _] _ rfl (by omega) (by simp; omega)
    rwa [sourceLength] at found
  · have found := length [_, _, _, _] _ rfl (by omega) (by simp; omega)
    rwa [destinationLength] at found
  · exact networkWord_of_slice sourceFits (length [_, _, _, _, _] _ rfl (Nat.le_of_ble_eq_true rfl) (by simp))
  · exact networkWord_of_slice destinationFits
      (length [_, _, _, _, _, _] _ rfl (Nat.le_of_ble_eq_true rfl) (by simp))

end Blocks

theorem store16_htons (memory : ByteMemory) (offset word : Nat) :
    memory.store16 offset (htons word) = memory.store offset [UInt8.ofNat (word / 256), UInt8.ofNat word] := by
  rw [ByteMemory.store16, ofNat_htons_low, ofNat_htons_high]

theorem portOf_lt (text : List Char) : portOf text < 65536 := by
  unfold portOf
  omega

section Builders

variable {inetPton : List Char → Option (Vector UInt8 16)} {packet : ByteMemory} {srcAddr dstAddr : List Char}
variable {srcPort dstPort : List Char} {payload : List UInt8} {source destination : Vector UInt8 16}

/-- The version byte stands before three cleared bytes. -/
theorem clearedFlow_slice (memory : ByteMemory) (size : Nat) (byte : UInt8) :
    ((memory.store 0 (List.replicate (48 + size) 0)).store 0 [byte]).slice 0 4 = [byte, 0, 0, 0] := by
  have inside (index : Nat) (small : index < 4) : index < 48 + size := by omega
  simp [ByteMemory.slice, ByteMemory.store, List.range_succ, List.getElem?_replicate, inside]

theorem bytes_of_flow {memory : ByteMemory} {first second third fourth : UInt8}
    (flow : memory.slice 0 4 = [first, second, third, fourth]) : memory 0 = first ∧ memory 1 = second := by
  have bytes : memory 0 = first ∧ memory 1 = second ∧ memory 2 = third ∧ memory 3 = fourth := by
    simpa [ByteMemory.slice, List.range_succ] using flow
  exact ⟨bytes.1, bytes.2.1⟩

/-- The cleared bytes and the flow word come first. -/
def generateFront (packet : ByteMemory) (size : Nat) : List (Nat × List UInt8) :=
  let cleared := (packet.store 0 (List.replicate (48 + size) 0)).store 0 [ipv6Version <<< 4]
  [(0, List.replicate (48 + size) 0), (0, [ipv6Version <<< 4]),
    (0, List.zipWith (· ||| ·) (cleared.slice 0 4) (htonl 0x6724d))]

theorem generateIpv6UdpPacket_eq (sourceKnown : inetPton srcAddr = some source)
    (destinationKnown : inetPton dstAddr = some destination) (fits : payload.length ≤ 65527) :
    generateIpv6UdpPacket inetPton packet srcAddr srcPort dstAddr dstPort payload =
      packet.storeBlocks (generateFront packet payload.length ++
        headerBlocks 64 source.toList destination.toList (portOf srcPort) (portOf dstPort) (8 + payload.length) ++
        [(46, [0, 0]), (48, payload)]) := by
  have whole : (udpHeadersBytes + payload.length) % 2 ^ 16 = 8 + payload.length := by
    unfold udpHeadersBytes
    omega
  simp only [generateIpv6UdpPacket, sourceKnown, destinationKnown, whole, store16_htons]
  rfl

theorem generateIpv6UdpPacket_carries (sourceKnown : inetPton srcAddr = some source)
    (destinationKnown : inetPton dstAddr = some destination) (fits : payload.length ≤ 65527) :
    CarriesDatagram (generateIpv6UdpPacket inetPton packet srcAddr srcPort dstAddr dstPort payload) source.toList
      destination.toList (portOf srcPort) (portOf dstPort) payload := by
  have flow : (packet.storeBlocks (generateFront packet payload.length)).slice 0 4 = [0x60, 0x06, 0x72, 0x4d] := by
    have cleared := clearedFlow_slice packet payload.length (ipv6Version <<< 4)
    change (ByteMemory.store _ 0 (List.zipWith (· ||| ·) _ (htonl 0x6724d))).slice 0 4 = _
    rw [cleared]
    exact ByteMemory.slice_store_eq _ _ rfl
  obtain ⟨version, trafficClass⟩ := bytes_of_flow flow
  rw [generateIpv6UdpPacket_eq sourceKnown destinationKnown fits]
  apply carries_of_blocks source.length_toList destination.length_toList (portOf_lt srcPort) (portOf_lt dstPort) fits
  · intro block member
    simp only [List.mem_cons, List.not_mem_nil, or_false] at member
    rcases member with rfl | rfl
    · exact Nat.le_refl _
    · exact Nat.le_of_ble_eq_true rfl
  · exact version
  · rw [trafficClass]
    rfl
  · exact ByteMemory.slice_storeBlocks packet (generateFront packet payload.length ++ headerBlocks 64 source.toList
      destination.toList (portOf srcPort) (portOf dstPort) (8 + payload.length) ++ [(46, [0, 0])]) [] (by simp) nofun

/-- These are the blocks before the checksum of a built packet. -/
def buildBlocks (source destination : Vector UInt8 16) (srcPort dstPort : UInt16) (payload : List UInt8) :
    List (Nat × List UInt8) :=
  [(0, List.replicate (48 + payload.length) 0), (0, [0x60])] ++
    headerBlocks 0xff source.toList destination.toList srcPort.toNat dstPort.toNat (8 + payload.length) ++
    [(48, payload), (46, [0]), (47, [0])]

/-- The checksum of a built packet covers the packet without its checksum. -/
def clearedDatagram (buf : ByteMemory) (source destination : Vector UInt8 16) (srcPort dstPort : UInt16)
    (payload : List UInt8) : ByteMemory :=
  buf.storeBlocks (buildBlocks source destination srcPort dstPort payload)

variable {buf : ByteMemory} {sourcePort destinationPort : UInt16}

theorem buildIpv6UdpPacket_eq (fits : payload.length ≤ 65527) :
    buildIpv6UdpPacket buf source destination sourcePort destinationPort payload =
      (48 + payload.length,
        putU16Be (clearedDatagram buf source destination sourcePort destinationPort payload) 46
          (udp6Checksum source.toList destination.toList
            ((clearedDatagram buf source destination sourcePort destinationPort payload).slice 40
              (8 + payload.length)))) := by
  have whole : (8 + payload.length) % 2 ^ 16 = 8 + payload.length := Nat.mod_eq_of_lt (by omega)
  have total : 40 + (8 + payload.length) = 48 + payload.length := by omega
  simp only [buildIpv6UdpPacket, whole, total]
  rfl

theorem clearedDatagram_carries (fits : payload.length ≤ 65527) :
    CarriesDatagram (clearedDatagram buf source destination sourcePort destinationPort payload) source.toList
      destination.toList sourcePort.toNat destinationPort.toNat payload := by
  obtain ⟨version, trafficClass⟩ := bytes_of_flow (clearedFlow_slice buf payload.length 0x60)
  apply carries_of_blocks source.length_toList destination.length_toList sourcePort.toNat_lt destinationPort.toNat_lt
    fits
  · intro block member
    simp only [List.mem_cons, List.not_mem_nil, or_false] at member
    rcases member with rfl | rfl | rfl
    all_goals exact Nat.le_of_ble_eq_true rfl
  · exact version
  · rw [show buf.storeBlocks [(0, List.replicate (48 + payload.length) 0), (0, [0x60])] 1 = 0 from trafficClass]
    rfl
  · apply ByteMemory.slice_storeBlocks buf ([(0, List.replicate (48 + payload.length) 0), (0, [0x60])] ++
      headerBlocks 0xff source.toList destination.toList sourcePort.toNat destinationPort.toNat (8 + payload.length))
      [(46, [0]), (47, [0])] rfl
    intro block member
    simp only [List.mem_cons, List.not_mem_nil, or_false] at member
    rcases member with rfl | rfl
    all_goals exact Or.inr (Nat.le_of_ble_eq_true rfl)

theorem clearedDatagram_unsummed :
    networkWord (clearedDatagram buf source destination sourcePort destinationPort payload) 46 = 0 := by
  have split : ∀ memory : ByteMemory, networkWord ((memory.store 46 [0]).store 47 [0]) 46 = 0 := by
    intro memory
    simp [networkWord, ByteMemory.store]
  exact split _

theorem checksumAdd16_eq {sum : Nat} {bytes : List UInt8} (fits : sum + (bigEndianWords bytes).sum < 2 ^ 32) :
    checksumAdd16 sum bytes = sum + (bigEndianWords bytes).sum := by
  induction bytes using bigEndianWords.induct generalizing sum with
  | case1 => rfl
  | case2 last =>
      simp only [bigEndianWords, List.sum_cons, List.sum_nil] at fits ⊢
      rw [checksumAdd16, Nat.shiftLeft_eq, Nat.mod_eq_of_lt (by omega)]
      omega
  | case3 high low rest ih =>
      have joined : high.toNat <<< 8 ||| low.toNat = 256 * high.toNat + low.toNat := by
        rw [← Nat.shiftLeft_add_eq_or_of_lt low.toNat_lt, Nat.shiftLeft_eq, Nat.mul_comm]
      simp only [bigEndianWords, List.sum_cons] at fits ⊢
      rw [checksumAdd16, joined, Nat.mod_eq_of_lt (by omega), ih (by omega), Nat.add_assoc]

/-- The comparison with zero never succeeds, so the largest sum gives the checksum zero. -/
theorem checksumFinalize_eq (sum : Nat) : checksumFinalize sum = 0xFFFF - residue 0xFFFF sum := by
  have bound := residue_le (show 0 < 0xFFFF by decide) sum
  rw [checksumFinalize, foldCarries_eq_residue, if_neg (by omega)]
  omega

/-- The sum of a packet fits its 32 bits. -/
theorem udp6Checksum_eq {memory : ByteMemory} {ports : Nat × Nat}
    (carries : CarriesDatagram memory source.toList destination.toList ports.1 ports.2 payload)
    (fits : payload.length ≤ 65527) :
    udp6Checksum source.toList destination.toList (memory.slice 40 (8 + payload.length)) =
      0xFFFF - residue 0xFFFF (checksumTotal memory (8 + payload.length)) := by
  have sourceBound := bigEndianWords_sum_le source.toList
  have destinationBound := bigEndianWords_sum_le destination.toList
  have segmentBound := bigEndianWords_sum_le (memory.slice 40 (8 + payload.length))
  rw [source.length_toList] at sourceBound
  rw [destination.length_toList] at destinationBound
  rw [ByteMemory.length_slice] at segmentBound
  have length : (bigEndianWords (htonl (8 + payload.length))).sum =
      (8 + payload.length) / 2 ^ 16 % 2 ^ 16 + (8 + payload.length) % 2 ^ 16 := by
    simp only [htonl, bigEndianWords, List.sum_cons, List.sum_nil, UInt8.toNat_ofNat']
    omega
  have next : (bigEndianWords [0, 0, 0, 17]).sum = 17 := rfl
  have total : checksumTotal memory (8 + payload.length) = (bigEndianWords source.toList).sum +
      (bigEndianWords destination.toList).sum + (bigEndianWords (htonl (8 + payload.length))).sum + 17 +
        (bigEndianWords (memory.slice 40 (8 + payload.length))).sum := by
    rw [checksumTotal, carries.source, carries.destination, length, Nat.add_assoc _ (_ % _) (_ % _)]
  rw [total]
  simp only [udp6Checksum, ByteMemory.length_slice, checksumFinalize_eq]
  rw [@checksumAdd16_eq 0 source.toList (by omega), Nat.zero_add, @checksumAdd16_eq _ destination.toList (by omega),
    @checksumAdd16_eq _ (htonl _) (by omega), @checksumAdd16_eq _ [0, 0, 0, 17] (by omega), next,
    @checksumAdd16_eq _ (memory.slice _ _) (by omega)]

end Builders

section Carried

variable {first second : ByteMemory} {source destination payload : List UInt8} {sourcePort destinationPort : Nat}

/-- Behind the first eight bytes only the checksums may differ. -/
theorem CarriesDatagram.bytes_eq
    (firstCarries : CarriesDatagram first source destination sourcePort destinationPort payload)
    (secondCarries : CarriesDatagram second source destination sourcePort destinationPort payload) {index : Nat}
    (lower : 8 ≤ index) (inside : index < 48 + payload.length) (unsummed : index ≠ 46 ∧ index ≠ 47) :
    first index = second index := by
  have slices {offset length : Nat} (same : first.slice offset length = second.slice offset length)
      (after : offset ≤ index) (before : index < offset + length) : first index = second index :=
    (ByteMemory.slice_eq_iff first second offset length).mp same index after before
  have words {offset word : Nat} (firstWord : networkWord first offset = word)
      (secondWord : networkWord second offset = word) (here : index = offset ∨ index = offset + 1) :
      first index = second index := by
    obtain ⟨high, low⟩ := bytes_eq_of_networkWord (firstWord.trans secondWord.symm)
    rcases here with rfl | rfl
    · exact high
    · exact low
  by_cases inSource : index < 24
  · exact slices (firstCarries.source.trans secondCarries.source.symm) lower inSource
  by_cases inDestination : index < 40
  · exact slices (firstCarries.destination.trans secondCarries.destination.symm) (Nat.le_of_not_lt inSource)
      inDestination
  by_cases inSourcePort : index < 42
  · exact words firstCarries.sourcePort secondCarries.sourcePort (by omega)
  by_cases inDestinationPort : index < 44
  · exact words firstCarries.destinationPort secondCarries.destinationPort (by omega)
  by_cases inLength : index < 46
  · exact words firstCarries.ulen secondCarries.ulen (by omega)
  · exact slices (firstCarries.payload.trans secondCarries.payload.symm) (by omega) inside

/-- The packets agree up to the flow label, the hop limit and the checksum. -/
theorem CarriesDatagram.agree
    (firstCarries : CarriesDatagram first source destination sourcePort destinationPort payload)
    (secondCarries : CarriesDatagram second source destination sourcePort destinationPort payload) {index : Nat}
    (inside : index < 48 + payload.length) (unresized : ¬IsResized index) :
    second index &&& hopMask index = first index &&& hopMask index := by
  unfold IsResized at unresized
  by_cases front : index < 8
  · obtain rfl | rfl | rfl | rfl | rfl | rfl :
        index = 0 ∨ index = 1 ∨ index = 2 ∨ index = 3 ∨ index = 6 ∨ index = 7 := by
      omega
    · rw [firstCarries.version, secondCarries.version]
    · exact secondCarries.trafficClass.trans firstCarries.trafficClass.symm
    · exact (UInt8.and_zero).trans (UInt8.and_zero).symm
    · exact (UInt8.and_zero).trans (UInt8.and_zero).symm
    · rw [firstCarries.nextHeader, secondCarries.nextHeader]
    · exact (UInt8.and_zero).trans (UInt8.and_zero).symm
  · rw [firstCarries.bytes_eq secondCarries (by omega) inside (by omega)]

/-- Packets with one checksum field have one total. -/
theorem CarriesDatagram.total_eq
    (firstCarries : CarriesDatagram first source destination sourcePort destinationPort payload)
    (secondCarries : CarriesDatagram second source destination sourcePort destinationPort payload)
    (sums : networkWord first 46 = networkWord second 46) :
    checksumTotal first (8 + payload.length) = checksumTotal second (8 + payload.length) := by
  apply checksumTotal_congr
  intro index lower upper
  by_cases sum : index = 46 ∨ index = 47
  · obtain ⟨high, low⟩ := bytes_eq_of_networkWord sums
    rcases sum with rfl | rfl
    · exact high
    · exact low
  · exact firstCarries.bytes_eq secondCarries lower (by omega) (by omega)

/-- A change of the checksum keeps the rest of the packet. -/
theorem CarriesDatagram.summed (carries : CarriesDatagram first source destination sourcePort destinationPort payload)
    (same : ∀ index, index ≠ 46 ∧ index ≠ 47 → second index = first index) :
    CarriesDatagram second source destination sourcePort destinationPort payload := by
  have kept {offset length : Nat} (apart : offset + length ≤ 46 ∨ 48 ≤ offset) :
      second.slice offset length = first.slice offset length :=
    (ByteMemory.slice_eq_iff _ _ _ _).mpr fun index lower upper => same index (by omega)
  have word {offset : Nat} (apart : offset + 1 < 46) : networkWord second offset = networkWord first offset :=
    networkWord_congr (same offset (by omega)) (same (offset + 1) (by omega))
  constructor
  · rw [same 0 (by decide), carries.version]
  · rw [same 1 (by decide), carries.trafficClass]
  · rw [same 6 (by decide), carries.nextHeader]
  · rw [word (by decide), carries.plen]
  · rw [word (by decide), carries.ulen]
  · rw [kept (by decide), carries.source]
  · rw [kept (by decide), carries.destination]
  · rw [word (by decide), carries.sourcePort]
  · rw [word (by decide), carries.destinationPort]
  · rw [kept (Or.inr (Nat.le_refl _)), carries.payload]

/-- The network library accepts the packet and finds its payload. -/
theorem CarriesDatagram.accepted
    (carries : CarriesDatagram first source destination sourcePort destinationPort payload) :
    isIpv6UdpPacket first (48 + payload.length) = true ∧ ipv6UdpPayloadLen first = payload.length := by
  refine ⟨(isIpv6UdpPacket_iff _ _).mpr ⟨Nat.le_add_right _ _, ?_, carries.nextHeader⟩, ?_⟩
  · rw [carries.version]
    rfl
  · rw [ipv6UdpPayloadLen_eq, carries.ulen]
    omega

/-- The checksum update completes the packet. -/
theorem CarriesDatagram.updated (carries : CarriesDatagram first source destination sourcePort destinationPort payload)
    (fits : payload.length ≤ 65527) : updateUdpChecksum first = resize first payload.length := by
  rw [resize, updateIp6UdpLen_eq_self fits carries.plen carries.ulen]

/-- A complete packet with a CoAP payload is one that the proxy is made for. -/
theorem CarriesDatagram.coapPacket
    (carries : CarriesDatagram first source destination sourcePort destinationPort payload)
    (whole : Complete first payload.length) (coap : payload.head?.map (· &&& 0xC0) = some 0x40) :
    CoapPacket (first.slice 0 (48 + payload.length)) := by
  obtain ⟨head, rest, rfl⟩ : ∃ head rest, payload = head :: rest := by
    cases payload with
    | nil => contradiction
    | cons head rest => exact ⟨head, rest, rfl⟩
  have room : 0 < (head :: rest).length := Nat.succ_pos _
  have byte : first 48 = head := by
    have bytes := congrArg List.head? carries.payload
    rw [List.length_cons, Nat.add_comm, ByteMemory.slice_append] at bytes
    simpa [ByteMemory.slice] using bytes
  constructor
  · constructor
    · rw [ByteMemory.length_slice, frameWord_slice _ (by omega), whole.plen]
      omega
    · rw [frameWord_slice _ (by omega), frameWord_slice _ (by omega), whole.plen, whole.ulen]
    · exact whole.verifies
  · rw [ByteMemory.length_slice]
    omega
  · rw [getD_slice _ (by omega), carries.version]
    rfl
  · rw [getD_slice _ (by omega), carries.nextHeader]
  · rw [frameWord_slice _ (by omega)]
    exact whole.nonzero
  · rw [getD_slice _ (by omega), byte]
    exact Option.some.inj coap

end Carried

/-- The two builders make packets for one payload between one pair of endpoints. -/
structure BuiltAlike (generated : ByteMemory) (built : Nat × ByteMemory) (source destination : List UInt8)
    (sourcePort destinationPort : Nat) (payload : List UInt8) : Prop where
  generatedCarries : CarriesDatagram generated source destination sourcePort destinationPort payload
  builtCarries : CarriesDatagram built.2 source destination sourcePort destinationPort payload
  accepted : ∀ packet ∈ [generated, built.2],
    isIpv6UdpPacket packet (48 + payload.length) = true ∧ ipv6UdpPayloadLen packet = payload.length
  length : built.1 = 48 + payload.length
  unsummed : networkWord generated 46 = 0
  wellFormed : FrameWellFormed (built.2.slice 0 (48 + payload.length))
  reserved : networkWord built.2 46 = 0 ↔ 65535 ∣ datagramWordSum generated payload.length
  completed : SameExceptHop ((updateUdpChecksum generated).slice 0 (48 + payload.length))
    ((updateUdpChecksum built.2).slice 0 (48 + payload.length))
  proxied : payload.head?.map (· &&& 0xC0) = some 0x40 →
    CoapPacket ((updateUdpChecksum generated).slice 0 (48 + payload.length)) ∧
      (CoapPacket (built.2.slice 0 (48 + payload.length)) ↔ ¬65535 ∣ datagramWordSum generated payload.length)

section Agreement

variable {inetPton : List Char → Option (Vector UInt8 16)} {packet buf : ByteMemory} {srcAddr dstAddr : List Char}
variable {srcPort dstPort : List Char} {payload : List UInt8} {source destination : Vector UInt8 16}
variable {sourcePort destinationPort : UInt16}

theorem generateIpv6UdpPacket_unsummed (sourceKnown : inetPton srcAddr = some source)
    (destinationKnown : inetPton dstAddr = some destination) (fits : payload.length ≤ 65527) :
    networkWord (generateIpv6UdpPacket inetPton packet srcAddr srcPort dstAddr dstPort payload) 46 = 0 := by
  rw [generateIpv6UdpPacket_eq sourceKnown destinationKnown fits]
  apply networkWord_of_slice (Nat.zero_lt_succ _)
  apply ByteMemory.slice_storeBlocks packet (generateFront packet payload.length ++ headerBlocks 64 source.toList
    destination.toList (portOf srcPort) (portOf dstPort) (8 + payload.length)) [(48, payload)] rfl
  intro block member
  rw [List.mem_singleton.mp member]
  exact Or.inl (Nat.le_refl _)

/-- The checksum of a built packet verifies, and it is the reserved zero for the sums that represent it. -/
theorem buildIpv6UdpPacket_summed (fits : payload.length ≤ 65527) :
    let cleared := clearedDatagram buf source destination sourcePort destinationPort payload
    let built := (buildIpv6UdpPacket buf source destination sourcePort destinationPort payload).2
    CarriesDatagram built source.toList destination.toList sourcePort.toNat destinationPort.toNat payload ∧
      FrameWellFormed (built.slice 0 (48 + payload.length)) ∧
      (networkWord built 46 = 0 ↔ 65535 ∣ checksumTotal cleared (8 + payload.length)) := by
  intro cleared built
  have carries : CarriesDatagram cleared source.toList destination.toList sourcePort.toNat destinationPort.toNat
      payload :=
    clearedDatagram_carries fits
  have unsummed : networkWord cleared 46 = 0 := clearedDatagram_unsummed
  generalize total_eq : checksumTotal cleared (8 + payload.length) = total
  have positive : 0 < total := by
    rw [← total_eq, checksumTotal]
    omega
  have bound := residue_le (show 0 < 0xFFFF by decide) total
  have represented : 0 < residue 0xFFFF total := residue_pos positive
  have whole : built = putU16Be cleared 46 (0xFFFF - residue 0xFFFF total) := by
    have sum :=
      @udp6Checksum_eq payload source destination cleared (sourcePort.toNat, destinationPort.toNat) carries fits
    simp only [built, buildIpv6UdpPacket_eq fits]
    rw [sum, total_eq]
  have field : networkWord built 46 = 0xFFFF - residue 0xFFFF total := by
    rw [whole]
    exact networkWord_of_slice (by omega) (ByteMemory.slice_store_eq _ _ rfl)
  have summed : CarriesDatagram built source.toList destination.toList sourcePort.toNat destinationPort.toNat
      payload := by
    rw [whole]
    apply carries.summed
    intro index outside
    exact ByteMemory.store_outside _ _ _ (by simp only [List.length_cons, List.length_nil]; omega)
  have again : checksumTotal (built.store16 46 0) (8 + payload.length) = total := by
    rw [← total_eq]
    apply checksumTotal_congr
    intro index lower upper
    by_cases sum : index = 46 ∨ index = 47
    · obtain ⟨high, low⟩ := bytes_eq_of_networkWord
        ((show networkWord (built.store16 46 0) 46 = 0 by
          simp [networkWord, ByteMemory.store16_low, ByteMemory.store16_high]).trans unsummed.symm)
      rcases sum with rfl | rfl
      · exact high
      · exact low
    · rw [ByteMemory.store16_outside _ _ _ (by omega)]
      exact summed.bytes_eq carries lower (by omega) (by omega)
  refine ⟨summed, ⟨?_, ?_, ?_⟩, ?_⟩
  · rw [ByteMemory.length_slice, frameWord_slice _ (by omega), summed.plen]
    omega
  · rw [frameWord_slice _ (by omega), frameWord_slice _ (by omega), summed.plen, summed.ulen]
  · rw [show 48 + payload.length = 40 + (8 + payload.length) by omega, checksumVerifies_slice _ (by omega),
      checksumTotal_split _ (by omega), again, field]
    exact residue_add_difference (by decide) _
  · rw [field, ← residue_eq_limit_iff (show 0 < 65535 by decide) positive]
    omega

end Agreement

/-- The two packets differ in the flow label, the hop limit and the checksum only. An update of the checksum removes
the last difference, and the built packet reaches the proxy without one unless its checksum is the reserved zero. -/
theorem builders_agree (inetPton : List Char → Option (Vector UInt8 16)) (packet buf : ByteMemory)
    (srcAddr srcPort dstAddr dstPort : List Char) (payload : List UInt8) (source destination : Vector UInt8 16)
    (sourceKnown : inetPton srcAddr = some source) (destinationKnown : inetPton dstAddr = some destination)
    (fits : payload.length ≤ 65527) :
    BuiltAlike (generateIpv6UdpPacket inetPton packet srcAddr srcPort dstAddr dstPort payload)
      (buildIpv6UdpPacket buf source destination (UInt16.ofNat (portOf srcPort)) (UInt16.ofNat (portOf dstPort))
        payload)
      source.toList destination.toList (portOf srcPort) (portOf dstPort) payload := by
  have port (text : List Char) : (UInt16.ofNat (portOf text)).toNat = portOf text := by
    rw [UInt16.toNat_ofNat']
    exact Nat.mod_eq_of_lt (portOf_lt text)
  generalize made : generateIpv6UdpPacket inetPton packet srcAddr srcPort dstAddr dstPort payload = generated
  have generatedCarries : CarriesDatagram generated source.toList destination.toList (portOf srcPort)
      (portOf dstPort) payload := by
    rw [← made]
    exact generateIpv6UdpPacket_carries sourceKnown destinationKnown fits
  have unsummed : networkWord generated 46 = 0 := by
    rw [← made]
    exact generateIpv6UdpPacket_unsummed sourceKnown destinationKnown fits
  obtain ⟨builtCarries, wellFormed, reserved⟩ := @buildIpv6UdpPacket_summed buf payload source destination
    (UInt16.ofNat (portOf srcPort)) (UInt16.ofNat (portOf dstPort)) fits
  have clearedCarries := @clearedDatagram_carries payload source destination buf (UInt16.ofNat (portOf srcPort))
    (UInt16.ofNat (portOf dstPort)) fits
  rw [port, port] at builtCarries clearedCarries
  have total : datagramWordSum generated payload.length = checksumTotal (clearedDatagram buf source destination
      (UInt16.ofNat (portOf srcPort)) (UInt16.ofNat (portOf dstPort)) payload) (8 + payload.length) := by
    rw [← generatedCarries.total_eq clearedCarries (unsummed.trans clearedDatagram_unsummed.symm)]
    exact (checksumTotal_eq_words generated (by omega)).symm
  rw [← total] at reserved
  refine ⟨generatedCarries, builtCarries, ?_, ?_, unsummed, wellFormed, reserved, ?_, ?_⟩
  · intro packet member
    simp only [List.mem_cons, List.not_mem_nil, or_false] at member
    rcases member with rfl | rfl
    · exact generatedCarries.accepted
    · exact builtCarries.accepted
  · rw [buildIpv6UdpPacket_eq fits]
  · rw [generatedCarries.updated fits, builtCarries.updated fits]
    apply (complete_resize generated fits).restored
    intro index inside unresized
    unfold IsResized at unresized
    rw [resize_outside generated _ (by omega) (by omega) (by omega)]
    exact generatedCarries.agree builtCarries inside unresized
  · intro coap
    constructor
    · have updated := generatedCarries.summed fun index outside => updateUdpChecksum_outside generated outside
      have whole := complete_resize generated fits
      rw [← generatedCarries.updated fits] at whole
      exact updated.coapPacket whole coap
    · rw [← reserved]
      constructor
      · intro accepted zero
        have nonzero := accepted.checksum
        rw [frameWord_slice _ (by omega)] at nonzero
        exact nonzero zero
      · intro nonzero
        exact builtCarries.coapPacket ⟨fits, builtCarries.plen, builtCarries.ulen, wellFormed.verifies, nonzero⟩ coap

/-- This function knows the loopback address. -/
def loopbackPton (text : List Char) : Option (Vector UInt8 16) :=
  if text = "::1".toList then some #v[0, 0, 0, 0, 0, 0, 0, 0, 0, 0, 0, 0, 0, 0, 0, 1] else none

/-- The device of the demonstration sends this payload over the loopback address. -/
theorem demoDatagram_agrees :
    BuiltAlike
      (generateIpv6UdpPacket loopbackPton (fun _ => 0) "::1".toList "5683".toList "::1".toList "5643".toList
        [0xAB, 0xCD])
      (buildIpv6UdpPacket (fun _ => 0xEE) #v[0, 0, 0, 0, 0, 0, 0, 0, 0, 0, 0, 0, 0, 0, 0, 1]
        #v[0, 0, 0, 0, 0, 0, 0, 0, 0, 0, 0, 0, 0, 0, 0, 1] (UInt16.ofNat (portOf "5683".toList))
        (UInt16.ofNat (portOf "5643".toList)) [0xAB, 0xCD])
      [0, 0, 0, 0, 0, 0, 0, 0, 0, 0, 0, 0, 0, 0, 0, 1] [0, 0, 0, 0, 0, 0, 0, 0, 0, 0, 0, 0, 0, 0, 0, 1]
      (portOf "5683".toList) (portOf "5643".toList) [0xAB, 0xCD] :=
  builders_agree loopbackPton _ _ _ _ _ _ _ _ _ rfl rfl (by decide)

end SchcWork.Worker
