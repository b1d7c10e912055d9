import SchcWork.Library.Memory
import SchcWork.Library.OnesComplement

namespace SchcWork.Net

/-- `sizeof(struct ip6_hdr)`. -/
def sizeofIp6Hdr : Nat := 40

/-- `sizeof(struct udphdr)`. -/
def sizeofUdphdr : Nat := 8

def ipv6HeadersBytes : Nat := 40
def udpHeadersBytes : Nat := 8
def ipv6Version : UInt8 := 6
def ipprotoUdp : UInt8 := 17

/-- These are the offsets of the header fields from the packet pointer. -/
def ip6PlenOffset : Nat := 4
def ip6NxtOffset : Nat := 6
def ip6SrcOffset : Nat := 8
def ip6DstOffset : Nat := 24
def uhUlenOffset : Nat := sizeofIp6Hdr + 4
def uhSumOffset : Nat := sizeofIp6Hdr + 6

/-- A little-endian host swaps the two bytes of a network word. -/
def htons (word : Nat) : Nat := word % 256 * 256 + word / 256 % 256

def ntohs (word : Nat) : Nat := htons word

/-- A packet pointer is a memory whose offset zero is the first byte of the IPv6 header. -/
def isIpv6UdpPacket (packet : ByteMemory) (packetSize : Nat) : Bool :=
  if packetSize < sizeofIp6Hdr + sizeofUdphdr then false
  else if packet 0 >>> 4 ≠ ipv6Version then false
  else packet ip6NxtOffset == ipprotoUdp

/-- These are the bytes that the packet test reads. -/
def isIpv6UdpPacketReads (packet : ByteMemory) (packetSize : Nat) : List ByteSpan :=
  if packetSize < sizeofIp6Hdr + sizeofUdphdr then []
  else if packet 0 >>> 4 ≠ ipv6Version then [⟨0, 1⟩]
  else [⟨0, 1⟩, ⟨ip6NxtOffset, 1⟩]

/-- The loop adds big-endian words, and an odd last byte is the high byte of its word. -/
def csumAdd (sum : Nat) : List UInt8 → Nat
  | [] => sum
  | [last] => sum + last.toNat <<< 8
  | high :: low :: rest => csumAdd (sum + (high.toNat <<< 8 ||| low.toNat)) rest

/-- The loop adds the bits above the low 16 bits until none remain. -/
def foldCarries (sum : Nat) : Nat :=
  if sum >>> 16 = 0 then sum else foldCarries ((sum &&& 0xFFFF) + sum >>> 16)
termination_by sum
decreasing_by
  rw [Nat.and_two_pow_sub_one_eq_mod sum 16, Nat.shiftRight_eq_div_pow] at *
  omega

/-- The result is in network byte order, so the caller stores it directly in `uh_sum`. -/
def udpChecksum (memory : ByteMemory) (packet size srcAddr dstAddr : Nat) : Nat :=
  let sum := csumAdd 0 (memory.slice srcAddr 16)
  let sum := csumAdd sum (memory.slice dstAddr 16)
  let sum := sum + (size >>> 16 &&& 0xFFFF)
  let sum := sum + (size &&& 0xFFFF)
  let sum := sum + ipprotoUdp.toNat
  let sum := csumAdd sum (memory.slice packet size)
  let result := 0xFFFF - foldCarries sum % 2 ^ 16
  let result := if result = 0 then 0xFFFF else result
  htons result

def updateUdpChecksum (packet : ByteMemory) : ByteMemory :=
  let ulen := ntohs (packet.load16 uhUlenOffset)
  let packet := packet.store16 uhSumOffset 0
  packet.store16 uhSumOffset (udpChecksum packet sizeofIp6Hdr ulen ip6SrcOffset ip6DstOffset)

/-- These are the bytes that the checksum update reads or writes. -/
def updateUdpChecksumTouches (packet : ByteMemory) : List ByteSpan :=
  [⟨uhUlenOffset, 2⟩, ⟨uhSumOffset, 2⟩, ⟨ip6SrcOffset, 16⟩, ⟨ip6DstOffset, 16⟩,
    ⟨sizeofIp6Hdr, ntohs (packet.load16 uhUlenOffset)⟩]

/-- The argument of `htons` has 16 bits, so the sum wraps at that width. -/
def updateIp6UdpLen (packet : ByteMemory) (size : Nat) : ByteMemory :=
  let packet := packet.store16 ip6PlenOffset (htons ((sizeofUdphdr + size) % 2 ^ 16))
  packet.store16 uhUlenOffset (htons ((sizeofUdphdr + size) % 2 ^ 16))

/-- These are the bytes that the length update writes. -/
def updateIp6UdpLenTouches : List ByteSpan := [⟨ip6PlenOffset, 2⟩, ⟨uhUlenOffset, 2⟩]

def ipv6UdpPayloadLen (packet : ByteMemory) : Nat :=
  let udpTotalLen := ntohs (packet.load16 uhUlenOffset)
  if udpTotalLen < sizeofUdphdr then 0 else udpTotalLen - sizeofUdphdr

def coapVersionMask : UInt8 := 0xC0
def coapVersion1 : UInt8 := 0x40

/-- The test reads the first byte whenever the given length is positive. -/
def isCoapPacket (memory : ByteMemory) (rawCoap pktLen : Nat) : Bool :=
  if pktLen < 1 then false else memory rawCoap &&& coapVersionMask == coapVersion1

/-- These are the bytes that the CoAP test reads. -/
def isCoapPacketReads (rawCoap pktLen : Nat) : List ByteSpan :=
  if pktLen < 1 then [] else [⟨rawCoap, 1⟩]

/-- This is the value of a 16-bit field in network byte order. -/
def networkWord (memory : ByteMemory) (offset : Nat) : Nat :=
  256 * (memory offset).toNat + (memory (offset + 1)).toNat

theorem networkWord_lt (memory : ByteMemory) (offset : Nat) : networkWord memory offset < 65536 := by
  have high := (memory offset).toNat_lt
  have low := (memory (offset + 1)).toNat_lt
  unfold networkWord
  omega

theorem networkWord_congr {first second : ByteMemory} {offset : Nat} (high : first offset = second offset)
    (low : first (offset + 1) = second (offset + 1)) : networkWord first offset = networkWord second offset := by
  simp only [networkWord, high, low]

/-- The byte swap of a loaded field is its network value. -/
theorem ntohs_load16 (memory : ByteMemory) (offset : Nat) :
    ntohs (memory.load16 offset) = networkWord memory offset := by
  have low := (memory offset).toNat_lt
  have high := (memory (offset + 1)).toNat_lt
  unfold ntohs htons ByteMemory.load16 networkWord
  omega

theorem ofNat_htons_low (word : Nat) : UInt8.ofNat (htons word) = UInt8.ofNat (word / 256) := by
  apply UInt8.toNat_inj.mp
  simp only [UInt8.toNat_ofNat', htons]
  omega

theorem ofNat_htons_high (word : Nat) : UInt8.ofNat (htons word / 256) = UInt8.ofNat word := by
  have upper : htons word / 256 = word % 256 := by
    have bound : word / 256 % 256 < 256 := Nat.mod_lt _ (by decide)
    unfold htons
    omega
  apply UInt8.toNat_inj.mp
  simp only [UInt8.toNat_ofNat', upper]
  omega

/-- A swapped store puts the high byte first. -/
theorem store16_htons_high (memory : ByteMemory) (offset word : Nat) :
    memory.store16 offset (htons word) offset = UInt8.ofNat (word / 256) := by
  rw [ByteMemory.store16_low, ofNat_htons_low]

theorem store16_htons_low (memory : ByteMemory) (offset word : Nat) :
    memory.store16 offset (htons word) (offset + 1) = UInt8.ofNat word := by
  rw [ByteMemory.store16_high, ofNat_htons_high]

theorem networkWord_store16 (memory : ByteMemory) (offset word : Nat) (fits : word < 65536) :
    networkWord (memory.store16 offset (htons word)) offset = word := by
  rw [networkWord, store16_htons_high, store16_htons_low, UInt8.toNat_ofNat', UInt8.toNat_ofNat']
  omega

theorem networkWord_store16_outside (memory : ByteMemory) (offset word other : Nat)
    (outside : other + 2 ≤ offset ∨ offset + 2 ≤ other) :
    networkWord (memory.store16 offset word) other = networkWord memory other :=
  networkWord_congr (ByteMemory.store16_outside memory offset word (by omega))
    (ByteMemory.store16_outside memory offset word (by omega))

/-- Two bytes with one network value are equal. -/
theorem bytes_eq_of_networkWord {first second : ByteMemory} {offset : Nat}
    (same : networkWord first offset = networkWord second offset) :
    first offset = second offset ∧ first (offset + 1) = second (offset + 1) := by
  have firstLow := (first (offset + 1)).toNat_lt
  have secondLow := (second (offset + 1)).toNat_lt
  unfold networkWord at same
  constructor
  · apply UInt8.toNat_inj.mp
    omega
  · apply UInt8.toNat_inj.mp
    omega

theorem isIpv6UdpPacket_iff (packet : ByteMemory) (packetSize : Nat) :
    isIpv6UdpPacket packet packetSize = true ↔
      48 ≤ packetSize ∧ packet 0 >>> 4 = 6 ∧ packet 6 = 17 := by
  simp only [isIpv6UdpPacket, sizeofIp6Hdr, sizeofUdphdr, ipv6Version, ip6NxtOffset, ipprotoUdp]
  by_cases short : packetSize < 48
  · simp [short, Nat.not_le.mpr short]
  · by_cases version : packet 0 >>> 4 = 6
    · simp [short, version, Nat.not_lt.mp short]
    · simp [short, version]

/-- The packet test depends on the size and on two header bytes only. -/
theorem isIpv6UdpPacket_congr {first second : ByteMemory} (packetSize : Nat)
    (version : first 0 = second 0) (next : first 6 = second 6) :
    isIpv6UdpPacket first packetSize = isIpv6UdpPacket second packetSize := by
  simp only [isIpv6UdpPacket, ip6NxtOffset, version, next]

theorem isIpv6UdpPacketReads_within (packet : ByteMemory) (packetSize : Nat) :
    ∀ span ∈ isIpv6UdpPacketReads packet packetSize, span.Within packetSize := by
  intro span member
  unfold isIpv6UdpPacketReads at member
  split at member
  · simp at member
  · rename_i long
    have room : 48 ≤ packetSize := Nat.not_lt.mp long
    split at member
    · rw [List.mem_singleton.mp member]
      change 0 + 1 ≤ packetSize
      omega
    · simp only [List.mem_cons, List.not_mem_nil, or_false, ip6NxtOffset] at member
      rcases member with rfl | rfl <;> simp only [ByteSpan.Within] <;> omega

theorem ipv6UdpPayloadLen_eq (packet : ByteMemory) : ipv6UdpPayloadLen packet = networkWord packet 44 - 8 := by
  simp only [ipv6UdpPayloadLen, ntohs_load16]
  change (if networkWord packet 44 < 8 then 0 else networkWord packet 44 - 8) = _
  split <;> omega

theorem ipv6UdpPayloadLen_le (packet : ByteMemory) : ipv6UdpPayloadLen packet ≤ 65527 := by
  have bound := networkWord_lt packet 44
  rw [ipv6UdpPayloadLen_eq]
  omega

theorem ipv6UdpPayloadLen_congr {first second : ByteMemory} (high : first 44 = second 44)
    (low : first 45 = second 45) : ipv6UdpPayloadLen first = ipv6UdpPayloadLen second := by
  rw [ipv6UdpPayloadLen_eq, ipv6UdpPayloadLen_eq, networkWord_congr high low]

theorem isCoapPacket_iff (memory : ByteMemory) (rawCoap pktLen : Nat) :
    isCoapPacket memory rawCoap pktLen = true ↔ 1 ≤ pktLen ∧ memory rawCoap &&& 0xC0 = 0x40 := by
  simp only [isCoapPacket, coapVersionMask, coapVersion1]
  by_cases empty : pktLen < 1
  · simp [empty, Nat.not_le.mpr empty]
  · simp [empty, Nat.not_lt.mp empty]

/-- The length update changes exactly the two length fields. -/
theorem updateIp6UdpLen_outside (packet : ByteMemory) (size : Nat) {index : Nat}
    (plen : index ≠ 4 ∧ index ≠ 5) (ulen : index ≠ 44 ∧ index ≠ 45) :
    updateIp6UdpLen packet size index = packet index := by
  simp only [updateIp6UdpLen, ip6PlenOffset, uhUlenOffset, sizeofIp6Hdr]
  rw [ByteMemory.store16_outside _ _ _ (by omega), ByteMemory.store16_outside _ _ _ (by omega)]

/-- Both length fields hold the UDP length of the new payload. -/
theorem updateIp6UdpLen_fields (packet : ByteMemory) {size : Nat} (fits : size ≤ 65527) :
    networkWord (updateIp6UdpLen packet size) 4 = 8 + size ∧
      networkWord (updateIp6UdpLen packet size) 44 = 8 + size := by
  have whole : (8 + size) % 2 ^ 16 = 8 + size := Nat.mod_eq_of_lt (by omega)
  simp only [updateIp6UdpLen, ip6PlenOffset, uhUlenOffset, sizeofIp6Hdr, sizeofUdphdr, whole]
  constructor
  · rw [networkWord_store16_outside _ _ _ _ (by omega), networkWord_store16 _ _ _ (by omega)]
  · rw [networkWord_store16 _ _ _ (by omega)]

/-- The checksum update changes exactly the checksum field. -/
theorem updateUdpChecksum_outside (packet : ByteMemory) {index : Nat} (outside : index ≠ 46 ∧ index ≠ 47) :
    updateUdpChecksum packet index = packet index := by
  simp only [updateUdpChecksum, uhSumOffset, sizeofIp6Hdr]
  rw [ByteMemory.store16_outside _ _ _ (by omega), ByteMemory.store16_outside _ _ _ (by omega)]

end SchcWork.Net
