import SchcWork.Schc.RuleIdFraming
import SchcWork.Schc.WireFormat

namespace SchcWork.Schc.Outer

open BitString HeaderCompression Net

/-- These are the parts of the SDK on the path of one packet. -/
structure OuterSdk where
  ruleIds : RuleIdSdk Rule
  compActions (rule : Rule) (packet : Packet) (output : BitBuffer) : Except RuleIdError BitBuffer
  decompActions (rule : Rule) (comp : BitBuffer) : Option Packet

/-- The compression actions append the residue, and the decompression actions restore the fields from the unread
bits and compute the lengths and the checksum. -/
structure OuterSdk.FollowsRfc (sdk : OuterSdk) : Prop where
  lawful : sdk.ruleIds.Lawful
  ruleId_eq : ∀ rule, sdk.ruleIds.ruleId rule = rule.ruleId.toUInt16
  compActions_append : ∀ direction rule packet output, Rule.Matches direction rule packet →
    ∃ compressed, sdk.compActions rule packet output = .ok compressed ∧
      compressed.bits = output.bits ++ (rule.compress packet).bits
  decompActions_restore : ∀ rule comp, sdk.decompActions rule comp = rule.decompress Packet.wireField comp.unread

/-- The sender frames the residue of a packet with the identifier of its rule. -/
def OuterSdk.send (sdk : OuterSdk) (width : Nat) (rule : Rule) (packet : Packet) (output : BitBuffer) :
    Except RuleIdError BitBuffer :=
  Schc.compress sdk.ruleIds (some width) rule (sdk.compActions rule packet) output

/-- The receiver selects a rule by the identifier and restores the packet from the bits behind it. -/
def OuterSdk.receive (sdk : OuterSdk) (width : Nat) (rules : List Rule) (comp : BitBuffer) :
    Except RuleIdError (Option Packet) :=
  (schcDecompressInternal sdk.ruleIds (some width) rules comp).map fun selected =>
    sdk.decompActions selected.1 selected.2

/-- The receiver turns each buffer with the sent bits into a packet with this property. -/
def OuterSdk.Transports (sdk : OuterSdk) (width : Nat) (rules : List Rule) (rule : Rule) (packet : Packet)
    (good : Except RuleIdError (Option Packet) → Prop) : Prop :=
  ∀ output : BitBuffer, ∃ compressed, sdk.send width rule packet output = .ok compressed ∧
    ∀ comp : BitBuffer, comp.bits = compressed.bits → comp.getBitIndex = output.lastBitIndex →
      good (sdk.receive width rules comp)

/-- The restored frame agrees with the frame of the packet up to the flow label and the hop limit. -/
def RestoresFrame (direction : Direction) (packet : Packet) (result : Except RuleIdError (Option Packet)) : Prop :=
  ∃ restored, result = .ok (some restored) ∧ SameExceptHop (packet.frame direction) (restored.frame direction)

theorem outerRules_ids (settings : EndpointSettings) :
    (getOrangelabsOuterRules settings).rules.map (fun rule => rule.ruleId.toUInt16) =
      [56, 57, 58, 59, 60, 69, 70, 61] := rfl

/-- A matched packet is a UDP packet. -/
theorem Rule.Matches.udp {settings : EndpointSettings} {direction : Direction} {rule : Rule} {packet : Packet}
    (matched : rule.Matches direction packet) (member : rule ∈ (getOrangelabsOuterRules settings).rules) :
    packet.ipv6.nextHeader = 17 := by
  obtain ⟨ruleId, stack, capacity, coapFields, rfl, -, -⟩ := outerRule_of_member member
  have fields := matched.2
  rw [outerRule_descriptions] at fields
  obtain ⟨ipv6, -, -⟩ := layers_matched fields
  simp only [ipFields, Ipv6Header.fields, List.map_cons, List.map_nil, List.forall₂_cons] at ipv6
  obtain ⟨-, -, -, -, ⟨-, -, nextHeader⟩, -⟩ := ipv6
  have bits : some (wordBits (17 : BitVec 8)) = some (wordBits packet.ipv6.nextHeader) := nextHeader
  exact (wordBits_injective (Option.some.inj bits)).symm

/-- A packet with a well-formed frame comes back with the frame of the tunnel. -/
theorem outerRule_restoresFrame {settings : EndpointSettings} {direction : Direction} {rule : Rule} {packet : Packet}
    (member : rule ∈ (getOrangelabsOuterRules settings).rules) (matched : rule.Matches direction packet)
    (nonzero : packet.udp.checksum ≠ 0) (wellFormed : FrameWellFormed (packet.frame direction)) :
    ∃ restored, rule.decompress Packet.wireField (rule.compress packet).bits = some restored ∧
      SameExceptHop (packet.frame direction) (restored.frame direction) := by
  have consistent := Packet.consistent_of_wellFormed (matched.udp member) nonzero wellFormed
  have restored := outerRule_roundTrip Packet.wireField_content member matched
  rw [received_of_consistent consistent] at restored
  exact ⟨_, restored, packet.frame_sameExceptHop direction 0x12345 64⟩

variable {sdk : OuterSdk} {settings : EndpointSettings} {width : Nat}

/-- The sender writes the identifier bits and the residue. -/
theorem OuterSdk.FollowsRfc.send_bits (followsRfc : sdk.FollowsRfc) (narrow : width ≤ 16) {direction : Direction}
    {rule : Rule} {packet : Packet} (matched : rule.Matches direction packet) (output : BitBuffer) :
    ∃ compressed, sdk.send width rule packet output = .ok compressed ∧
      compressed.bits = output.bits ++ ruleIdBitString sdk.ruleIds width rule ++ (rule.compress packet).bits :=
  compress_bits followsRfc.lawful narrow rule (followsRfc.compActions_append direction rule packet _ matched)

theorem OuterSdk.FollowsRfc.ids (followsRfc : sdk.FollowsRfc) (settings : EndpointSettings) :
    (getOrangelabsOuterRules settings).rules.map sdk.ruleIds.ruleId = [56, 57, 58, 59, 60, 69, 70, 61] := by
  rw [funext followsRfc.ruleId_eq]
  exact outerRules_ids settings

theorem OuterSdk.FollowsRfc.ids_distinct (followsRfc : sdk.FollowsRfc) (settings : EndpointSettings) :
    ((getOrangelabsOuterRules settings).rules.map sdk.ruleIds.ruleId).Nodup := by
  rw [followsRfc.ids]
  decide

/-- Seven bits hold every identifier. -/
theorem OuterSdk.FollowsRfc.ids_fit (followsRfc : sdk.FollowsRfc) (wide : 7 ≤ width) {rule : Rule}
    (member : rule ∈ (getOrangelabsOuterRules settings).rules) : (sdk.ruleIds.ruleId rule).toNat < 2 ^ width := by
  have listed := List.mem_map_of_mem (f := sdk.ruleIds.ruleId) member
  rw [followsRfc.ids] at listed
  have bounded : ([56, 57, 58, 59, 60, 69, 70, 61] : List UInt16).all (fun id => id.toNat < 128) = true := by decide
  have small : (sdk.ruleIds.ruleId rule).toNat < 128 := of_decide_eq_true (List.all_eq_true.mp bounded _ listed)
  have power : 2 ^ 7 ≤ 2 ^ width := Nat.pow_le_pow_right (by decide) wide
  omega

/-- The receiver decompresses the residue with its own rule of the same identifier. -/
theorem OuterSdk.FollowsRfc.receives (followsRfc : sdk.FollowsRfc) (narrow : width ≤ 16) {direction : Direction}
    {rule selected : Rule} {packet : Packet} (matched : rule.Matches direction packet)
    (listed : selected ∈ (getOrangelabsOuterRules settings).rules) (sameId : selected.ruleId = rule.ruleId)
    (fits : (sdk.ruleIds.ruleId selected).toNat < 2 ^ width) (output : BitBuffer) :
    ∃ compressed, sdk.send width rule packet output = .ok compressed ∧
      ∀ comp : BitBuffer, comp.bits = compressed.bits → comp.getBitIndex = output.lastBitIndex →
        sdk.receive width (getOrangelabsOuterRules settings).rules comp =
          .ok (selected.decompress Packet.wireField (rule.compress packet).bits) := by
  obtain ⟨compressed, sent, bits⟩ := followsRfc.send_bits narrow matched output
  refine ⟨compressed, sent, ?_⟩
  intro comp same start
  have sameBits : ruleIdBitString sdk.ruleIds width rule = ruleIdBitString sdk.ruleIds width selected := by
    rw [ruleIdBitString, ruleIdBitString, followsRfc.ruleId_eq, followsRfc.ruleId_eq, sameId]
  rw [← output.length_bits] at start
  obtain ⟨read, found, -, unread⟩ := schcDecompressInternal_selects followsRfc.lawful narrow
    (followsRfc.ids_distinct settings) fits listed (sameBits ▸ same.trans bits) start
  rw [OuterSdk.receive, found]
  change Except.ok (sdk.decompActions selected read) = _
  rw [followsRfc.decompActions_restore, unread]

/-- Identifiers of at least seven bits bring every matched packet through. -/
theorem OuterSdk.FollowsRfc.transports (followsRfc : sdk.FollowsRfc) (wide : 7 ≤ width) (narrow : width ≤ 16)
    {direction : Direction} {rule : Rule} (member : rule ∈ (getOrangelabsOuterRules settings).rules)
    {packet : Packet} (matched : rule.Matches direction packet) (nonzero : packet.udp.checksum ≠ 0)
    (wellFormed : FrameWellFormed (packet.frame direction)) :
    sdk.Transports width (getOrangelabsOuterRules settings).rules rule packet (RestoresFrame direction packet) := by
  intro output
  obtain ⟨compressed, sent, received⟩ := followsRfc.receives narrow matched member rfl
    (followsRfc.ids_fit wide member) output
  refine ⟨compressed, sent, ?_⟩
  intro comp same start
  obtain ⟨restored, decompressed, sameFrame⟩ := outerRule_restoresFrame member matched nonzero wellFormed
  exact ⟨restored, (received comp same start).trans (congrArg Except.ok decompressed), sameFrame⟩

/-- The last bits of a word are the last bits of its remainder. -/
theorem wordBits_drop_mod {width : Nat} (narrow : width ≤ 16) (id : UInt16) :
    (wordBits (UInt16.ofNat (id.toNat % 2 ^ width)).toBitVec).drop (16 - width) =
      (wordBits id.toBitVec).drop (16 - width) := by
  apply List.ext_getElem
  · simp
  · intro index left right
    rw [List.length_drop, wordBits_length] at left
    rw [List.getElem_drop, List.getElem_drop, wordBits_getElem, wordBits_getElem, BitVec.getMsbD, BitVec.getMsbD]
    have inside : 16 - width + index < 16 := by omega
    have low : 16 - 1 - (16 - width + index) < width := by omega
    have small : id.toNat % 2 ^ width < 2 ^ 16 := Nat.lt_of_le_of_lt (Nat.mod_le _ _) id.toNat_lt
    have value : (UInt16.ofNat (id.toNat % 2 ^ width)).toBitVec.toNat = id.toNat % 2 ^ width := by
      rw [UInt16.toNat_toBitVec, UInt16.toNat_ofNat', Nat.mod_eq_of_lt small]
    rw [← BitVec.testBit_toNat, ← BitVec.testBit_toNat, value, Nat.testBit_mod_two_pow]
    simp [inside, low]

/-- A reader on the identifier bits of a rule finds the remainder of the identifier. -/
theorem ruleIdWord_truncated {ruleIds : RuleIdSdk Rule} (lawful : ruleIds.Lawful) (narrow : width ≤ 16)
    {rule : Rule} {comp : BitBuffer} {before residue : Bits}
    (framed : comp.bits = before ++ ruleIdBitString ruleIds width rule ++ residue)
    (start : comp.getBitIndex = before.length) :
    width ≤ comp.lastBitIndex ∧
      ruleIdWord (ruleIds.moveNBits [0, 0] (16 - width) comp.buffer comp.getBitIndex width) =
        UInt16.ofNat ((ruleIds.ruleId rule).toNat % 2 ^ width) := by
  have idLength := length_ruleIdBitString ruleIds narrow rule
  have size : comp.lastBitIndex = before.length + width + residue.length := by
    rw [← comp.length_bits, framed, List.length_append, List.length_append, idLength]
  have inside := comp.inside
  have small : (UInt16.ofNat ((ruleIds.ruleId rule).toNat % 2 ^ width)).toNat < 2 ^ width := by
    have bound : (ruleIds.ruleId rule).toNat % 2 ^ width < 2 ^ width := Nat.mod_lt _ (Nat.two_pow_pos width)
    rw [UInt16.toNat_ofNat']
    exact Nat.lt_of_le_of_lt (Nat.mod_le _ _) bound
  have window : ((bytesBits comp.buffer).drop comp.getBitIndex).take width =
      (wordBits (UInt16.ofNat ((ruleIds.ruleId rule).toNat % 2 ^ width)).toBitVec).drop (16 - width) := by
    rw [wordBits_drop_mod narrow, comp.window_bytes (by omega), framed, start, List.append_assoc, List.drop_left,
      List.take_left' idLength]
    rfl
  exact ⟨by omega, ruleIdWord_moved lawful narrow small (by omega) window⟩

/-- A truncated identifier belongs to no outer rule. -/
theorem truncatedId_unknown {id : UInt16} (listed : id ∈ ([56, 57, 58, 59, 60, 69, 70, 61] : List UInt16))
    (unfit : 2 ^ width ≤ id.toNat) :
    UInt16.ofNat (id.toNat % 2 ^ width) ∉ ([56, 57, 58, 59, 60, 69, 70, 61] : List UInt16) := by
  have every : ∀ narrow : Fin 7, ([56, 57, 58, 59, 60, 69, 70, 61] : List UInt16).all (fun id =>
      decide (2 ^ narrow.val ≤ id.toNat → UInt16.ofNat (id.toNat % 2 ^ narrow.val) ∉
        ([56, 57, 58, 59, 60, 69, 70, 61] : List UInt16))) = true := by decide
  have bounded : ([56, 57, 58, 59, 60, 69, 70, 61] : List UInt16).all (fun id => id.toNat < 128) = true := by decide
  have small : id.toNat < 128 := of_decide_eq_true (List.all_eq_true.mp bounded _ listed)
  have short : width < 7 := by
    by_contra long
    have power : 2 ^ 7 ≤ 2 ^ width := Nat.pow_le_pow_right (by decide) (Nat.le_of_not_lt long)
    omega
  exact of_decide_eq_true (List.all_eq_true.mp (every ⟨width, short⟩) id listed) unfit

/-- A receiver finds no rule when the identifier of the sent rule does not fit. -/
theorem OuterSdk.FollowsRfc.fails (followsRfc : sdk.FollowsRfc) (narrow : width ≤ 16) {direction : Direction}
    {rule : Rule} {packet : Packet} (matched : rule.Matches direction packet)
    (member : rule ∈ (getOrangelabsOuterRules settings).rules)
    (unfit : 2 ^ width ≤ (sdk.ruleIds.ruleId rule).toNat) (receiver : EndpointSettings) :
    sdk.Transports width (getOrangelabsOuterRules receiver).rules rule packet
      (fun result => result = .error .compRulesNotFoundErr) := by
  intro output
  obtain ⟨compressed, sent, bits⟩ := followsRfc.send_bits narrow matched output
  refine ⟨compressed, sent, ?_⟩
  intro comp same start
  rw [← output.length_bits] at start
  obtain ⟨whole, word⟩ := ruleIdWord_truncated followsRfc.lawful narrow (same.trans bits) start
  have listed := List.mem_map_of_mem (f := sdk.ruleIds.ruleId) member
  rw [followsRfc.ids] at listed
  have missing : sdk.ruleIds.findRuleFromId (getOrangelabsOuterRules receiver).rules
      (UInt16.ofNat ((sdk.ruleIds.ruleId rule).toNat % 2 ^ width)) = none := by
    rw [Option.eq_none_iff_forall_ne_some]
    intro other found
    obtain ⟨inside, sameId⟩ := followsRfc.lawful.find_sound _ _ _ found
    have known := List.mem_map_of_mem (f := sdk.ruleIds.ruleId) inside
    rw [followsRfc.ids, sameId] at known
    exact truncatedId_unknown listed unfit known
  rw [OuterSdk.receive, schcDecompressInternal]
  simp only [Option.getD_some]
  rw [if_neg (by omega), if_neg (by omega), word, missing]
  rfl

/-- Shorter identifiers lose every EDHOC request. -/
theorem OuterSdk.FollowsRfc.loses (followsRfc : sdk.FollowsRfc) (short : width < 7) {direction : Direction}
    {packet : Packet} (matched : (ipv6CoapEdhocRequestRule settings).Matches direction packet) :
    sdk.Transports width (getOrangelabsOuterRules settings).rules (ipv6CoapEdhocRequestRule settings) packet
      (fun result => result = .error .compRulesNotFoundErr) := by
  have member : ipv6CoapEdhocRequestRule settings ∈ (getOrangelabsOuterRules settings).rules :=
    List.mem_of_getElem? (i := 5) rfl
  have edhoc : (sdk.ruleIds.ruleId (ipv6CoapEdhocRequestRule settings)).toNat = 69 := by
    rw [followsRfc.ruleId_eq]
    rfl
  have power : 2 ^ width ≤ 2 ^ 6 := Nat.pow_le_pow_right (by decide) (by omega)
  exact followsRfc.fails (by omega) matched member (by omega) settings

/-- This SDK packs the bits without a gap and follows the field semantics. -/
def packedOuterSdk : OuterSdk where
  ruleIds := packedSdk fun rule => rule.ruleId.toUInt16
  compActions rule packet output := .ok (.ofBits output.getBitIndex (output.bits ++ (rule.compress packet).bits))
  decompActions rule comp := rule.decompress Packet.wireField comp.unread

theorem packedOuterSdk_followsRfc : packedOuterSdk.FollowsRfc where
  lawful := packedSdk_lawful _
  ruleId_eq _ := rfl
  compActions_append _ _ _ _ _ := ⟨_, rfl, BitBuffer.ofBits_bits _ _⟩
  decompActions_restore _ _ := rfl

theorem oscoreRequest_wellFormed : FrameWellFormed (oscoreRequest.frame .up) :=
  ⟨by decide +kernel, by decide +kernel, by decide +kernel⟩

end SchcWork.Schc.Outer
