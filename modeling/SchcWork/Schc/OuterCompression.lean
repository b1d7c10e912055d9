import SchcWork.Schc.OuterRules

namespace SchcWork.Schc.Outer

open BitString HeaderCompression

def Rule.descriptions (rule : Rule) : List (Description FieldKey) := rule.fields.map RuleField.description

/-- A rule matches when its field list and the field list of the packet agree. -/
def Rule.Matches (direction : Direction) (rule : Rule) (packet : Packet) : Prop :=
  rule.stack = packet.stack ∧ List.Forall₂ (Description.Matches direction) rule.descriptions packet.fields

instance (direction : Direction) (rule : Rule) (packet : Packet) : Decidable (rule.Matches direction packet) :=
  inferInstanceAs (Decidable (_ ∧ _))

/-- The identifier precedes the residue and the payload. -/
structure SchcMessage where
  ruleId : UInt8
  bits : Bits
  deriving Repr, DecidableEq

def Rule.compress (rule : Rule) (packet : Packet) : SchcMessage :=
  ⟨rule.ruleId, encode rule.descriptions packet.fields packet.payload⟩

/-- The receiver computes the lengths and the checksum when it has every other field. -/
def Rule.decompress (computeField : Packet → FieldId → BitVec 16) (rule : Rule) (bits : Bits) : Option Packet :=
  (decode rule.descriptions bits).bind fun received =>
    (Packet.ofFields rule.stack received.1 received.2).bind fun blank =>
      Packet.ofFields rule.stack
        (complete (fun key => wordBits (computeField blank key.1)) rule.descriptions received.1) received.2

structure CompressionSdk where
  compress (rule : Rule) (packet : Packet) : SchcMessage
  decompress (rules : Rules) (message : SchcMessage) : Option Packet
  computeField (packet : Packet) (id : FieldId) : BitVec 16

/-- The SDK applies the operators and the actions of RFC 8724 to the fields of a rule. A length and a checksum
depend on neither the flow label nor the hop limit nor the old lengths and checksum. -/
structure CompressionSdk.FollowsRfc (sdk : CompressionSdk) : Prop where
  compress_matched : ∀ direction rule packet, Rule.Matches direction rule packet →
    sdk.compress rule packet = rule.compress packet
  decompress_known : ∀ rules message rule, rules.lookup message.ruleId = some rule →
    sdk.decompress rules message = rule.decompress sdk.computeField message.bits
  computeField_content : ∀ packet id, sdk.computeField packet.content id = sdk.computeField packet id

/-- This packet differs from the original in the flow label, the hop limit and the computed fields. -/
def received (value : FieldId → BitVec 16) (packet : Packet) : Packet :=
  { packet with
    ipv6 := { packet.ipv6 with
      flowLabel := 0x12345, hopLimit := 64, payloadLength := value .ipv6PayloadLength }
    udp := { packet.udp with length := value .udpLength, checksum := value .udpChecksum } }

theorem ipFields_restored {settings : EndpointSettings} {direction : Direction} {ipv6 : Ipv6Header}
    (matched : List.Forall₂ (Description.Matches direction)
      ((ipFields settings).map RuleField.description) ipv6.fields) :
    restoreAll ((ipFields settings).map RuleField.description) ipv6.fields =
      Ipv6Header.fields { ipv6 with flowLabel := 0x12345, hopLimit := 64, payloadLength := 0 } := by
  simp only [ipFields, Ipv6Header.fields, List.map_cons, List.map_nil, List.forall₂_cons] at matched
  obtain ⟨⟨-, -, version⟩, ⟨-, -, trafficClass⟩, -, -, ⟨-, -, nextHeader⟩, -, ⟨-, -, prefixDev⟩, ⟨-, -, iidDev⟩,
    ⟨-, -, prefixApp⟩, ⟨-, -, iidApp⟩, -⟩ := matched
  simp only [restoreAll, ipFields, Ipv6Header.fields, List.map_cons, List.map_nil, List.zipWith_cons_cons,
    List.zipWith_nil_left]
  rw [Description.restored_of_lossless version rfl, Description.restored_of_lossless trafficClass rfl,
    Description.restored_of_lossless nextHeader rfl, Description.restored_of_lossless prefixDev rfl,
    Description.restored_of_lossless iidDev rfl, Description.restored_of_lossless prefixApp rfl,
    Description.restored_of_lossless iidApp rfl]
  rfl

theorem udpFields_restored {settings : EndpointSettings} {direction : Direction} {udp : UdpHeader}
    (matched : List.Forall₂ (Description.Matches direction)
      ((udpFields settings).map RuleField.description) udp.fields) :
    restoreAll ((udpFields settings).map RuleField.description) udp.fields =
      UdpHeader.fields { udp with length := 0, checksum := 0 } := by
  simp only [udpFields, UdpHeader.fields, List.map_cons, List.map_nil, List.forall₂_cons] at matched
  obtain ⟨⟨-, -, portDev⟩, ⟨-, -, portApp⟩, -⟩ := matched
  simp only [restoreAll, udpFields, UdpHeader.fields, List.map_cons, List.map_nil, List.zipWith_cons_cons,
    List.zipWith_nil_left]
  rw [Description.restored_of_lossless portDev rfl, Description.restored_of_lossless portApp rfl]
  rfl

/-- An option is restored in whole bytes. -/
theorem RuleField.isOption_sound {field : RuleField} (described : field.isOption = true) (option : CoapOption) :
    field.description.Sound (bytesBits option.value) := by
  simp only [RuleField.isOption, Bool.and_eq_true, beq_iff_eq] at described
  obtain ⟨⟨⟨lengthZero, knownBytes⟩, target⟩, -⟩ := described
  have length : field.description.length = .variableLength 8 := if_pos lengthZero
  have inside := option.inside
  unfold Description.Sound
  rw [length]
  cases action : field.description.action with
  | notSent =>
      have known : field.action = .notSent := action
      simpa [known, RuleField.description] using target
  | computeLength => trivial
  | computeChecksum => trivial
  | valueSent =>
      change 8 ∣ (bytesBits option.value).length ∧ (bytesBits option.value).length / 8 < 2 ^ 16
      rw [bytesBits_length]
      omega
  | lsb =>
      change 8 ∣ ((bytesBits option.value).drop field.matching.known).length ∧
        ((bytesBits option.value).drop field.matching.known).length / 8 < 2 ^ 16
      rw [List.length_drop, bytesBits_length]
      omega

theorem optionFields_compatible {direction : Direction} {fields : List RuleField}
    (described : fields.all RuleField.isOption = true) {earlier : List Nat} {options : List CoapOption}
    (matched : List.Forall₂ (Description.Matches direction) (fields.map RuleField.description)
      (optionFields earlier options)) :
    List.Forall₂ (Compatible direction) (fields.map RuleField.description) (optionFields earlier options) := by
  induction options generalizing fields earlier with
  | nil =>
      rw [optionFields, List.forall₂_nil_right_iff] at matched
      rw [matched]
      exact .nil
  | cons option options ih =>
      cases fields with
      | nil => cases matched
      | cons field fields =>
          rw [List.all_cons, Bool.and_eq_true] at described
          rw [List.map_cons, optionFields, List.forall₂_cons] at matched ⊢
          exact ⟨⟨matched.1, RuleField.isOption_sound described.1 option⟩, ih described.2 matched.2⟩

/-- The matched token length makes the token as long as its field. -/
theorem token_framed {direction : Direction} {coap : CoapHeader}
    (matched : Description.Matches direction ruleField16.description
      ⟨(.coapTokenLength, 1), wordBits coap.tokenLength⟩) :
    ruleField19.description.Sound (bytesBits coap.token) := by
  obtain ⟨-, -, same⟩ := matched
  have bits : some (wordBits (2 : BitVec 4)) = some (wordBits coap.tokenLength) := same
  have two : 2 = coap.tokenLength := wordBits_injective (Option.some.inj bits)
  have declared := coap.declared
  rw [← two] at declared
  change (bytesBits coap.token).length = 16 - 0
  rw [bytesBits_length, declared]
  rfl

theorem coapFields_compatible {direction : Direction} {coapFields : List RuleField} (part : CoapPart coapFields)
    {packet : Packet}
    (matched : List.Forall₂ (Description.Matches direction) (coapFields.map RuleField.description)
      packet.coapFields) :
    List.Forall₂ (Compatible direction) (coapFields.map RuleField.description) packet.coapFields := by
  rcases part with rfl | ⟨coapType, coapCode, options, rfl, described⟩
  · exact compatible_of_standsAlone matched rfl
  · cases present : packet.coap with
    | none =>
        simp only [Packet.coapFields, present] at matched
        cases matched
    | some coap =>
        simp only [Packet.coapFields, present, Option.map_some, Option.getD_some, CoapHeader.fields,
          List.cons_append, List.nil_append, List.map_cons, List.forall₂_cons] at matched ⊢
        obtain ⟨version, messageType, tokenLength, code, msgId, token, others⟩ := matched
        have msgIdSound : ruleField18.description.Sound (wordBits coap.msgId) := wordBits_length coap.msgId
        exact ⟨⟨version, Description.sound_of_standsAlone rfl _⟩,
          ⟨messageType, Description.sound_of_standsAlone rfl _⟩,
          ⟨tokenLength, Description.sound_of_standsAlone rfl _⟩, ⟨code, Description.sound_of_standsAlone rfl _⟩,
          ⟨msgId, msgIdSound⟩, ⟨token, token_framed tokenLength⟩, optionFields_compatible described others⟩

theorem coapFields_lossless {coapFields : List RuleField} (part : CoapPart coapFields) :
    (coapFields.map RuleField.description).all Description.lossless = true := by
  rcases part with rfl | ⟨coapType, coapCode, options, rfl, described⟩
  · rfl
  · have others : (options.map RuleField.description).all Description.lossless = true := by
      rw [List.all_map]
      apply List.all_eq_true.mpr
      intro field member
      have option := List.all_eq_true.mp described field member
      rw [RuleField.isOption, Bool.and_eq_true] at option
      exact option.2
    exact others

/-- The descriptions of a rule follow the three layers. -/
theorem outerRule_descriptions (settings : EndpointSettings) (ruleId : UInt8) (stack : Stack) (capacity : Nat)
    (coapFields : List RuleField) :
    (outerRule settings ruleId stack capacity coapFields).descriptions =
      (ipFields settings).map RuleField.description ++ (udpFields settings).map RuleField.description ++
        coapFields.map RuleField.description := by
  rw [Rule.descriptions, outerRule_fields, List.map_append, List.map_append]

section layers

variable {settings : EndpointSettings} {direction : Direction} {rule : Rule} {packet : Packet}

/-- A matched packet matches the rule in each layer. -/
theorem layers_matched {coapFields : List RuleField}
    (matched : List.Forall₂ (Description.Matches direction)
      ((ipFields settings).map RuleField.description ++ (udpFields settings).map RuleField.description ++
        coapFields.map RuleField.description) packet.fields) :
    List.Forall₂ (Description.Matches direction) ((ipFields settings).map RuleField.description)
        packet.ipv6.fields ∧
      List.Forall₂ (Description.Matches direction) ((udpFields settings).map RuleField.description)
        packet.udp.fields ∧
      List.Forall₂ (Description.Matches direction) (coapFields.map RuleField.description) packet.coapFields := by
  have ipv6Length : ((ipFields settings).map RuleField.description).length = packet.ipv6.fields.length := rfl
  have udpLength : ((udpFields settings).map RuleField.description).length = packet.udp.fields.length := rfl
  rw [Packet.fields, List.append_assoc, List.append_assoc] at matched
  obtain ⟨ipv6, others⟩ := forall₂_split ipv6Length matched
  obtain ⟨udp, coap⟩ := forall₂_split udpLength others
  exact ⟨ipv6, udp, coap⟩

/-- The receiver can take the residue of a matched packet apart. -/
theorem outerRule_compatible (member : rule ∈ (getOrangelabsOuterRules settings).rules)
    (matched : rule.Matches direction packet) :
    List.Forall₂ (Compatible direction) rule.descriptions packet.fields := by
  obtain ⟨ruleId, stack, capacity, coapFields, rfl, -, part⟩ := outerRule_of_member member
  have fields := matched.2
  rw [outerRule_descriptions] at fields ⊢
  obtain ⟨ipv6, udp, coap⟩ := layers_matched fields
  have ipv6Compatible := compatible_of_standsAlone ipv6 rfl
  have udpCompatible := compatible_of_standsAlone udp rfl
  exact List.rel_append (List.rel_append ipv6Compatible udpCompatible) (coapFields_compatible part coap)

/-- The receiver restores every field that is neither fixed by the rule nor computed. -/
theorem outerRule_restored (member : rule ∈ (getOrangelabsOuterRules settings).rules)
    (matched : rule.Matches direction packet) :
    restoreAll rule.descriptions packet.fields = (received (fun _ => 0) packet).fields := by
  obtain ⟨ruleId, stack, capacity, coapFields, rfl, -, part⟩ := outerRule_of_member member
  have fields := matched.2
  rw [outerRule_descriptions] at fields ⊢
  obtain ⟨ipv6, udp, coap⟩ := layers_matched fields
  rw [Packet.fields, restoreAll_append rfl, restoreAll_append rfl, ipFields_restored ipv6,
    udpFields_restored udp, restoreAll_of_lossless coap (coapFields_lossless part)]
  rfl

/-- The receiver fills the two lengths and the checksum. -/
theorem outerRule_completed (value : FieldId → BitVec 16)
    (member : rule ∈ (getOrangelabsOuterRules settings).rules) (matched : rule.Matches direction packet) :
    complete (fun key => wordBits (value key.1)) rule.descriptions (received (fun _ => 0) packet).fields =
      (received value packet).fields := by
  obtain ⟨ruleId, stack, capacity, coapFields, rfl, -, part⟩ := outerRule_of_member member
  have fields := matched.2
  rw [outerRule_descriptions] at fields ⊢
  obtain ⟨-, -, coap⟩ := layers_matched fields
  rw [Packet.fields, complete_append _ rfl, complete_append _ rfl]
  have coapKept : complete (fun key => wordBits (value key.1)) (coapFields.map RuleField.description)
      (received (fun _ => 0) packet).coapFields = packet.coapFields :=
    complete_of_lossless _ coap.length_eq (coapFields_lossless part)
  rw [coapKept]
  rfl

/-- The rule decompresses its own message. -/
theorem outerRule_roundTrip {computeField : Packet → FieldId → BitVec 16}
    (computeField_content : ∀ packet id, computeField packet.content id = computeField packet id)
    (member : rule ∈ (getOrangelabsOuterRules settings).rules) (matched : rule.Matches direction packet) :
    rule.decompress computeField (rule.compress packet).bits =
      some (received (computeField packet) packet) := by
  have decoded : decode rule.descriptions (rule.compress packet).bits =
      some ((received (fun _ => 0) packet).fields, packet.payload) := by
    rw [← outerRule_restored member matched]
    exact decode_encode (outerRule_compatible member matched) packet.payload
  have rebuilt (value : FieldId → BitVec 16) :
      Packet.ofFields rule.stack (received value packet).fields packet.payload =
        some (received value packet) := by
    rw [matched.1]
    exact Packet.ofFields_fields (received value packet)
  have sameValues : computeField (received (fun _ => 0) packet) = computeField packet := by
    funext id
    rw [← computeField_content, ← computeField_content packet]
    rfl
  rw [Rule.decompress, decoded, Option.bind_some, rebuilt, Option.bind_some,
    outerRule_completed _ member matched, rebuilt, sameValues]

end layers

/-- The lengths and the checksum of the packet are the ones that the receiver computes. -/
def Consistent (value : FieldId → BitVec 16) (packet : Packet) : Prop :=
  packet.ipv6.payloadLength = value .ipv6PayloadLength ∧ packet.udp.length = value .udpLength ∧
    packet.udp.checksum = value .udpChecksum

theorem received_of_consistent {value : FieldId → BitVec 16} {packet : Packet}
    (consistent : Consistent value packet) :
    received value packet =
      { packet with ipv6 := { packet.ipv6 with flowLabel := 0x12345, hopLimit := 64 } } := by
  obtain ⟨payloadLength, length, checksum⟩ := consistent
  rw [received, ← payloadLength, ← length, ← checksum]

/-- This SDK applies the field semantics and nothing else. -/
def referenceSdk : CompressionSdk where
  compress rule packet := rule.compress packet
  decompress rules message := (rules.lookup message.ruleId).bind fun rule =>
    rule.decompress Packet.wireField message.bits
  computeField := Packet.wireField

theorem referenceSdk_followsRfc : referenceSdk.FollowsRfc where
  compress_matched _ _ _ _ := rfl
  decompress_known rules message rule selected := by
    change (rules.lookup message.ruleId).bind _ = _
    rw [selected]
    rfl
  computeField_content := Packet.wireField_content

/-- Every matched packet comes back but for the flow label, the hop limit and the computed fields. A consistent
packet keeps its computed fields. -/
theorem outerRules_lossless (settings : EndpointSettings) (sdk : CompressionSdk) (followsRfc : sdk.FollowsRfc)
    (direction : Direction) (rule : Rule) (member : rule ∈ (getOrangelabsOuterRules settings).rules)
    (packet : Packet) (matched : rule.Matches direction packet) :
    (sdk.compress rule packet).ruleId = rule.ruleId ∧
      sdk.decompress (getOrangelabsOuterRules settings) (sdk.compress rule packet) =
        some (received (sdk.computeField packet) packet) ∧
      (Consistent (sdk.computeField packet) packet →
        sdk.decompress (getOrangelabsOuterRules settings) (sdk.compress rule packet) =
          some { packet with ipv6 := { packet.ipv6 with flowLabel := 0x12345, hopLimit := 64 } }) := by
  have message := followsRfc.compress_matched direction rule packet matched
  have selected : (getOrangelabsOuterRules settings).lookup (sdk.compress rule packet).ruleId = some rule := by
    rw [message]
    exact outerRules_lookup member
  have decompressed : sdk.decompress (getOrangelabsOuterRules settings) (sdk.compress rule packet) =
      some (received (sdk.computeField packet) packet) := by
    rw [followsRfc.decompress_known _ _ _ selected, message]
    exact outerRule_roundTrip followsRfc.computeField_content member matched
  refine ⟨by rw [message]; rfl, decompressed, ?_⟩
  intro consistent
  rw [decompressed, received_of_consistent consistent]

def sampleSettings : EndpointSettings where
  hostIpv6Addr := #v[0xfd, 0, 0, 0, 0, 0, 0, 1, 0, 0, 0, 0, 0, 0, 0, 2]
  hostUdpPort := #v[0x16, 0x33]
  remoteIpv6Addr := #v[0xfd, 0, 0, 0, 0, 0, 0, 3, 0, 0, 0, 0, 0, 0, 0, 4]
  remoteUdpPort := #v[0x16, 0x34]

/-- A protected request has two token bytes and an OSCORE option of three bytes. -/
def oscoreRequest : Packet where
  ipv6 := ⟨6, 0, 0xabcde, 22, 17, 255, 0xfd00000000000001, 2, 0xfd00000000000003, 4⟩
  udp := ⟨0x1633, 0x1634, 22, 0x3118⟩
  coap := some ⟨1, 0, 2, 2, 0x1234, [0xab, 0xcd], [⟨9, [0x09, 0x14, 0x25], by decide⟩], rfl⟩
  payload := [0xff, 1, 2, 3]

theorem oscoreRequest_matched : (ipv6CoapOscoreRequestRule sampleSettings).Matches .up oscoreRequest := by
  decide +kernel

theorem oscoreRequest_consistent : Consistent oscoreRequest.wireField oscoreRequest := by
  unfold Consistent
  decide +kernel

/-- The request comes back with the flow label and the hop limit of its rule. -/
theorem oscoreRequest_lossless :
    referenceSdk.decompress (getOrangelabsOuterRules sampleSettings)
        (referenceSdk.compress (ipv6CoapOscoreRequestRule sampleSettings) oscoreRequest) =
      some { oscoreRequest with ipv6 := { oscoreRequest.ipv6 with flowLabel := 0x12345, hopLimit := 64 } } :=
  (outerRules_lossless sampleSettings referenceSdk referenceSdk_followsRfc .up _ List.mem_cons_self oscoreRequest
    oscoreRequest_matched).2.2 oscoreRequest_consistent

end SchcWork.Schc.Outer
