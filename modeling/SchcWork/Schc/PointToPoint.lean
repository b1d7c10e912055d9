import SchcWork.Schc.OuterTransport
import SchcWork.Worker.Oscore

namespace SchcWork.Schc

open BitString HeaderCompression Net Worker

/-- The other end sees its own endpoint where this end sees the remote endpoint. -/
def Packet.mirror (packet : Packet) : Packet :=
  { packet with
    ipv6 := { packet.ipv6 with
      prefixDev := packet.ipv6.prefixApp, iidDev := packet.ipv6.iidApp
      prefixApp := packet.ipv6.prefixDev, iidApp := packet.ipv6.iidDev }
    udp := { packet.udp with portDev := packet.udp.portApp, portApp := packet.udp.portDev } }

/-- The downlink frame of the other end is the uplink frame of this end. -/
theorem Packet.mirror_frame (packet : Packet) : packet.mirror.frame .down = packet.frame .up := by
  have addresses : packet.mirror.ipv6.addresses .down = packet.ipv6.addresses .up := by
    rw [Ipv6Header.addresses, if_pos rfl, Ipv6Header.addresses, if_neg nofun]
    rfl
  have ports : packet.mirror.udp.ports .down = packet.udp.ports .up := by
    rw [UdpHeader.ports, if_pos rfl, UdpHeader.ports, if_neg nofun]
    rfl
  have front : packet.mirror.ipv6.front = packet.ipv6.front := rfl
  have data : packet.mirror.datagramData = packet.datagramData := rfl
  have length : packet.mirror.udp.length = packet.udp.length := rfl
  have checksum : packet.mirror.udp.checksum = packet.udp.checksum := rfl
  rw [frame, frame, segment, segment, addresses, ports, front, data, length, checksum]

/-- The device and the application of the packet have the same address and the same port. -/
def Packet.Loops (packet : Packet) : Prop :=
  packet.ipv6.prefixDev = packet.ipv6.prefixApp ∧ packet.ipv6.iidDev = packet.ipv6.iidApp ∧
    packet.udp.portDev = packet.udp.portApp

instance (packet : Packet) : Decidable packet.Loops := inferInstanceAs (Decidable (_ ∧ _ ∧ _))

/-- The mirror exchanges the source and the destination of an uplink frame. -/
theorem Packet.mirror_loops {packet other : Packet} (same : SameExceptHop (packet.frame .up) (other.frame .up))
    (addresses : other.ipv6.addresses .up = packet.mirror.ipv6.addresses .up)
    (ports : other.udp.ports .up = packet.mirror.udp.ports .up) : packet.Loops := by
  have rest := same.behind packet.ipv6.length_front other.ipv6.length_front
  rw [addresses] at rest
  obtain ⟨sameAddresses, segments⟩ := List.append_inj rest (by
    rw [packet.ipv6.length_addresses, packet.mirror.ipv6.length_addresses])
  have source : packet.ipv6.deviceAddress = packet.ipv6.applicationAddress :=
    (List.append_inj sameAddresses (by
      rw [packet.ipv6.length_deviceAddress, packet.mirror.ipv6.length_deviceAddress])).1
  obtain ⟨prefixes, iids⟩ := List.append_inj source (by
    rw [length_wordBytes packet.ipv6.prefixDev 8 rfl, length_wordBytes packet.ipv6.prefixApp 8 rfl])
  rw [Packet.segment, Packet.segment, ports] at segments
  have samePorts := (List.append_inj segments (by
    rw [packet.udp.length_ports, packet.mirror.udp.length_ports])).1
  have source : wordBytes packet.udp.portDev = wordBytes packet.udp.portApp :=
    (List.append_inj samePorts (by
      rw [length_wordBytes packet.udp.portDev 2 rfl, length_wordBytes packet.mirror.udp.portDev 2 rfl])).1
  exact ⟨wordBytes_injective 8 rfl prefixes, wordBytes_injective 8 rfl iids, wordBytes_injective 2 rfl source⟩

theorem Packet.mirror_eq_self {packet : Packet} (loops : packet.Loops) : packet.mirror = packet := by
  obtain ⟨⟨version, trafficClass, flowLabel, payloadLength, nextHeader, hopLimit, prefixDev, iidDev, prefixApp, iidApp⟩,
    ⟨portDev, portApp, length, checksum⟩, coap, payload⟩ := packet
  change prefixDev = prefixApp ∧ iidDev = iidApp ∧ portDev = portApp at loops
  obtain ⟨rfl, rfl, rfl⟩ := loops
  rfl

/-- Both other directions write the source of an uplink packet first. -/
theorem Packet.frame_eq_up {direction : Direction} (other : direction ≠ .down) (packet : Packet) :
    packet.frame direction = packet.frame .up := by
  have addresses : packet.ipv6.addresses direction = packet.ipv6.addresses .up := by
    rw [Ipv6Header.addresses, if_neg other, Ipv6Header.addresses, if_neg nofun]
  have ports : packet.udp.ports direction = packet.udp.ports .up := by
    rw [UdpHeader.ports, if_neg other, UdpHeader.ports, if_neg nofun]
  rw [frame, frame, segment, segment, addresses, ports]

/-- The mirrored packet has the sent frame exactly in the downlink direction, unless the packet loops. -/
theorem Packet.mirror_sameExceptHop (packet : Packet) (flowLabel : BitVec 20) (hopLimit : BitVec 8)
    (direction : Direction) :
    SameExceptHop (packet.frame .up)
        (Packet.frame direction
          { packet.mirror with ipv6 := { packet.mirror.ipv6 with flowLabel := flowLabel, hopLimit := hopLimit } }) ↔
      direction = .down ∨ packet.Loops := by
  by_cases down : direction = .down
  · subst down
    have same := packet.mirror.frame_sameExceptHop .down flowLabel hopLimit
    rw [packet.mirror_frame] at same
    exact iff_of_true same (.inl rfl)
  · rw [or_iff_right down, Packet.frame_eq_up down]
    constructor
    · intro same
      exact Packet.mirror_loops same rfl rfl
    · intro loops
      rw [Packet.mirror_eq_self loops]
      exact packet.frame_sameExceptHop .up flowLabel hopLimit

namespace Outer

def EndpointSettings.swap (settings : EndpointSettings) : EndpointSettings where
  hostIpv6Addr := settings.remoteIpv6Addr
  hostUdpPort := settings.remoteUdpPort
  remoteIpv6Addr := settings.hostIpv6Addr
  remoteUdpPort := settings.hostUdpPort

/-- This rule has other endpoints and the same CoAP fields. -/
def Rule.withEndpoints (settings : EndpointSettings) (rule : Rule) : Rule :=
  outerRule settings rule.ruleId rule.stack rule.capacity (rule.fields.drop 14)

theorem outerRules_withEndpoints (settings other : EndpointSettings) :
    (getOrangelabsOuterRules settings).rules.map (Rule.withEndpoints other) = (getOrangelabsOuterRules other).rules :=
  rfl

theorem withEndpoints_member {settings other : EndpointSettings} {rule : Rule}
    (member : rule ∈ (getOrangelabsOuterRules settings).rules) :
    rule.withEndpoints other ∈ (getOrangelabsOuterRules other).rules := by
  rw [← outerRules_withEndpoints settings other]
  exact List.mem_map_of_mem member

theorem withEndpoints_self {settings : EndpointSettings} {rule : Rule}
    (member : rule ∈ (getOrangelabsOuterRules settings).rules) : rule.withEndpoints settings = rule := by
  have same : (getOrangelabsOuterRules settings).rules.map (Rule.withEndpoints settings) =
      (getOrangelabsOuterRules settings).rules.map id := by
    rw [outerRules_withEndpoints, List.map_id]
  exact List.map_inj_left.mp same rule member

theorem outerRules_bothDirections (settings : EndpointSettings) :
    (getOrangelabsOuterRules settings).rules.all (fun rule =>
      rule.fields.all fun field => field.direction == .both) = true := rfl

/-- A description for both directions matches in each direction. -/
theorem matched_anyDirection {fields : List RuleField} (both : ∀ field ∈ fields, field.direction = .both)
    {values : List (HeaderField FieldKey)} {direction : Direction}
    (matched : List.Forall₂ (Description.Matches direction) (fields.map RuleField.description) values)
    (other : Direction) :
    List.Forall₂ (Description.Matches other) (fields.map RuleField.description) values := by
  induction fields generalizing values with
  | nil =>
      cases matched
      exact .nil
  | cons field fields ih =>
      rw [List.map_cons] at matched ⊢
      cases matched with
      | cons first others =>
          obtain ⟨sameKey, -, holds⟩ := first
          have covered : field.description.direction.covers other = true := by
            show field.direction.covers other = true
            rw [both field List.mem_cons_self]
            rfl
          exact .cons ⟨sameKey, covered, holds⟩
            (ih (fun field member => both field (List.mem_cons_of_mem _ member)) others)

/-- The residue holds no address and no port. -/
theorem outerRule_sendAll (settings : EndpointSettings) (ruleId : UInt8) (stack : Stack) (capacity : Nat)
    (coapFields : List RuleField) (packet : Packet) :
    sendAll (outerRule settings ruleId stack capacity coapFields).descriptions packet.fields =
      sendAll (coapFields.map RuleField.description) packet.coapFields := rfl

section Mirror

variable {settings : EndpointSettings} {direction : Direction} {rule : Rule} {packet : Packet}

/-- The other end writes the same bits for the mirrored packet. -/
theorem withEndpoints_compress (member : rule ∈ (getOrangelabsOuterRules settings).rules) (other : EndpointSettings) :
    ((rule.withEndpoints other).compress packet.mirror).bits = (rule.compress packet).bits := by
  rw [← withEndpoints_self member]
  simp only [Rule.compress, encode, Rule.withEndpoints, outerRule_sendAll]
  rfl

/-- The mirrored packet matches the rule of the other end. -/
theorem Rule.Matches.mirror (matched : rule.Matches direction packet)
    (member : rule ∈ (getOrangelabsOuterRules settings).rules) (other : Direction) :
    (rule.withEndpoints settings.swap).Matches other packet.mirror := by
  have both : ∀ field ∈ rule.fields.drop 14, field.direction = .both := by
    intro field inside
    have every := List.all_eq_true.mp (outerRules_bothDirections settings) rule member
    exact beq_iff_eq.mp (List.all_eq_true.mp every field (List.mem_of_mem_drop inside))
  rw [← withEndpoints_self member] at matched
  obtain ⟨stack, fields⟩ := matched
  refine ⟨stack, ?_⟩
  rw [Rule.withEndpoints, outerRule_descriptions] at fields ⊢
  obtain ⟨ipv6, udp, coap⟩ := layers_matched fields
  refine List.rel_append (List.rel_append ?_ ?_) (matched_anyDirection both coap other)
  · simp only [ipFields, Ipv6Header.fields, List.map_cons, List.map_nil, List.forall₂_cons] at ipv6 ⊢
    obtain ⟨⟨versionKey, -, version⟩, ⟨classKey, -, trafficClass⟩, ⟨labelKey, -, label⟩, ⟨lengthKey, -, length⟩,
      ⟨nextKey, -, next⟩, ⟨hopKey, -, hop⟩, ⟨-, -, prefixDev⟩, ⟨-, -, iidDev⟩, ⟨-, -, prefixApp⟩,
      ⟨-, -, iidApp⟩, -⟩ := ipv6
    exact ⟨⟨versionKey, rfl, version⟩, ⟨classKey, rfl, trafficClass⟩, ⟨labelKey, rfl, label⟩, ⟨lengthKey, rfl, length⟩,
      ⟨nextKey, rfl, next⟩, ⟨hopKey, rfl, hop⟩, ⟨rfl, rfl, prefixApp⟩, ⟨rfl, rfl, iidApp⟩, ⟨rfl, rfl, prefixDev⟩,
      ⟨rfl, rfl, iidDev⟩, .nil⟩
  · simp only [udpFields, UdpHeader.fields, List.map_cons, List.map_nil, List.forall₂_cons] at udp ⊢
    obtain ⟨⟨-, -, portDev⟩, ⟨-, -, portApp⟩, ⟨lengthKey, -, length⟩, ⟨sumKey, -, sum⟩, -⟩ := udp
    exact ⟨⟨rfl, rfl, portApp⟩, ⟨rfl, rfl, portDev⟩, ⟨lengthKey, rfl, length⟩, ⟨sumKey, rfl, sum⟩, .nil⟩

/-- The other end restores the mirrored packet with the flow label and the hop limit of its rule. -/
theorem withEndpoints_decompress (matched : rule.Matches .up packet)
    (member : rule ∈ (getOrangelabsOuterRules settings).rules) (nonzero : packet.udp.checksum ≠ 0)
    (wellFormed : FrameWellFormed (packet.frame .up)) :
    (rule.withEndpoints settings.swap).decompress Packet.wireField (rule.compress packet).bits =
      some { packet.mirror with ipv6 := { packet.mirror.ipv6 with flowLabel := 0x12345, hopLimit := 64 } } := by
  have listed : rule.withEndpoints settings.swap ∈ (getOrangelabsOuterRules settings.swap).rules :=
    withEndpoints_member member
  have mirrored := matched.mirror member .down
  have sameFrame : FrameWellFormed (packet.mirror.frame .down) := by rwa [packet.mirror_frame]
  have consistent := Packet.consistent_of_wellFormed (mirrored.udp listed) nonzero sameFrame
  have restored := outerRule_roundTrip Packet.wireField_content listed mirrored
  rw [received_of_consistent consistent, withEndpoints_compress member] at restored
  exact restored

end Mirror

/-- The build configuration has these texts for the two endpoints. -/
structure EndpointTexts where
  ipv6Prefix : List Char
  ipv6Iid : List Char
  udpHostPort : List Char
  ipv6PeerPrefix : List Char
  ipv6PeerIid : List Char
  udpPeerPort : List Char
  deriving Repr, DecidableEq

/-- The static arrays start with zeros. -/
def initialEndpoints : EndpointSettings where
  hostIpv6Addr := .replicate 16 0
  hostUdpPort := .replicate 2 0
  remoteIpv6Addr := .replicate 16 0
  remoteUdpPort := .replicate 2 0

/-- These are the four setter calls of `main`. The peer mode exchanges the texts. -/
def mainEndpoints (inetPton : List Char → Option (Vector UInt8 16)) (texts : EndpointTexts) :
    PeerMode → EndpointSettings
  | .peer =>
      let settings := netSetHostStaticIp inetPton initialEndpoints (texts.ipv6PeerPrefix ++ texts.ipv6PeerIid)
      let settings := netSetHostStaticPort settings texts.udpPeerPort
      let settings := netSetRemoteStaticIp inetPton settings (texts.ipv6Prefix ++ texts.ipv6Iid)
      netSetRemoteStaticPort settings texts.udpHostPort
  | .device =>
      let settings := netSetHostStaticIp inetPton initialEndpoints (texts.ipv6Prefix ++ texts.ipv6Iid)
      let settings := netSetHostStaticPort settings texts.udpHostPort
      let settings := netSetRemoteStaticIp inetPton settings (texts.ipv6PeerPrefix ++ texts.ipv6PeerIid)
      netSetRemoteStaticPort settings texts.udpPeerPort

/-- The two ends have each other's endpoint as the remote one, also when a text is no address. -/
theorem mainEndpoints_other (inetPton : List Char → Option (Vector UInt8 16)) (texts : EndpointTexts)
    (mode : PeerMode) : mainEndpoints inetPton texts mode.other = (mainEndpoints inetPton texts mode).swap := by
  cases mode with
  | device => rfl
  | peer => rfl

/-- These are the outer rules of one end. -/
def endRules (inetPton : List Char → Option (Vector UInt8 16)) (texts : EndpointTexts) (mode : PeerMode) : List Rule :=
  (getOrangelabsOuterRules (mainEndpoints inetPton texts mode)).rules

section Ends

variable {inetPton : List Char → Option (Vector UInt8 16)} {texts : EndpointTexts} {mode : PeerMode} {sdk : OuterSdk}
variable {width : Nat} {rule : Rule} {packet : Packet}

/-- The other end gets the mirrored packet when the identifier fits. -/
theorem OuterSdk.FollowsRfc.otherEnd_receives (followsRfc : sdk.FollowsRfc) (narrow : width ≤ 16)
    (member : rule ∈ endRules inetPton texts mode) (matched : rule.Matches .up packet)
    (nonzero : packet.udp.checksum ≠ 0) (wellFormed : FrameWellFormed (packet.frame .up))
    (fits : (sdk.ruleIds.ruleId rule).toNat < 2 ^ width) (output : BitBuffer) :
    ∃ compressed, sdk.send width rule packet output = .ok compressed ∧
      ∀ comp : BitBuffer, comp.bits = compressed.bits → comp.getBitIndex = output.lastBitIndex →
        sdk.receive width (endRules inetPton texts mode.other) comp = .ok (some
          { packet.mirror with ipv6 := { packet.mirror.ipv6 with flowLabel := 0x12345, hopLimit := 64 } }) := by
  have selected : rule.withEndpoints (mainEndpoints inetPton texts mode.other) ∈ endRules inetPton texts mode.other :=
    withEndpoints_member member
  have sameFits : (sdk.ruleIds.ruleId (rule.withEndpoints (mainEndpoints inetPton texts mode.other))).toNat <
      2 ^ width := by
    rw [followsRfc.ruleId_eq] at fits ⊢
    exact fits
  obtain ⟨compressed, sent, received⟩ := followsRfc.receives narrow matched selected rfl sameFits output
  refine ⟨compressed, sent, ?_⟩
  intro comp same start
  have restored := withEndpoints_decompress matched member nonzero wellFormed
  rw [← mainEndpoints_other] at restored
  exact (received comp same start).trans (congrArg Except.ok restored)

end Ends

/-- These are the texts of the default configuration. -/
def configuredTexts : EndpointTexts where
  ipv6Prefix := "2001:db8".toList
  ipv6Iid := "::10".toList
  udpHostPort := "12345".toList
  ipv6PeerPrefix := "2001:db9".toList
  ipv6PeerIid := "::11".toList
  udpPeerPort := "5683".toList

/-- This function knows the two configured addresses. -/
def configuredPton (text : List Char) : Option (Vector UInt8 16) :=
  if text = "2001:db8::10".toList then some #v[0x20, 0x01, 0x0d, 0xb8, 0, 0, 0, 0, 0, 0, 0, 0, 0, 0, 0, 0x10]
  else if text = "2001:db9::11".toList then some #v[0x20, 0x01, 0x0d, 0xb9, 0, 0, 0, 0, 0, 0, 0, 0, 0, 0, 0, 0x11]
  else none

/-- The device sends this protected request to the peer. -/
def deviceRequest : Packet where
  ipv6 := ⟨6, 0, 0xabcde, 22, 17, 255, 0x20010db800000000, 0x10, 0x20010db900000000, 0x11⟩
  udp := ⟨12345, 5683, 22, 58253⟩
  coap := some ⟨1, 0, 2, 2, 0x4321, [0x5a, 0x01], [⟨9, [0x09, 0x07, 0x01], by decide⟩], rfl⟩
  payload := [0xff, 1, 2, 3]

theorem deviceRequest_matched :
    ((ipv6CoapOscoreRequestRule (mainEndpoints configuredPton configuredTexts .device))).Matches .up deviceRequest := by
  decide +kernel

theorem deviceRequest_wellFormed : FrameWellFormed (deviceRequest.frame .up) :=
  ⟨by decide +kernel, by decide +kernel, by decide +kernel⟩

end Outer

end SchcWork.Schc
