import SchcWork.Library.TextInput
import SchcWork.Schc.ExtensionApi
import SchcWork.Schc.Packet

namespace SchcWork.Schc.Outer

open BitString HeaderCompression

/-- The arrays hold both endpoints in network order, and the extension API sets them. -/
structure EndpointSettings where
  hostIpv6Addr : Vector UInt8 16
  hostUdpPort : Vector UInt8 2
  remoteIpv6Addr : Vector UInt8 16
  remoteUdpPort : Vector UInt8 2
  deriving Repr, DecidableEq

/-- A text that is no address leaves the array alone. -/
def netSetHostStaticIp (inetPton : List Char → Option (Vector UInt8 16)) (settings : EndpointSettings)
    (ipv6Address : List Char) : EndpointSettings :=
  { settings with hostIpv6Addr := (inetPton ipv6Address).getD settings.hostIpv6Addr }

def netSetRemoteStaticIp (inetPton : List Char → Option (Vector UInt8 16)) (settings : EndpointSettings)
    (ipv6Address : List Char) : EndpointSettings :=
  { settings with remoteIpv6Addr := (inetPton ipv6Address).getD settings.remoteIpv6Addr }

/-- Both port setters store the quotient and the remainder as bytes. -/
def portBytes (port : Int) : Vector UInt8 2 := #v[UInt8.ofInt (port.tdiv 256), UInt8.ofInt (port.tmod 256)]

def netSetHostStaticPort (settings : EndpointSettings) (udpPort : List Char) : EndpointSettings :=
  { settings with hostUdpPort := portBytes (TextInput.atoi udpPort) }

def netSetRemoteStaticPort (settings : EndpointSettings) (udpPort : List Char) : EndpointSettings :=
  { settings with remoteUdpPort := portBytes (TextInput.atoi udpPort) }

/-- A target value has its bytes, a bit offset and a bit length. -/
structure TargetValue where
  bytes : List UInt8
  offset : Nat
  length : Nat
  deriving Repr, DecidableEq

def TargetValue.bits (value : TargetValue) : Bits := ((bytesBits value.bytes).drop value.offset).take value.length

structure RuleField where
  fieldId : FieldId
  position : Nat
  direction : Direction
  targetValue : Option TargetValue
  fieldLength : Nat
  matching : Matching
  action : Action
  deriving Repr, DecidableEq

/-- The field length zero is a variable number of bytes. -/
def RuleField.description (field : RuleField) : Description FieldKey where
  key := (field.fieldId, field.position)
  direction := field.direction
  target := field.targetValue.map TargetValue.bits
  length := if field.fieldLength = 0 then .variableLength 8 else .fixed field.fieldLength
  matching := field.matching
  action := field.action

/-- The capacity is the size of the field array that the rule receives. -/
structure Rule where
  ruleId : UInt8
  stack : Stack
  capacity : Nat
  fields : List RuleField
  deriving Repr, DecidableEq

structure Rules where
  capacity : Nat
  rules : List Rule
  defaultRuleId : UInt8
  deriving Repr, DecidableEq

def initRule (ruleId : UInt8) (stack : Stack) (capacity : Nat) : Rule := ⟨ruleId, stack, capacity, []⟩

def addRuleFields (fields : List RuleField) (rule : Rule) : Rule := { rule with fields := rule.fields ++ fields }

def noCompRuleId : UInt8 := 150

def coapOscoreRequestRuleId : UInt8 := 56

def coapOscoreResponseRuleId : UInt8 := 57

def coapOscoreObserveRequestRuleId : UInt8 := 58

def coapOscoreObserveResponseRuleId : UInt8 := 59

def coapOscoreObserveNotifRuleId : UInt8 := 60

def ipUdpRuleId : UInt8 := 61

def edhocCoapRequestRuleId : UInt8 := 69

def edhocCoapResponseRuleId : UInt8 := 70

/-- Only the high bits of the last byte are used. -/
def ipv6FlowLabelTv : TargetValue := ⟨[0x12, 0x34, 0x50], 0, 20⟩

def ipv6HopLimitTv : TargetValue := ⟨[64], 0, 8⟩

/-- These are the fields of `add_ip_fields`. -/
def ipFields (settings : EndpointSettings) : List RuleField :=
  [⟨.ipv6Version, 1, .both, some ⟨[0x60], 0, 4⟩, 4, .equal, .notSent⟩,
    ⟨.ipv6TrafficClass, 1, .both, some ⟨[0], 0, 8⟩, 8, .equal, .notSent⟩,
    ⟨.ipv6FlowLabel, 1, .both, some ipv6FlowLabelTv, 20, .ignore, .notSent⟩,
    ⟨.ipv6PayloadLength, 1, .both, none, 16, .ignore, .computeLength⟩,
    ⟨.ipv6NextHeader, 1, .both, some ⟨[17], 0, 8⟩, 8, .equal, .notSent⟩,
    ⟨.ipv6HopLimit, 1, .both, some ipv6HopLimitTv, 8, .ignore, .notSent⟩,
    ⟨.ipv6PrefixDev, 1, .both, some ⟨settings.hostIpv6Addr.toList, 0, 64⟩, 64, .equal, .notSent⟩,
    ⟨.ipv6IidDev, 1, .both, some ⟨settings.hostIpv6Addr.toList.drop 8, 0, 64⟩, 64, .equal, .notSent⟩,
    ⟨.ipv6PrefixApp, 1, .both, some ⟨settings.remoteIpv6Addr.toList, 0, 64⟩, 64, .equal, .notSent⟩,
    ⟨.ipv6IidApp, 1, .both, some ⟨settings.remoteIpv6Addr.toList.drop 8, 0, 64⟩, 64, .equal, .notSent⟩]

/-- These are the fields of `add_udp_fields`. -/
def udpFields (settings : EndpointSettings) : List RuleField :=
  [⟨.udpPortDev, 1, .both, some ⟨settings.hostUdpPort.toList, 0, 16⟩, 16, .equal, .notSent⟩,
    ⟨.udpPortApp, 1, .both, some ⟨settings.remoteUdpPort.toList, 0, 16⟩, 16, .equal, .notSent⟩,
    ⟨.udpLength, 1, .both, none, 16, .ignore, .computeLength⟩,
    ⟨.udpChecksum, 1, .both, none, 16, .ignore, .computeChecksum⟩]

def addIpFields (settings : EndpointSettings) : Rule → Rule := addRuleFields (ipFields settings)

def addUdpFields (settings : EndpointSettings) : Rule → Rule := addRuleFields (udpFields settings)

/-- The array has the text without its final zero. -/
def uriPath : List UInt8 := ".well-known/edhoc".toUTF8.toList

def ruleFieldEdhocUri : RuleField :=
  ⟨.coapUriPath, 1, .both, some ⟨uriPath, 0, uriPath.length * 8⟩, 0, .equal, .notSent⟩

def ruleField14 : RuleField := ⟨.coapVersion, 1, .both, some ⟨[0x01], 6, 2⟩, 2, .equal, .notSent⟩

/-- The three message types share one field definition. -/
def ruleField15 (coapType : UInt8) : RuleField :=
  ⟨.coapType, 1, .both, some ⟨[coapType], 6, 2⟩, 2, .equal, .notSent⟩

def ruleField15Con : RuleField := ruleField15 0b00

def ruleField15NonCon : RuleField := ruleField15 0b01

def ruleField15Ack : RuleField := ruleField15 0b10

def ruleField16 : RuleField := ⟨.coapTokenLength, 1, .both, some ⟨[2], 4, 4⟩, 4, .equal, .notSent⟩

/-- The four codes share one field definition. -/
def ruleField17 (coapCode : UInt8) : RuleField :=
  ⟨.coapCode, 1, .both, some ⟨[coapCode], 0, 8⟩, 8, .equal, .notSent⟩

def ruleField17Post : RuleField := ruleField17 2

def ruleField17Fetch : RuleField := ruleField17 5

def ruleField17Changed : RuleField := ruleField17 68

def ruleField17Content : RuleField := ruleField17 69

def ruleField18 : RuleField := ⟨.coapMsgId, 1, .both, none, 16, .ignore, .valueSent⟩

def ruleField19 : RuleField := ⟨.coapToken, 1, .both, none, 16, .ignore, .valueSent⟩

/-- The byte exists, but no bit of it is used. -/
def emptyOptionTv : TargetValue := ⟨[0x00], 0, 0⟩

def ruleField20Observe : RuleField := ⟨.coapObserve, 1, .both, some emptyOptionTv, 0, .equal, .notSent⟩

def ruleField20ObserveNotif : RuleField := ⟨.coapObserve, 1, .both, none, 0, .ignore, .valueSent⟩

def ruleField21Request : RuleField := ⟨.coapOscore, 1, .both, some ⟨[0x09], 0, 8⟩, 0, .msb 8, .lsb⟩

def ruleField21Response : RuleField := ⟨.coapOscore, 1, .both, some emptyOptionTv, 0, .equal, .notSent⟩

def ruleField21ObserveNotif : RuleField := ⟨.coapOscore, 1, .both, none, 0, .ignore, .valueSent⟩

/-- Each rule starts with the IPv6 fields and the UDP fields. -/
def outerRule (settings : EndpointSettings) (ruleId : UInt8) (stack : Stack) (capacity : Nat)
    (coapFields : List RuleField) : Rule :=
  addRuleFields coapFields (addUdpFields settings (addIpFields settings (initRule ruleId stack capacity)))

def ipv6CoapOscoreRequestRule (settings : EndpointSettings) : Rule :=
  outerRule settings coapOscoreRequestRuleId .ipv6UdpCoap 21
    [ruleField14, ruleField15Con, ruleField16, ruleField17Post, ruleField18, ruleField19, ruleField21Request]

def ipv6CoapOscoreResponseRule (settings : EndpointSettings) : Rule :=
  outerRule settings coapOscoreResponseRuleId .ipv6UdpCoap 21
    [ruleField14, ruleField15Ack, ruleField16, ruleField17Changed, ruleField18, ruleField19,
      ruleField21Response]

def ipv6CoapOscoreObserveRequestRule (settings : EndpointSettings) : Rule :=
  outerRule settings coapOscoreObserveRequestRuleId .ipv6UdpCoap 22
    [ruleField14, ruleField15Con, ruleField16, ruleField17Fetch, ruleField18, ruleField19,
      ruleField20Observe, ruleField21Request]

def ipv6CoapOscoreObserveResponseRule (settings : EndpointSettings) : Rule :=
  outerRule settings coapOscoreObserveResponseRuleId .ipv6UdpCoap 22
    [ruleField14, ruleField15Ack, ruleField16, ruleField17Content, ruleField18, ruleField19,
      ruleField20Observe, ruleField21Response]

def ipv6CoapOscoreObserveNotifRule (settings : EndpointSettings) : Rule :=
  outerRule settings coapOscoreObserveNotifRuleId .ipv6UdpCoap 22
    [ruleField14, ruleField15NonCon, ruleField16, ruleField17Content, ruleField18, ruleField19,
      ruleField20ObserveNotif, ruleField21ObserveNotif]

def ipv6CoapEdhocRequestRule (settings : EndpointSettings) : Rule :=
  outerRule settings edhocCoapRequestRuleId .ipv6UdpCoap 21
    [ruleField14, ruleField15Con, ruleField16, ruleField17Post, ruleField18, ruleField19, ruleFieldEdhocUri]

def ipv6CoapEdhocResponseRule (settings : EndpointSettings) : Rule :=
  outerRule settings edhocCoapResponseRuleId .ipv6UdpCoap 21
    [ruleField14, ruleField15Ack, ruleField16, ruleField17Changed, ruleField18, ruleField19]

def ipv6UdpRule (settings : EndpointSettings) : Rule := outerRule settings ipUdpRuleId .ipv6Udp 15 []

def getOrangelabsOuterRules (settings : EndpointSettings) : Rules where
  capacity := 8
  rules :=
    [ipv6CoapOscoreRequestRule settings, ipv6CoapOscoreResponseRule settings,
      ipv6CoapOscoreObserveRequestRule settings, ipv6CoapOscoreObserveResponseRule settings,
      ipv6CoapOscoreObserveNotifRule settings, ipv6CoapEdhocRequestRule settings,
      ipv6CoapEdhocResponseRule settings, ipv6UdpRule settings]
  defaultRuleId := noCompRuleId

/-- An option field has whole bytes, and the receiver knows its target or reads its value. -/
def RuleField.isOption (field : RuleField) : Bool :=
  field.fieldLength == 0 && field.matching.known % 8 == 0 &&
    (field.action != .notSent || field.targetValue.isSome) && field.description.lossless

/-- The CoAP fields are absent, or the options follow six header fields. -/
def CoapPart (coapFields : List RuleField) : Prop :=
  coapFields = [] ∨ ∃ coapType coapCode options,
    coapFields = ruleField14 :: ruleField15 coapType :: ruleField16 :: ruleField17 coapCode :: ruleField18 ::
      ruleField19 :: options ∧ options.all RuleField.isOption = true

/-- Every outer rule has the same shape, and its fields fit their array. -/
theorem outerRule_of_member {settings : EndpointSettings} {rule : Rule}
    (member : rule ∈ (getOrangelabsOuterRules settings).rules) :
    ∃ ruleId stack capacity coapFields, rule = outerRule settings ruleId stack capacity coapFields ∧
      14 + coapFields.length ≤ capacity ∧ CoapPart coapFields := by
  simp only [getOrangelabsOuterRules, List.mem_cons, List.not_mem_nil, or_false] at member
  rcases member with rfl | rfl | rfl | rfl | rfl | rfl | rfl | rfl
  -- Only the last rule has no CoAP fields.
  any_goals exact ⟨_, _, _, _, rfl, by decide, .inr ⟨_, _, _, rfl, by decide⟩⟩
  exact ⟨_, _, _, _, rfl, by decide, .inl rfl⟩

theorem outerRule_fields (settings : EndpointSettings) (ruleId : UInt8) (stack : Stack) (capacity : Nat)
    (coapFields : List RuleField) :
    (outerRule settings ruleId stack capacity coapFields).fields =
      ipFields settings ++ udpFields settings ++ coapFields := rfl

/-- The default identifier belongs to no rule. -/
def Rules.lookup (rules : Rules) (ruleId : UInt8) : Option Rule :=
  if ruleId = rules.defaultRuleId then none else rules.rules.find? fun rule => rule.ruleId == ruleId

/-- No two outer rules share an identifier, so the transmitted identifier selects its own rule. -/
theorem outerRules_lookup {settings : EndpointSettings} {rule : Rule}
    (member : rule ∈ (getOrangelabsOuterRules settings).rules) :
    (getOrangelabsOuterRules settings).lookup rule.ruleId = some rule := by
  simp only [getOrangelabsOuterRules, List.mem_cons, List.not_mem_nil, or_false] at member
  rcases member with rfl | rfl | rfl | rfl | rfl | rfl | rfl | rfl <;> rfl

end SchcWork.Schc.Outer
