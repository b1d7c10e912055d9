import SchcWork.Library.HeaderCompression
import SchcWork.Library.OnesComplement

namespace SchcWork.Schc

open BitString HeaderCompression

/-- These are the field identifiers that the rules name. An option keeps its number. -/
inductive FieldId where
  | ipv6Version
  | ipv6TrafficClass
  | ipv6FlowLabel
  | ipv6PayloadLength
  | ipv6NextHeader
  | ipv6HopLimit
  | ipv6PrefixDev
  | ipv6IidDev
  | ipv6PrefixApp
  | ipv6IidApp
  | udpPortDev
  | udpPortApp
  | udpLength
  | udpChecksum
  | coapVersion
  | coapType
  | coapTokenLength
  | coapCode
  | coapMsgId
  | coapToken
  | coapOption (number : Nat)
  deriving Repr, DecidableEq

def FieldId.coapObserve : FieldId := .coapOption 6

def FieldId.coapOscore : FieldId := .coapOption 9

def FieldId.coapUriPath : FieldId := .coapOption 11

inductive Stack where
  | ipv6Udp
  | ipv6UdpCoap
  deriving Repr, DecidableEq

/-- A repeated option has the same identifier and the next position. -/
abbrev FieldKey := FieldId × Nat

/-- The addresses belong to the device and the application, so they do not depend on the direction. -/
structure Ipv6Header where
  version : BitVec 4
  trafficClass : BitVec 8
  flowLabel : BitVec 20
  payloadLength : BitVec 16
  nextHeader : BitVec 8
  hopLimit : BitVec 8
  prefixDev : BitVec 64
  iidDev : BitVec 64
  prefixApp : BitVec 64
  iidApp : BitVec 64
  deriving DecidableEq

structure UdpHeader where
  portDev : BitVec 16
  portApp : BitVec 16
  length : BitVec 16
  checksum : BitVec 16
  deriving DecidableEq

/-- An option value lies inside one datagram. -/
structure CoapOption where
  number : Nat
  value : List UInt8
  inside : value.length < 2 ^ 16
  deriving DecidableEq

/-- The token has the length that the header declares. -/
structure CoapHeader where
  version : BitVec 2
  messageType : BitVec 2
  tokenLength : BitVec 4
  code : BitVec 8
  msgId : BitVec 16
  token : List UInt8
  options : List CoapOption
  declared : token.length = tokenLength.toNat
  deriving DecidableEq

/-- The payload is everything after the last header field. -/
structure Packet where
  ipv6 : Ipv6Header
  udp : UdpHeader
  coap : Option CoapHeader
  payload : List UInt8
  deriving DecidableEq

def Ipv6Header.fields (ipv6 : Ipv6Header) : List (HeaderField FieldKey) :=
  [⟨(.ipv6Version, 1), wordBits ipv6.version⟩,
    ⟨(.ipv6TrafficClass, 1), wordBits ipv6.trafficClass⟩,
    ⟨(.ipv6FlowLabel, 1), wordBits ipv6.flowLabel⟩,
    ⟨(.ipv6PayloadLength, 1), wordBits ipv6.payloadLength⟩,
    ⟨(.ipv6NextHeader, 1), wordBits ipv6.nextHeader⟩,
    ⟨(.ipv6HopLimit, 1), wordBits ipv6.hopLimit⟩,
    ⟨(.ipv6PrefixDev, 1), wordBits ipv6.prefixDev⟩,
    ⟨(.ipv6IidDev, 1), wordBits ipv6.iidDev⟩,
    ⟨(.ipv6PrefixApp, 1), wordBits ipv6.prefixApp⟩,
    ⟨(.ipv6IidApp, 1), wordBits ipv6.iidApp⟩]

def UdpHeader.fields (udp : UdpHeader) : List (HeaderField FieldKey) :=
  [⟨(.udpPortDev, 1), wordBits udp.portDev⟩,
    ⟨(.udpPortApp, 1), wordBits udp.portApp⟩,
    ⟨(.udpLength, 1), wordBits udp.length⟩,
    ⟨(.udpChecksum, 1), wordBits udp.checksum⟩]

/-- The position counts the earlier options of the same number. -/
def optionFields (earlier : List Nat) : List CoapOption → List (HeaderField FieldKey)
  | [] => []
  | option :: rest =>
      ⟨(.coapOption option.number, earlier.count option.number + 1), bytesBits option.value⟩ ::
        optionFields (option.number :: earlier) rest

def CoapHeader.fields (coap : CoapHeader) : List (HeaderField FieldKey) :=
  [⟨(.coapVersion, 1), wordBits coap.version⟩,
    ⟨(.coapType, 1), wordBits coap.messageType⟩,
    ⟨(.coapTokenLength, 1), wordBits coap.tokenLength⟩,
    ⟨(.coapCode, 1), wordBits coap.code⟩,
    ⟨(.coapMsgId, 1), wordBits coap.msgId⟩,
    ⟨(.coapToken, 1), bytesBits coap.token⟩] ++ optionFields [] coap.options

namespace Packet

def stack (packet : Packet) : Stack := if packet.coap.isSome then .ipv6UdpCoap else .ipv6Udp

def coapFields (packet : Packet) : List (HeaderField FieldKey) := (packet.coap.map CoapHeader.fields).getD []

def fields (packet : Packet) : List (HeaderField FieldKey) :=
  packet.ipv6.fields ++ packet.udp.fields ++ packet.coapFields

end Packet

/-- Each option comes from one field. -/
def optionsOf : List (HeaderField FieldKey) → Option (List CoapOption)
  | [] => some []
  | field :: rest =>
      match field.key.1 with
      | .coapOption number =>
          if inside : (bitsBytes field.value).length < 2 ^ 16 then
            (optionsOf rest).map fun options => ⟨number, bitsBytes field.value, inside⟩ :: options
          else none
      | _ => none

def CoapHeader.ofFields : List (HeaderField FieldKey) → Option CoapHeader
  | version :: messageType :: tokenLength :: code :: msgId :: token :: rest =>
      if declared : (bitsBytes token.value).length = (bitsWord 4 tokenLength.value).toNat then
        (optionsOf rest).map fun options =>
          ⟨bitsWord 2 version.value, bitsWord 2 messageType.value, bitsWord 4 tokenLength.value,
            bitsWord 8 code.value, bitsWord 16 msgId.value, bitsBytes token.value, options, declared⟩
      else none
  | _ => none

/-- The packet of a stack is rebuilt from the field list that its parser gives. -/
def Packet.ofFields (stack : Stack) (fields : List (HeaderField FieldKey)) (payload : List UInt8) : Option Packet :=
  match fields with
  | version :: trafficClass :: flowLabel :: payloadLength :: nextHeader :: hopLimit :: prefixDev :: iidDev ::
      prefixApp :: iidApp :: portDev :: portApp :: length :: checksum :: rest =>
      let ipv6 : Ipv6Header :=
        ⟨bitsWord 4 version.value, bitsWord 8 trafficClass.value, bitsWord 20 flowLabel.value,
          bitsWord 16 payloadLength.value, bitsWord 8 nextHeader.value, bitsWord 8 hopLimit.value,
          bitsWord 64 prefixDev.value, bitsWord 64 iidDev.value, bitsWord 64 prefixApp.value,
          bitsWord 64 iidApp.value⟩
      let udp : UdpHeader :=
        ⟨bitsWord 16 portDev.value, bitsWord 16 portApp.value, bitsWord 16 length.value,
          bitsWord 16 checksum.value⟩
      match stack with
      | .ipv6Udp => some ⟨ipv6, udp, none, payload⟩
      | .ipv6UdpCoap => (CoapHeader.ofFields rest).map fun coap => ⟨ipv6, udp, some coap, payload⟩
  | _ => none

theorem optionsOf_optionFields (earlier : List Nat) (options : List CoapOption) :
    optionsOf (optionFields earlier options) = some options := by
  induction options generalizing earlier with
  | nil => rfl
  | cons option rest ih =>
      obtain ⟨number, value, inside⟩ := option
      simp only [optionFields, optionsOf, bitsBytes_bytesBits, inside, dif_pos, ih, Option.map_some]

theorem CoapHeader.ofFields_fields (coap : CoapHeader) : CoapHeader.ofFields coap.fields = some coap := by
  have declared := coap.declared
  simp only [CoapHeader.fields, List.cons_append, List.nil_append, CoapHeader.ofFields,
    bitsBytes_bytesBits, bitsWord_wordBits, declared, dif_pos, optionsOf_optionFields, Option.map_some]

/-- A packet is rebuilt from its own fields. -/
theorem Packet.ofFields_fields (packet : Packet) :
    Packet.ofFields packet.stack packet.fields packet.payload = some packet := by
  obtain ⟨ipv6, udp, coap, payload⟩ := packet
  cases coap with
  | none =>
      simp only [Packet.fields, Ipv6Header.fields, UdpHeader.fields, List.cons_append, List.nil_append,
        Packet.ofFields, Packet.stack, Option.isSome_none, bitsWord_wordBits]
      rfl
  | some coap =>
      simp only [Packet.fields, Ipv6Header.fields, UdpHeader.fields, List.cons_append, List.nil_append,
        Packet.ofFields, Packet.stack, Option.isSome_some, bitsWord_wordBits, Packet.coapFields,
        Option.map_some, Option.getD_some, CoapHeader.ofFields_fields, if_true]

/-- An option number difference or an option length has a nibble and its extension. -/
def optionNibble (value : Nat) : Bits × Bits :=
  if value < 13 then (numberBits 4 value, [])
  else if value < 269 then (numberBits 4 13, numberBits 8 (value - 13))
  else (numberBits 4 14, numberBits 16 (value - 269))

def optionBits (previous : Nat) : List CoapOption → Bits
  | [] => []
  | option :: rest =>
      let delta := optionNibble (option.number - previous)
      let size := optionNibble option.value.length
      delta.1 ++ size.1 ++ delta.2 ++ size.2 ++ bytesBits option.value ++ optionBits option.number rest

def CoapHeader.bits (coap : CoapHeader) : Bits :=
  wordBits coap.version ++ wordBits coap.messageType ++ wordBits coap.tokenLength ++ wordBits coap.code ++
    wordBits coap.msgId ++ bytesBits coap.token ++ optionBits 0 coap.options

namespace Packet

/-- The datagram carries the CoAP header and the payload. -/
def datagramData (packet : Packet) : List UInt8 :=
  bitsBytes ((packet.coap.map CoapHeader.bits).getD []) ++ packet.payload

/-- The UDP length and the IPv6 payload length both count the UDP header. -/
def datagramLength (packet : Packet) : Nat := 8 + packet.datagramData.length

/-- The checksum covers the pseudo header, the UDP header and the data. -/
def checksumBytes (packet : Packet) : List UInt8 :=
  bitsBytes (wordBits packet.ipv6.prefixDev ++ wordBits packet.ipv6.iidDev ++ wordBits packet.ipv6.prefixApp ++
    wordBits packet.ipv6.iidApp ++ numberBits 32 packet.datagramLength ++ numberBits 24 0 ++
    wordBits packet.ipv6.nextHeader ++ wordBits packet.udp.portDev ++ wordBits packet.udp.portApp ++
    numberBits 16 packet.datagramLength) ++ packet.datagramData

def datagramChecksum (packet : Packet) : Nat :=
  OnesComplement.complement 65535 (OnesComplement.bigEndianWords packet.checksumBytes).sum

/-- These are the values of a length and a checksum on the wire. -/
def wireField (packet : Packet) : FieldId → BitVec 16
  | .ipv6PayloadLength | .udpLength => BitVec.ofNat 16 packet.datagramLength
  | .udpChecksum => BitVec.ofNat 16 packet.datagramChecksum
  | _ => 0

/-- The lengths and the checksum depend only on the fields that remain here. -/
def content (packet : Packet) : Packet :=
  { packet with
    ipv6 := { packet.ipv6 with flowLabel := 0, payloadLength := 0, hopLimit := 0 }
    udp := { packet.udp with length := 0, checksum := 0 } }

theorem wireField_content (packet : Packet) (id : FieldId) :
    packet.content.wireField id = packet.wireField id := rfl

end Packet

end SchcWork.Schc
