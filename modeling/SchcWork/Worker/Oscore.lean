import SchcWork.Library.Memory

namespace SchcWork.Worker

/-- These are the results of uoscore that the worker tells apart. -/
inductive Err where
  | ok
  | bufferToSmall
  | notOscorePkt
  | firstRequestAfterReboot
  | oscoreSsnOverflow
  | other (code : Nat)
  deriving Repr, DecidableEq

inductive CoapOscoreRes where
  | coSuccess
  | coBufferError
  | coCoapError
  | coOscoreError
  | coEchoError
  | coNotOscore
  | coMaxSessionReached
  | coUnknownSession
  deriving Repr, DecidableEq

def uoscoreErrToRes : Err → CoapOscoreRes
  | .ok => .coSuccess
  | .bufferToSmall => .coBufferError
  | .notOscorePkt => .coNotOscore
  | .firstRequestAfterReboot => .coEchoError
  | _ => .coOscoreError

inductive AeadAlgorithm where
  | oscoreAesCcm16_64_128
  | oscoreAsconaead128
  | oscoreAsconaead128_64
  | oscoreAsconaead128_32
  deriving Repr, DecidableEq

inductive Hkdf where
  | oscoreSha256
  | oscoreAscon256
  deriving Repr, DecidableEq

structure OscoreInitParams where
  masterSecret : List UInt8
  senderId : List UInt8
  recipientId : List UInt8
  idContext : List UInt8
  masterSalt : List UInt8
  aeadAlg : AeadAlgorithm
  hkdf : Hkdf
  freshMasterSecretSalt : Bool
  deriving Repr, DecidableEq

/-- These are the two functions that the worker passes for the OSCORE plaintext. -/
inductive PlaintextCb where
  | oscoreMsgInnerCompression
  | oscoreMsgInnerDecompression
  deriving Repr, DecidableEq

/-- A conversion writes at most the capacity of its output buffer. -/
structure Conversion (capacity : Nat) where
  err : Err
  out : List UInt8
  fits : out.length ≤ capacity

/-- A conversion function reads its input slice and the security context. -/
abbrev ConversionFunction (Context : Type) :=
  Context → Option PlaintextCb → List UInt8 → (capacity : Nat) → Conversion capacity × Context

/-- These are the functions of uoscore that the worker calls. The library itself is a parameter. -/
structure Uoscore (Context : Type) where
  oscoreContextInit : OscoreInitParams → Err × Context
  coap2oscore : ConversionFunction Context
  oscore2coap : ConversionFunction Context

/-- These are the static variables of the uoscore integration. -/
structure Integration (Context : Type) where
  oscCtx : Context
  oscoreInnerSchcEnabled : Bool

/-- A call record holds the slice that the library read and the bytes that it wrote. -/
structure CallRecord where
  slice : ByteSpan
  input : List UInt8
  err : Err
  out : List UInt8
  deriving Repr, DecidableEq

/-- This is the state after one conversion call. -/
structure Converted (Context : Type) where
  res : CoapOscoreRes
  memory : ByteMemory
  oscCtx : Context
  call : CallRecord

variable {Context : Type}

/-- A wrapper returns success without the error map when the library succeeds. -/
def wrapperRes (r : Err) : CoapOscoreRes := if r ≠ .ok then uoscoreErrToRes r else .coSuccess

/-- Both wrappers narrow the packet size to 16 bits and map every failure to a result. -/
def convert (function : ConversionFunction Context) (callback : PlaintextCb) (integration : Integration Context)
    (memory : ByteMemory) (packet packetSize out outSize : Nat) : Converted Context :=
  let innerCb := if integration.oscoreInnerSchcEnabled then some callback else none
  let slice : ByteSpan := ⟨packet, packetSize % 2 ^ 16⟩
  let input := slice.read memory
  let (conversion, oscCtx) := function integration.oscCtx innerCb input outSize
  { res := wrapperRes conversion.err
    memory := memory.store out conversion.out
    oscCtx := oscCtx
    call := ⟨slice, input, conversion.err, conversion.out⟩ }

def coapToOscore (library : Uoscore Context) (integration : Integration Context) (memory : ByteMemory)
    (coapPacket coapPacketSize out outSize : Nat) : Converted Context :=
  convert library.coap2oscore .oscoreMsgInnerCompression integration memory coapPacket coapPacketSize out outSize

def oscoreToCoap (library : Uoscore Context) (integration : Integration Context) (memory : ByteMemory)
    (oscorePacket oscorePacketSize out outSize : Nat) : Converted Context :=
  convert library.oscore2coap .oscoreMsgInnerDecompression integration memory oscorePacket oscorePacketSize out outSize

/-- The worker takes a result for success exactly when the library returns `ok`. -/
theorem uoscoreErrToRes_success (err : Err) : uoscoreErrToRes err = .coSuccess ↔ err = .ok := by
  cases err <;> simp [uoscoreErrToRes]

theorem uoscoreErrToRes_notOscore (err : Err) : uoscoreErrToRes err = .coNotOscore ↔ err = .notOscorePkt := by
  cases err <;> simp [uoscoreErrToRes]

theorem wrapperRes_eq (r : Err) : wrapperRes r = uoscoreErrToRes r := by
  unfold wrapperRes
  split
  · rfl
  · rename_i success
    exact ((uoscoreErrToRes_success r).mpr (not_not.mp success)).symm

section Convert

variable (function : ConversionFunction Context) (callback : PlaintextCb) (integration : Integration Context)
variable (memory : ByteMemory) (packet packetSize out outSize : Nat)

theorem convert_res :
    (convert function callback integration memory packet packetSize out outSize).res =
      uoscoreErrToRes (convert function callback integration memory packet packetSize out outSize).call.err :=
  wrapperRes_eq _

theorem convert_fits :
    (convert function callback integration memory packet packetSize out outSize).call.out.length ≤ outSize :=
  Conversion.fits _

/-- The call depends on the memory only through its input slice. -/
theorem convert_congr {first second : ByteMemory}
    (same : first.slice packet (packetSize % 2 ^ 16) = second.slice packet (packetSize % 2 ^ 16)) :
    (convert function callback integration first packet packetSize out outSize).call =
        (convert function callback integration second packet packetSize out outSize).call ∧
      (convert function callback integration first packet packetSize out outSize).oscCtx =
        (convert function callback integration second packet packetSize out outSize).oscCtx := by
  simp only [convert, ByteSpan.read, same, and_self]

end Convert

/-- The worker plays one of two roles, and the peer mode swaps the identifiers. -/
inductive PeerMode where
  | device
  | peer
  deriving Repr, DecidableEq

def PeerMode.other : PeerMode → PeerMode
  | .device => .peer
  | .peer => .device

theorem PeerMode.other_other (mode : PeerMode) : mode.other.other = mode := by
  cases mode with
  | device => rfl
  | peer => rfl

theorem PeerMode.other_ne (mode : PeerMode) : mode ≠ mode.other := by
  cases mode with
  | device => exact nofun
  | peer => exact nofun

def senderId : PeerMode → List UInt8
  | .device => []
  | .peer => [0x01]

def recipientId : PeerMode → List UInt8
  | .device => [0x01]
  | .peer => []

def idContext : List UInt8 := []

def asciiBytes (text : String) : List UInt8 := text.toList.map fun c => UInt8.ofNat c.toNat

def oscoreMasterSecret : List UInt8 := asciiBytes "0102030405060708090a0b0c0d0e0f10"
def oscoreMasterSecretLen : Nat := 16
def oscoreMasterSalt : List UInt8 := asciiBytes "9e7ca92223786340"
def oscoreMasterSaltLen : Nat := 16

/-- The last parameter tells uoscore that the secret and the salt are fresh. -/
def paramsSender (mode : PeerMode) (secret salt : List UInt8) : OscoreInitParams where
  masterSecret := secret
  senderId := senderId mode
  recipientId := recipientId mode
  idContext := idContext
  masterSalt := salt
  aeadAlg := .oscoreAsconaead128_32
  hkdf := .oscoreAscon256
  freshMasterSecretSalt := true

/-- The function reports success and stores the context that the library made. -/
def oscoreSecurityContextInit (library : Uoscore Context) (mode : PeerMode) (secret salt : List UInt8) :
    Bool × Context :=
  let (r, oscCtx) := library.oscoreContextInit (paramsSender mode secret salt)
  if r ≠ .ok then (false, oscCtx) else (true, oscCtx)

/-- The function stores the context of the library, and it succeeds when the library does. -/
theorem oscoreSecurityContextInit_spec (library : Uoscore Context) (mode : PeerMode) (secret salt : List UInt8) :
    (oscoreSecurityContextInit library mode secret salt).2 =
        (library.oscoreContextInit (paramsSender mode secret salt)).2 ∧
      ((oscoreSecurityContextInit library mode secret salt).1 = true ↔
        (library.oscoreContextInit (paramsSender mode secret salt)).1 = .ok) := by
  unfold oscoreSecurityContextInit
  dsimp only
  split
  · rename_i failed
    simpa using failed
  · rename_i success
    simpa using success

/-- The adaptation layer passes the prefixes of the two compiled-in strings. -/
def compiledParams (mode : PeerMode) : OscoreInitParams :=
  paramsSender mode (oscoreMasterSecret.take oscoreMasterSecretLen) (oscoreMasterSalt.take oscoreMasterSaltLen)

end SchcWork.Worker
