import SchcWork.Library.EventFlags
import SchcWork.Net.Checksum
import SchcWork.Platform.WatchTable
import SchcWork.Worker.Oscore

namespace SchcWork.Worker

open Net Platform

/-- These are the compile-time switches of the adaptation layer. -/
structure Build where
  oscoreProxyEnabled : Bool
  dropNonCoap : Bool
  oscoreDropOnError : Bool
  deriving Repr, DecidableEq

def ipv6MaxPacketSize : Nat := 256

/-- These are the bit positions of the event flags. -/
def connectivityAvailableEvent : Nat := 0
def ipPacketAvailable : Nat := 1
def ongoingTransmission : Nat := 2

inductive SchcAlProcessStatus where
  | sendDownOk
  | sendDownBusy
  | sendDownOscoreError
  | sendDownInternalError
  deriving Repr, DecidableEq

inductive NetStatus where
  | success
  | rulesNotFoundErr
  | other (code : Nat)
  deriving Repr, DecidableEq

/-- These are the reasons that the layer logs when it discards a packet. -/
inductive DiscardReason where
  | nonIpv6Udp
  | nonCoap
  | oscoreEncryptionFailed
  deriving Repr, DecidableEq

/-- These are the static variables of the adaptation layer with those of the uoscore integration. -/
structure SchcAl (Context : Type) where
  processingRequired : Bool
  event : EventWord
  tunFd : Int
  netBuffer : ByteMemory
  oscore : Integration Context

variable {Context : Type}

inductive Errno where
  | eintr
  | eagain
  | ewouldblock
  | other (code : Nat)
  deriving Repr, DecidableEq

/-- The read loop ends with a packet or with an error other than an interruption. -/
inductive ReadResult where
  | packet (bytes : List UInt8)
  | failed (errno : Errno)

/-- The calls of the read loop first report the given errors. A further call takes the oldest packet,
and it blocks when the queue is empty. -/
def readTun (tun : List (List UInt8)) : List Errno → Option (ReadResult × List (List UInt8))
  | .eintr :: errors => readTun tun errors
  | errno :: _ => some (.failed errno, tun)
  | [] =>
      match tun with
      | [] => none
      | packet :: rest => some (.packet packet, rest)

def schcAlTunReceivedHandler (state : SchcAl Context) : SchcAl Context :=
  { state with event := state.event.raise ipPacketAvailable, processingRequired := true }

def netTransmissionResult (state : SchcAl Context) (_status : NetStatus) (_error : Nat) : SchcAl Context :=
  { state with event := state.event.lower ongoingTransmission }

/-- The layer either discards a packet or submits a prefix of the network buffer. -/
inductive Decision where
  | discard (reason : DiscardReason)
  | submit (pktLen : Nat)
  deriving Repr, DecidableEq

/-- This is the outcome of the steps between the read and the SDK call. -/
structure Prepared (Context : Type) where
  netBuffer : ByteMemory
  oscCtx : Context
  call : Option CallRecord
  decision : Decision

/-- These are the steps of `schcAlSendDown` between the read and the SDK call. -/
def prepareDown (library : Uoscore Context) (build : Build) (integration : Integration Context)
    (netBuffer : ByteMemory) (pktLen : Nat) : Prepared Context :=
  let unconverted := Prepared.mk netBuffer integration.oscCtx none
  if ¬isIpv6UdpPacket netBuffer pktLen then unconverted (.discard .nonIpv6Udp)
  else
    let coapPacket := ipv6HeadersBytes + udpHeadersBytes
    let coapPacketLen := ipv6UdpPayloadLen netBuffer
    if ¬isCoapPacket netBuffer coapPacket coapPacketLen then
      if build.dropNonCoap then unconverted (.discard .nonCoap) else unconverted (.submit pktLen)
    else if build.oscoreProxyEnabled then
      let capacity := ipv6MaxPacketSize - ipv6HeadersBytes - udpHeadersBytes
      let converted := coapToOscore library integration netBuffer coapPacket coapPacketLen coapPacket capacity
      if converted.res ≠ .coSuccess ∧ build.oscoreDropOnError then
        ⟨converted.memory, converted.oscCtx, some converted.call, .discard .oscoreEncryptionFailed⟩
      else
        let oscoreLen := if converted.res ≠ .coSuccess then coapPacketLen else converted.call.out.length
        ⟨updateUdpChecksum (updateIp6UdpLen converted.memory oscoreLen), converted.oscCtx, some converted.call,
          .submit (ipv6HeadersBytes + udpHeadersBytes + oscoreLen)⟩
    else unconverted (.submit pktLen)

/-- The SDK returns a status, and it may report a transmission result before it returns. -/
structure NetSendtoReply where
  status : NetStatus
  reported : Option (NetStatus × Nat)
  deriving Repr, DecidableEq

/-- This record holds the effects of one call of `schcAlSendDown`. -/
structure SendDown (Context : Type) where
  status : SchcAlProcessStatus
  state : SchcAl Context
  tun : List (List UInt8)
  taken : Option (List UInt8)
  call : Option CallRecord
  discarded : Option DiscardReason
  frame : Option (List UInt8)

def DiscardReason.status : DiscardReason → SchcAlProcessStatus
  | .oscoreEncryptionFailed => .sendDownOscoreError
  | _ => .sendDownOk

/-- The busy flag is set before the SDK call and cleared again when the SDK rejects the frame. -/
def callNetSendto (state : SchcAl Context) (reply : NetSendtoReply) : SchcAlProcessStatus × SchcAl Context :=
  let state := { state with event := state.event.raise ongoingTransmission }
  let state := match reply.reported with
    | some (status, error) => netTransmissionResult state status error
    | none => state
  if reply.status ≠ .success then
    (.sendDownInternalError, { state with event := state.event.lower ongoingTransmission })
  else (.sendDownOk, state)

/-- These are the steps of `schcAlSendDown` after a read that returned a packet. -/
def handlePacket (library : Uoscore Context) (build : Build) (state : SchcAl Context) (packet : List UInt8)
    (rest : List (List UInt8)) (reply : NetSendtoReply) : SendDown Context :=
  let bytes := packet.take ipv6MaxPacketSize
  let prepared := prepareDown library build state.oscore (state.netBuffer.store 0 bytes) bytes.length
  let state := { state with
    netBuffer := prepared.netBuffer
    oscore := { state.oscore with oscCtx := prepared.oscCtx } }
  match prepared.decision with
  | .discard reason => ⟨reason.status, state, rest, some packet, prepared.call, some reason, none⟩
  | .submit pktLen =>
      let (status, state) := callNetSendto state reply
      ⟨status, state, rest, some packet, prepared.call, none, some (prepared.netBuffer.slice 0 pktLen)⟩

/-- A result of `none` means that the read blocks. -/
def schcAlSendDown (library : Uoscore Context) (build : Build) (state : SchcAl Context) (tun : List (List UInt8))
    (errors : List Errno) (reply : NetSendtoReply) : Option (SendDown Context) :=
  let idle (status : SchcAlProcessStatus) : SendDown Context := ⟨status, state, tun, none, none, none, none⟩
  if state.tunFd < 0 then some (idle .sendDownInternalError)
  else if state.event.has ongoingTransmission then some (idle .sendDownBusy)
  else
    match readTun tun errors with
    | none => none
    | some (.failed errno, _) =>
        if errno ≠ .eagain ∧ errno ≠ .ewouldblock then some (idle .sendDownInternalError)
        else some (idle .sendDownOk)
    | some (.packet packet, rest) => some (handlePacket library build state packet rest reply)

def schcAlProcess (library : Uoscore Context) (build : Build) (state : SchcAl Context) (tun : List (List UInt8))
    (errors : List Errno) (reply : NetSendtoReply) : Option (SendDown Context) :=
  if state.event.has ipPacketAvailable then
    let state := { state with event := state.event.lower ipPacketAvailable, processingRequired := false }
    schcAlSendDown library build state tun errors reply
  else some ⟨.sendDownOk, state, tun, none, none, none, none⟩

/-- This record holds the effects of one call of `schcAlForwardUp` and the bytes that it looked at. -/
structure ForwardUp (Context : Type) where
  result : Int
  state : SchcAl Context
  buffer : ByteMemory
  touched : List ByteSpan
  call : Option CallRecord
  written : Option (List UInt8)

/-- The last step writes a prefix of the buffer to the TUN. -/
def writeTun (state : SchcAl Context) (buffer : ByteMemory) (dataSize : Nat) (writeFails : Bool)
    (touched : List ByteSpan) (call : Option CallRecord) : ForwardUp Context :=
  ⟨if writeFails then -1 else 0, state, buffer, touched ++ [⟨0, dataSize⟩], call, some (buffer.slice 0 dataSize)⟩

def schcAlForwardUp (library : Uoscore Context) (build : Build) (state : SchcAl Context) (buffer : ByteMemory)
    (dataSize : Nat) (writeFails : Bool) : ForwardUp Context :=
  if state.tunFd < 0 ∨ dataSize = 0 then ⟨-1, state, buffer, [], none, none⟩
  else
    let touched := isIpv6UdpPacketReads buffer dataSize
    if ¬isIpv6UdpPacket buffer dataSize then ⟨0, state, buffer, touched, none, none⟩
    else
      let coapPacket := ipv6HeadersBytes + udpHeadersBytes
      let coapPacketLen := ipv6UdpPayloadLen buffer
      -- The source passes the size of the whole packet to the CoAP test.
      let touched := touched ++ ⟨uhUlenOffset, 2⟩ :: isCoapPacketReads coapPacket dataSize
      if isCoapPacket buffer coapPacket dataSize then
        if build.oscoreProxyEnabled then
          let converted :=
            oscoreToCoap library state.oscore buffer coapPacket coapPacketLen coapPacket coapPacketLen
          let state := { state with oscore := { state.oscore with oscCtx := converted.oscCtx } }
          let touched := touched ++ [converted.call.slice, ⟨coapPacket, converted.call.out.length⟩]
          match converted.res with
          | .coSuccess =>
              let coapPacketLen := converted.call.out.length
              let resized := updateIp6UdpLen converted.memory coapPacketLen
              let touched := touched ++ updateIp6UdpLenTouches ++ updateUdpChecksumTouches resized
              writeTun state (updateUdpChecksum resized)
                ((ipv6HeadersBytes + udpHeadersBytes + coapPacketLen) % 2 ^ 16) writeFails touched
                (some converted.call)
          | .coNotOscore => writeTun state converted.memory dataSize writeFails touched (some converted.call)
          | _ => ⟨-1, state, converted.memory, touched, some converted.call, none⟩
        else writeTun state buffer dataSize writeFails touched none
      else if build.dropNonCoap then ⟨0, state, buffer, touched, none, none⟩
      else writeTun state buffer dataSize writeFails touched none

/-- A delivery without success leaves everything as it is. -/
def netDataReceived (library : Uoscore Context) (build : Build) (state : SchcAl Context) (buffer : ByteMemory)
    (dataSize : Nat) (status : NetStatus) (writeFails : Bool) : Option (ForwardUp Context) :=
  match status with
  | .success => some (schcAlForwardUp library build state buffer dataSize writeFails)
  | _ => none

/-- The watch table holds the handler of the TUN and the callbacks of the L2 layer. -/
inductive Callback where
  | schcAlTunReceivedHandler
  | l2 (index : Nat)
  deriving Repr, DecidableEq

/-- This is the part of the process outside the adaptation layer that its start and its end change. -/
structure Host where
  watched : WatchTable Callback
  openTuns : List Int

/-- These are the outcomes of the calls that open and configure the TUN. -/
structure TunSetup where
  createTun : Int
  deviceUp : Bool
  addressAdded : Bool
  routeReplaced : Bool
  deriving Repr, DecidableEq

/-- A failed step after `createTun` closes the descriptor. -/
def closeTun (state : SchcAl Context) (host : Host) : Int × SchcAl Context × Host :=
  (-1, { state with tunFd := -1 }, { host with openTuns := host.openTuns.erase state.tunFd })

/-- These are the steps of `schcAlInit` after the security context. -/
def openTun (state : SchcAl Context) (host : Host) (setup : TunSetup) : Int × SchcAl Context × Host :=
  if 0 ≤ state.tunFd then (0, state, host)
  else
    let state := { state with tunFd := setup.createTun }
    if state.tunFd < 0 then (-1, state, host)
    else
      let host := { host with openTuns := setup.createTun :: host.openTuns }
      if ¬setup.deviceUp then closeTun state host
      else if ¬setup.addressAdded then closeTun state host
      else if ¬setup.routeReplaced then closeTun state host
      else
        let (watched, table) := watchFdForInput host.watched state.tunFd Callback.schcAlTunReceivedHandler
        if ¬watched then closeTun state host
        else
          (0, { state with event := state.event.raise connectivityAvailableEvent, processingRequired := true },
            { host with watched := table })

def schcAlInit (library : Uoscore Context) (build : Build) (mode : PeerMode) (state : SchcAl Context) (host : Host)
    (setup : TunSetup) : Int × SchcAl Context × Host :=
  let state := { state with event := EventWord.none, processingRequired := false }
  if build.oscoreProxyEnabled then
    let (success, oscCtx) := oscoreSecurityContextInit library mode (oscoreMasterSecret.take oscoreMasterSecretLen)
      (oscoreMasterSalt.take oscoreMasterSaltLen)
    let state := { state with oscore := { state.oscore with oscCtx := oscCtx } }
    if ¬success then (-1, state, host) else openTun state host setup
  else openTun state host setup

/-- The read loop blocks only on an empty queue. -/
theorem readTun_isSome {tun : List (List UInt8)} (nonempty : tun ≠ []) (errors : List Errno) :
    (readTun tun errors).isSome = true := by
  induction errors with
  | nil =>
      cases tun with
      | nil => contradiction
      | cons packet rest => rfl
  | cons errno errors ih =>
      cases errno with
      | eintr => exact ih
      | eagain => rfl
      | ewouldblock => rfl
      | other code => rfl

/-- The read loop takes the oldest packet or leaves the queue as it is. -/
theorem readTun_cases {tun rest : List (List UInt8)} {errors : List Errno} {result : ReadResult}
    (read : readTun tun errors = some (result, rest)) :
    (∃ packet, result = .packet packet ∧ tun = packet :: rest) ∨ (∃ errno, result = .failed errno) := by
  induction errors with
  | nil =>
      cases tun with
      | nil => simp [readTun] at read
      | cons packet remaining =>
          simp only [readTun, Option.some.injEq, Prod.mk.injEq] at read
          exact Or.inl ⟨packet, read.1.symm, by rw [read.2]⟩
  | cons errno errors ih =>
      cases errno with
      | eintr => exact ih read
      | eagain => exact Or.inr ⟨_, (Prod.mk.inj (Option.some.inj read)).1.symm⟩
      | ewouldblock => exact Or.inr ⟨_, (Prod.mk.inj (Option.some.inj read)).1.symm⟩
      | other code => exact Or.inr ⟨_, (Prod.mk.inj (Option.some.inj read)).1.symm⟩

end SchcWork.Worker
