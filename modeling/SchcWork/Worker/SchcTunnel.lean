import SchcWork.Schc.PointToPoint
import SchcWork.Worker.Tunnel

namespace SchcWork.Worker

open BitString HeaderCompression Net Schc Schc.Outer

/-- The SDK parses a frame and chooses a rule for the packet. -/
structure FrameSdk where
  outer : OuterSdk
  parse (frame : List UInt8) : Option Packet
  choose (rules : List Rule) (packet : Packet) : Option Rule

/-- The parser finds the fields of an uplink frame, and the choice is a rule that matches. -/
structure FrameSdk.FollowsRfc (sdk : FrameSdk) : Prop where
  outer : sdk.outer.FollowsRfc
  parse_frame : ∀ frame packet, sdk.parse frame = some packet → packet.frame .up = frame
  choose_matched : ∀ rules packet rule, sdk.choose rules packet = some rule →
    rule ∈ rules ∧ rule.Matches .up packet

def emptyOutput : BitBuffer := ⟨[], 0, 0, Nat.zero_le _⟩

/-- The other end restores the frame that one end sends. A frame without a rule travels uncompressed. -/
def FrameSdk.transfer (sdk : FrameSdk) (width : Nat) (rules : PeerMode → List Rule) (mode : PeerMode)
    (frame : List UInt8) : Option (List UInt8) :=
  (sdk.parse frame).bind fun packet =>
    match sdk.choose (rules mode) packet with
    | none => some frame
    | some rule =>
        match sdk.outer.send width rule packet emptyOutput with
        | .error _ => none
        | .ok compressed =>
            match sdk.outer.receive width (rules mode.other) { compressed with getBitIndex := 0 } with
            | .ok (some restored) => some (restored.frame .down)
            | _ => none

/-- The stored checksum of a sealed frame is not zero, and the frame is well formed. -/
theorem Sealed.wellFormed {Context : Type} {library : Uoscore Context} {mode : PeerMode}
    {packet frame payload message : List UInt8} {netBuffer : ByteMemory}
    (sealed : Sealed library mode packet frame netBuffer payload message) :
    FrameWellFormed frame ∧ frameWord frame 46 ≠ 0 := by
  have short := sealed.short
  have nonzero := updateUdpChecksum_nonzero
    (updateIp6UdpLen ((netBuffer.store 0 (packet.take ipv6MaxPacketSize)).store 48 message) message.length)
  rw [sealed.frame, sentFrame, sentMemory]
  refine ⟨resize_wellFormed _ (by omega), ?_⟩
  rw [frameWord_slice _ (by omega)]
  exact Nat.ne_of_gt nonzero

section Transfer

variable {sdk : FrameSdk} {width : Nat} {inetPton : List Char → Option (Vector UInt8 16)} {texts : EndpointTexts}
variable {mode : PeerMode} {frame delivered : List UInt8}

/-- The whole path keeps a frame up to the flow label and the hop limit, or it delivers nothing. -/
theorem transfer_sameExceptHop (followsRfc : sdk.FollowsRfc) (narrow : width ≤ 16)
    (wellFormed : FrameWellFormed frame) (nonzero : frameWord frame 46 ≠ 0)
    (transferred : sdk.transfer width (endRules inetPton texts) mode frame = some delivered) :
    SameExceptHop frame delivered := by
  obtain ⟨packet, parsed, transferred⟩ := Option.bind_eq_some_iff.mp transferred
  have sameFrame := followsRfc.parse_frame frame packet parsed
  cases chosen : sdk.choose (endRules inetPton texts mode) packet with
  | none =>
      rw [chosen] at transferred
      rw [← Option.some.inj transferred]
      exact rfl
  | some rule =>
      obtain ⟨member, matched⟩ := followsRfc.choose_matched _ _ _ chosen
      rw [chosen] at transferred
      have checksum : packet.udp.checksum ≠ 0 := by
        intro zero
        rw [← sameFrame, (packet.frame_words .up).2.2, zero] at nonzero
        exact nonzero rfl
      have sentFrame : FrameWellFormed (packet.frame .up) := by rwa [sameFrame]
      by_cases fits : (sdk.outer.ruleIds.ruleId rule).toNat < 2 ^ width
      · obtain ⟨compressed, sent, received⟩ := followsRfc.outer.otherEnd_receives narrow member matched checksum
          sentFrame fits emptyOutput
        simp only [sent, received { compressed with getBitIndex := 0 } rfl rfl, Option.some.injEq] at transferred
        rw [← transferred, ← sameFrame]
        exact (packet.mirror_sameExceptHop 0x12345 64 .down).mpr (.inl rfl)
      · obtain ⟨compressed, sent, failed⟩ := followsRfc.outer.fails narrow matched member (Nat.le_of_not_lt fits)
          (mainEndpoints inetPton texts mode.other) emptyOutput
        have lost : sdk.outer.receive width (endRules inetPton texts mode.other)
            { compressed with getBitIndex := 0 } = .error .compRulesNotFoundErr := failed _ rfl rfl
        simp only [sent, lost] at transferred
        contradiction

end Transfer

section SchcTunnel

variable {Context : PeerMode → Type}

/-- The frames on the links carry their sender. -/
def schcNode {Context : Type} (library : Uoscore Context) (mode : PeerMode) :
    NetworkNode (WorkerState Context) WorkerAction (WorkerOutput Context) (PeerMode × List UInt8) where
  system := (workerNode library mode).system
  emits output := ((workerNode library mode).emits output).map (mode, ·)
  absorbs action := ((workerNode library mode).absorbs action).map (mode.other, ·)

/-- The links lose, repeat and reorder what the SDK of one end transfers to the other end. -/
def schcTunnel (sdk : FrameSdk) (width : Nat) (rules : PeerMode → List Rule)
    (library : ∀ mode, Uoscore (Context mode)) :
    LossyNetwork PeerMode (fun mode => WorkerState (Context mode)) (fun mode => WorkerOutput (Context mode))
      WorkerAction (PeerMode × List UInt8) where
  nodes mode := schcNode (library mode) mode
  peer := PeerMode.other
  relays sent delivered := sent.1 == delivered.1 && sdk.transfer width rules sent.1 sent.2 == some delivered.2

theorem schcNode_emitted {Context : Type} (library : Uoscore Context) (mode : PeerMode)
    (trace : List (WorkerAction × WorkerOutput Context)) :
    (schcNode library mode).emitted trace = ((workerNode library mode).emitted trace).map (mode, ·) :=
  (List.map_filterMap ..).symm

end SchcTunnel

/-- This parser reads the IPv6 and UDP fields and leaves the data as the payload. -/
def parseUdpFrame (frame : List UInt8) : Option Packet :=
  let word (width start : Nat) : BitVec width := bitsWord width (((bytesBits frame).drop start).take width)
  let packet : Packet :=
    ⟨⟨word 4 0, word 8 4, word 20 12, word 16 32, word 8 48, word 8 56, word 64 64, word 64 128, word 64 192,
      word 64 256⟩, ⟨word 16 320, word 16 336, word 16 352, word 16 368⟩, none, frame.drop 48⟩
  if packet.frame .up = frame then some packet else none

/-- This SDK takes the first rule that matches. -/
def firstMatchSdk : FrameSdk where
  outer := packedOuterSdk
  parse := parseUdpFrame
  choose rules packet := rules.find? fun rule => decide (rule.Matches .up packet)

theorem firstMatchSdk_followsRfc : firstMatchSdk.FollowsRfc where
  outer := packedOuterSdk_followsRfc
  parse_frame := by
    intro frame packet parsed
    simp only [firstMatchSdk, parseUdpFrame] at parsed
    split at parsed
    · rename_i same
      rw [← Option.some.inj parsed]
      exact same
    · contradiction
  choose_matched := by
    intro rules packet rule chosen
    have found : rules.find? (fun rule => decide (rule.Matches .up packet)) = some rule := chosen
    have holds := List.find?_some found
    exact ⟨List.mem_of_find?_eq_some found, of_decide_eq_true holds⟩

/-- The device of the recorded session has this port. -/
def recordedTexts : EndpointTexts := { configuredTexts with udpHostPort := "42159".toList }

def recordedRules : PeerMode → List Rule := endRules configuredPton recordedTexts

/-- Both workers have opened their TUN. -/
def bootedSchcTunnel : LossyNetwork.Configuration (fun _ : PeerMode => WorkerState Unit) (PeerMode × List UInt8) :=
  ⟨fun _ => bootedWorker recordedLibrary (proxyBuild true true), fun _ => []⟩

/-- The rules have this flow label. -/
def withRuleFlowLabel (frame : List UInt8) : List UInt8 := ((frame.set 1 0x01).set 2 0x23).set 3 0x45

end SchcWork.Worker
