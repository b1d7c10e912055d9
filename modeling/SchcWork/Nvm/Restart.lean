import Mathlib.Data.List.Nodup
import SchcWork.Nvm.Lookup
import SchcWork.Worker.Tunnel

namespace SchcWork.Nvm

open Net Platform Worker

/-- This is uoscore with the sender key and the next number of each context. A fresh context starts at zero. A call
that protects its message under the next number advances the number by one, and every other call keeps it. -/
structure NumberedUoscore (Context Key : Type) where
  uoscore : NvmFile → Uoscore Context
  protects : Context → Option PlaintextCb → (input : List UInt8) → (capacity : Nat) → Bool
  deriveKey : (secret salt senderId recipientId idContext : List UInt8) → Key
  senderKey : Context → Key
  ssn : Context → Nat
  derived : ∀ file params, ((uoscore file).oscoreContextInit params).1 = .ok →
    senderKey ((uoscore file).oscoreContextInit params).2 =
      deriveKey params.masterSecret params.masterSalt params.senderId params.recipientId params.idContext
  fresh : ∀ file params, params.freshMasterSecretSalt = true → ((uoscore file).oscoreContextInit params).1 = .ok →
    ssn ((uoscore file).oscoreContextInit params).2 = 0
  advances : ∀ file oscCtx callback input capacity,
    senderKey ((uoscore file).coap2oscore oscCtx callback input capacity).2 = senderKey oscCtx ∧
      ssn ((uoscore file).coap2oscore oscCtx callback input capacity).2 =
        ssn oscCtx + if protects oscCtx callback input capacity then 1 else 0
  accepts : ∀ file oscCtx callback input capacity,
    senderKey ((uoscore file).oscore2coap oscCtx callback input capacity).2 = senderKey oscCtx ∧
      ssn ((uoscore file).oscore2coap oscCtx callback input capacity).2 = ssn oscCtx

variable {Context Key Nonce : Type}

/-- A run starts the process with its static variables and ends after any number of steps. The library may store
numbers during the run, and a crash may tear the last store. -/
structure NodeRun (Context : Type) where
  layer : SchcAl Context
  host : Host
  setup : TunSetup
  actions : List WorkerAction
  writes : List WriteCall

/-- The main loop starts only after a successful initialization. -/
def startWorker (library : Uoscore Context) (build : Build) (mode : PeerMode) (run : NodeRun Context) :
    Option (WorkerState Context) :=
  let (result, al, host) := schcAlInit library build mode run.layer run.host run.setup
  if result ≠ 0 then none else some ⟨al, host.watched, [], 0⟩

section Protections

variable (library : NumberedUoscore Context Key) (file : NvmFile) (build : Build) (mode : PeerMode)

/-- The library protects the message that the worker passes in this state. -/
def isProtected (integration : Integration Context) (call : Option CallRecord) : Bool :=
  let callback := if integration.oscoreInnerSchcEnabled then some PlaintextCb.oscoreMsgInnerCompression else none
  call.any fun call => library.protects integration.oscCtx callback call.input 208

/-- These are the contexts that protected the messages of a run, oldest first. -/
def stepProtections : WorkerState Context → List WorkerAction → List Context
  | _, [] => []
  | worker, action :: actions =>
      match workerStep (library.uoscore file) build worker action with
      | none => []
      | some (next, output) =>
          let later := stepProtections next actions
          if isProtected library worker.al.oscore (output.down.bind SendDown.call) then
            worker.al.oscore.oscCtx :: later
          else later

def runProtections (run : NodeRun Context) : List Context :=
  match startWorker (library.uoscore file) build mode run with
  | none => []
  | some worker => stepProtections library file build worker run.actions

/-- Each run finds the file that the runs before it left. -/
def historyProtections : NvmFile → List (NodeRun Context) → List (List Context)
  | _, [] => []
  | file, run :: runs =>
      runProtections library file build mode run :: historyProtections (fileAfter file run.writes) runs

end Protections

namespace NumberedUoscore

variable (library : NumberedUoscore Context Key)

/-- A message is protected under a sender key and a number. -/
def number (oscCtx : Context) : Key × Nat := (library.senderKey oscCtx, library.ssn oscCtx)

/-- The number advances by one for a protected message, and the key stays. -/
structure Advances (before : Integration Context) (after : Context) (call : Option CallRecord) : Prop where
  senderKey : library.senderKey after = library.senderKey before.oscCtx
  ssn : library.ssn after = library.ssn before.oscCtx + if isProtected library before call then 1 else 0

/-- This is the key that the library derives for the compiled-in parameters. -/
def compiledKey (mode : PeerMode) : Key :=
  library.deriveKey (compiledParams mode).masterSecret (compiledParams mode).masterSalt (compiledParams mode).senderId
    (compiledParams mode).recipientId (compiledParams mode).idContext

theorem advances_refl (integration : Integration Context) : library.Advances integration integration.oscCtx none :=
  ⟨rfl, rfl⟩

end NumberedUoscore

section Steps

variable (library : NumberedUoscore Context Key) (build : Build) (mode : PeerMode) (file : NvmFile)

theorem downConversion_advances (integration : Integration Context) (netBuffer : ByteMemory) :
    library.Advances integration (downConversion (library.uoscore file) integration netBuffer).oscCtx
      (some (downConversion (library.uoscore file) integration netBuffer).call) := by
  obtain ⟨key, ssn⟩ := library.advances file integration.oscCtx
    (if integration.oscoreInnerSchcEnabled then some .oscoreMsgInnerCompression else none)
    (netBuffer.slice 48 (ipv6UdpPayloadLen netBuffer % 2 ^ 16)) 208
  exact ⟨key, ssn⟩

theorem upConversion_advances (integration : Integration Context) (buffer : ByteMemory) :
    library.Advances integration (upConversion (library.uoscore file) integration buffer).oscCtx none := by
  obtain ⟨key, ssn⟩ := library.accepts file integration.oscCtx
    (if integration.oscoreInnerSchcEnabled then some .oscoreMsgInnerDecompression else none)
    (buffer.slice 48 (ipv6UdpPayloadLen buffer % 2 ^ 16)) (ipv6UdpPayloadLen buffer)
  exact ⟨key, ssn⟩

/-- The preparation advances the number exactly when its call protects the packet. -/
theorem prepareDown_advances (integration : Integration Context) (netBuffer : ByteMemory) (pktLen : Nat) :
    library.Advances integration
      (prepareDown (library.uoscore file) build integration netBuffer pktLen).oscCtx
      (prepareDown (library.uoscore file) build integration netBuffer pktLen).call := by
  have converted := downConversion_advances library file integration netBuffer
  have path := prepareDown_path (library.uoscore file) build integration netBuffer pktLen
  generalize prepareDown (library.uoscore file) build integration netBuffer pktLen = outcome at path ⊢
  cases path with
  | nonIpv6Udp other => exact library.advances_refl _
  | nonCoapDropped udp other drop => exact library.advances_refl _
  | nonCoapSent udp other keep => exact library.advances_refl _
  | plain udp coap disabled => exact library.advances_refl _
  | failedDropped udp coap enabled failed drop => exact converted
  | failedSent udp coap enabled failed keep => exact converted
  | converted udp coap enabled success => exact converted

theorem handlePacket_advances (state : SchcAl Context) (packet : List UInt8) (rest : List (List UInt8))
    (reply : NetSendtoReply) :
    library.Advances state.oscore
      (handlePacket (library.uoscore file) build state packet rest reply).state.oscore.oscCtx
      (handlePacket (library.uoscore file) build state packet rest reply).call := by
  have advances := prepareDown_advances library build file state.oscore
    (state.netBuffer.store 0 (packet.take ipv6MaxPacketSize)) (packet.take ipv6MaxPacketSize).length
  have path := handlePacket_path (library.uoscore file) build state packet rest reply
  generalize handlePacket (library.uoscore file) build state packet rest reply = result at path ⊢
  cases path with
  | discarded reason decided => exact advances
  | submitted pktLen decided =>
      rw [callNetSendto_oscore]
      exact advances

/-- A delivery keeps the number, because it protects nothing. -/
theorem schcAlForwardUp_advances (state : SchcAl Context) (buffer : ByteMemory) (dataSize : Nat) (writeFails : Bool) :
    library.Advances state.oscore
      (schcAlForwardUp (library.uoscore file) build state buffer dataSize writeFails).state.oscore.oscCtx none := by
  obtain ⟨oscCtx, after, changed⟩ :=
    schcAlForwardUp_state (library.uoscore file) build state buffer dataSize writeFails
  rw [after]
  change library.Advances state.oscore oscCtx none
  rcases changed with rfl | rfl
  · exact library.advances_refl _
  · exact upConversion_advances library file state.oscore buffer

/-- A step of the loop advances the number exactly when it protects a message. -/
theorem workerStep_advances {worker next : WorkerState Context} {action : WorkerAction} {output : WorkerOutput Context}
    (taken : workerStep (library.uoscore file) build worker action = some (next, output)) :
    library.Advances worker.al.oscore next.al.oscore.oscCtx (output.down.bind SendDown.call) := by
  cases workerStep_path taken with
  | arrive packet => exact library.advances_refl _
  | poll result truthful =>
      have same : (platformEnterLowPowerLl WorkerState.watched runCallback result worker).al.oscore =
          worker.al.oscore := by
        refine @platformEnterLowPowerLl_invariant _ _ (fun current : WorkerState Context =>
          current.al.oscore = worker.al.oscore) WorkerState.watched runCallback result worker rfl ?_
        intro readable current idx callback reported inside ready found holds
        cases callback with
        | schcAlTunReceivedHandler => exact holds
        | l2 index => exact holds
      rw [same]
      exact library.advances_refl _
  | process errors reply result path =>
      rcases path.idle_or_handled with ⟨status, al, rfl, same⟩ | ⟨packet, rest, -, -, rfl⟩
      · rcases same with rfl | rfl
        · exact library.advances_refl _
        · exact library.advances_refl _
      · exact handlePacket_advances library build file worker.al.cleared packet rest reply
  | transmissionResult status error pending => exact library.advances_refl _
  | delivered buffer dataSize writeFails =>
      exact schcAlForwardUp_advances library build file worker.al buffer dataSize writeFails
  | undelivered buffer dataSize status writeFails => exact library.advances_refl _

/-- A run protects its messages with consecutive numbers under one key. -/
theorem stepProtections_numbers (worker : WorkerState Context) (actions : List WorkerAction) :
    (stepProtections library file build worker actions).map library.number =
      (List.range' (library.ssn worker.al.oscore.oscCtx)
        (stepProtections library file build worker actions).length).map
          (Prod.mk (library.senderKey worker.al.oscore.oscCtx)) := by
  induction actions generalizing worker with
  | nil => rfl
  | cons action actions ih =>
      rw [stepProtections]
      cases taken : workerStep (library.uoscore file) build worker action with
      | none => rfl
      | some outcome =>
          obtain ⟨next, output⟩ := outcome
          obtain ⟨key, ssn⟩ := workerStep_advances library build file taken
          have later := ih next
          rw [key, ssn] at later
          dsimp only
          split
          · rename_i protectedMessage
            rw [if_pos protectedMessage] at later
            rw [List.map_cons, later, List.length_cons, List.range'_succ, List.map_cons]
            rfl
          · rename_i unprotected
            rw [if_neg unprotected, Nat.add_zero] at later
            exact later

/-- Every started worker has the key of the compiled-in parameters and the number zero. -/
theorem startWorker_number (dropNonCoap dropOnError : Bool) {run : NodeRun Context} {worker : WorkerState Context}
    (started : startWorker (library.uoscore file) (proxyBuild dropNonCoap dropOnError) mode run = some worker) :
    library.senderKey worker.al.oscore.oscCtx = library.compiledKey mode ∧
      library.ssn worker.al.oscore.oscCtx = 0 := by
  unfold startWorker at started
  dsimp only at started
  split at started
  · contradiction
  · rename_i success
    obtain ⟨ready, kept⟩ := @schcAlInit_context _ (library.uoscore file) (proxyBuild dropNonCoap dropOnError) mode rfl
      run.layer run.host run.setup (not_not.mp success)
    rw [← Option.some.inj started]
    dsimp only
    rw [kept]
    exact ⟨library.derived file _ ready, library.fresh file _ rfl ready⟩

/-- Every run protects its messages with the numbers from zero on under the compiled-in key. -/
theorem runProtections_numbers (dropNonCoap dropOnError : Bool) (run : NodeRun Context) :
    (runProtections library file (proxyBuild dropNonCoap dropOnError) mode run).map library.number =
      (List.range (runProtections library file (proxyBuild dropNonCoap dropOnError) mode run).length).map
        (Prod.mk (library.compiledKey mode)) := by
  unfold runProtections
  cases started : startWorker (library.uoscore file) (proxyBuild dropNonCoap dropOnError) mode run with
  | none => rfl
  | some worker =>
      obtain ⟨key, zero⟩ := startWorker_number library mode file dropNonCoap dropOnError started
      have numbers := stepProtections_numbers library (proxyBuild dropNonCoap dropOnError) file worker run.actions
      rw [key, zero] at numbers
      rw [List.range_eq_range']
      exact numbers

/-- The numbers of a history start again at zero in every run. -/
theorem historyProtections_numbers (dropNonCoap dropOnError : Bool) (runs : List (NodeRun Context)) :
    (historyProtections library (proxyBuild dropNonCoap dropOnError) mode file runs).flatten.map library.number =
      ((historyProtections library (proxyBuild dropNonCoap dropOnError) mode file runs).flatMap fun protections =>
        List.range protections.length).map (Prod.mk (library.compiledKey mode)) := by
  induction runs generalizing file with
  | nil => rfl
  | cons run runs ih =>
      rw [historyProtections, List.flatten_cons, List.map_append, List.flatMap_cons, List.map_append, ih,
        runProtections_numbers]

end Steps

/-- No number is used twice under one sender key, so no nonce made from the number repeats under the key. -/
structure NoReuse (library : NumberedUoscore Context Key) (Nonce : Type) (protections : List Context) : Prop where
  numbers : (protections.map library.number).Nodup
  nonces : ∀ nonce : Key → Nat → Nonce, (∀ key, Function.Injective (nonce key)) →
    (protections.map fun oscCtx =>
      (library.senderKey oscCtx, nonce (library.senderKey oscCtx) (library.ssn oscCtx))).Nodup

/-- Distinct numbers give distinct nonces under each key. -/
theorem noReuse_of_nodup {library : NumberedUoscore Context Key} {protections : List Context}
    (numbers : (protections.map library.number).Nodup) : NoReuse library Nonce protections := by
  refine ⟨numbers, fun nonce injective => ?_⟩
  have distinct : Function.Injective fun used : Key × Nat => (used.1, nonce used.1 used.2) := by
    rintro ⟨key, first⟩ ⟨other, second⟩ same
    obtain ⟨sameKey, sameNonce⟩ := Prod.mk.inj same
    dsimp only at sameKey sameNonce
    subst sameKey
    rw [injective key sameNonce]
  have pairs := numbers.map distinct
  rw [List.map_map] at pairs
  exact pairs

/-- Counters that start again at zero repeat a number as soon as two of them count. -/
theorem nodup_flatMap_range {Item : Type} (items : List (List Item)) :
    (items.flatMap fun item => List.range item.length).Nodup ↔
      items.Pairwise fun first second => first = [] ∨ second = [] := by
  rw [List.nodup_flatMap]
  have counted : ∀ first second : List Item,
      List.Disjoint (List.range first.length) (List.range second.length) ↔ first = [] ∨ second = [] := by
    intro first second
    constructor
    · intro disjoint
      by_contra both
      obtain ⟨firstCounts, secondCounts⟩ := not_or.mp both
      have zero := @disjoint 0 (List.mem_range.mpr (List.length_pos_of_ne_nil firstCounts))
      exact zero (List.mem_range.mpr (List.length_pos_of_ne_nil secondCounts))
    · rintro (rfl | rfl)
      · exact List.disjoint_nil_left _
      · exact List.disjoint_nil_right _
  constructor
  · rintro ⟨-, apart⟩
    exact apart.imp fun disjoint => (counted _ _).mp disjoint
  · intro apart
    exact ⟨fun item _ => List.nodup_range, apart.imp fun {first second} empty => (counted first second).mpr empty⟩

/-- A node keeps its numbers unique exactly when at most one of its runs protects a message. -/
theorem noReuse_iff (library : NumberedUoscore Context Key) (dropNonCoap dropOnError : Bool) (mode : PeerMode)
    (file : NvmFile) (runs : List (NodeRun Context)) :
    NoReuse library Nonce
        (historyProtections library (proxyBuild dropNonCoap dropOnError) mode file runs).flatten ↔
      (historyProtections library (proxyBuild dropNonCoap dropOnError) mode file runs).Pairwise
        fun first second => first = [] ∨ second = [] := by
  have unique := nodup_flatMap_range (historyProtections library (proxyBuild dropNonCoap dropOnError) mode file runs)
  rw [← List.nodup_map_iff (Prod.mk_right_injective (library.compiledKey mode)), ← historyProtections_numbers] at unique
  exact ⟨fun fresh => unique.mp fresh.numbers, fun apart => noReuse_of_nodup (unique.mpr apart)⟩

/-- This library restores the stored number of a context that is not fresh, and it marks what it protects. -/
def countingUoscore : NumberedUoscore (List UInt8 × Nat) (List UInt8) where
  uoscore file :=
    { oscoreContextInit := fun params =>
        let key := ⟨params.senderId, params.recipientId, params.idContext⟩
        (.ok, params.masterSecret ++ params.masterSalt ++ params.senderId,
          if params.freshMasterSecretSalt then 0
          else ((nvmReadSsn clearStack .opens .refused key file).ssn.getD 0 + 1))
      coap2oscore := fun oscCtx _ input capacity =>
        let output := if isDismissed input then input else 0x41 :: input
        let next := if isDismissed input then oscCtx else (oscCtx.1, oscCtx.2 + 1)
        if fits : output.length ≤ capacity then (⟨.ok, output, fits⟩, next)
        else (⟨.bufferToSmall, [], Nat.zero_le _⟩, next)
      oscore2coap := fun oscCtx _ _ _ => (⟨.notOscorePkt, [], Nat.zero_le _⟩, oscCtx) }
  protects _ _ input _ := !isDismissed input
  deriveKey secret salt senderId _ _ := secret ++ salt ++ senderId
  senderKey := Prod.fst
  ssn := Prod.snd
  derived _ _ _ := rfl
  fresh _ _ isFresh _ := if_pos isFresh
  advances file oscCtx callback input capacity := by
    cases empty : isDismissed input with
    | true =>
        simp only [empty, if_true]
        split
        · exact ⟨rfl, rfl⟩
        · exact ⟨rfl, rfl⟩
    | false =>
        simp only [empty, Bool.false_eq_true, if_false]
        split
        · exact ⟨rfl, rfl⟩
        · exact ⟨rfl, rfl⟩
  accepts _ _ _ _ _ := ⟨rfl, rfl⟩

/-- The device sends one packet down, the library stores a number, and the device crashes. -/
def sendingRun (packet : List UInt8) (stored : UInt64) : NodeRun (List UInt8 × Nat) where
  layer := ⟨false, EventWord.none, -1, fun _ => 0, ⟨([], 0), true⟩⟩
  host := ⟨watchedFds, []⟩
  setup := ⟨3, true, true, true⟩
  actions := [.arrive packet, .poll (.ready fun _ => true), .process [] ⟨.success, none⟩]
  writes := [deviceWrite stored]

/-- The second run protects its request with the number of the first run. -/
theorem oneMessageRun_repeats :
    ¬NoReuse countingUoscore (List UInt8 × Nat)
      (historyProtections countingUoscore (proxyBuild true true) .device none
        [sendingRun requestPacket 1, sendingRun requestPacket 1]).flatten := by
  intro unique
  have repeated : (historyProtections countingUoscore (proxyBuild true true) .device none
      [sendingRun requestPacket 1, sendingRun requestPacket 1]).flatten.map countingUoscore.number =
        List.replicate 2 (countingUoscore.compiledKey .device, 0) := rfl
  have twice := unique.numbers
  rw [repeated, List.nodup_replicate] at twice
  exact absurd twice (by decide)

/-- Two runs that only acknowledge protect no message. -/
example : historyProtections countingUoscore (proxyBuild true true) .device none
    [sendingRun ackPacket 0, sendingRun ackPacket 0] = [[], []] := rfl

end SchcWork.Nvm
