import SchcWork.Worker.SendDown

namespace SchcWork.Worker

open Net

variable {Context : Type}

/-- This is the conversion that the layer makes for a delivered packet. -/
def upConversion (library : Uoscore Context) (integration : Integration Context) (buffer : ByteMemory) :
    Converted Context :=
  oscoreToCoap library integration buffer 48 (ipv6UdpPayloadLen buffer) 48 (ipv6UdpPayloadLen buffer)

/-- A conversion replaces the security context. -/
def SchcAl.withContext (state : SchcAl Context) (oscCtx : Context) : SchcAl Context :=
  { state with oscore := { state.oscore with oscCtx := oscCtx } }

/-- These are the bytes that the packet tests look at. -/
def classifyTouches (buffer : ByteMemory) (dataSize : Nat) : List ByteSpan :=
  isIpv6UdpPacketReads buffer dataSize ++ ⟨44, 2⟩ :: isCoapPacketReads 48 dataSize

/-- The conversion reads its input slice and writes its output at the same place. -/
def CallRecord.touches (call : CallRecord) : List ByteSpan := [call.slice, ⟨48, call.out.length⟩]

/-- Each constructor is one path of `schcAlForwardUp` with its guards and its effects. -/
inductive UpPath (library : Uoscore Context) (build : Build) (state : SchcAl Context) (buffer : ByteMemory)
    (dataSize : Nat) (writeFails : Bool) : ForwardUp Context → Prop where
  | closed (closed : state.tunFd < 0 ∨ dataSize = 0) :
      UpPath library build state buffer dataSize writeFails ⟨-1, state, buffer, [], none, none⟩
  | nonIpv6Udp (opened : ¬(state.tunFd < 0 ∨ dataSize = 0)) (other : isIpv6UdpPacket buffer dataSize = false) :
      UpPath library build state buffer dataSize writeFails
        ⟨0, state, buffer, isIpv6UdpPacketReads buffer dataSize, none, none⟩
  | nonCoapDropped (opened : ¬(state.tunFd < 0 ∨ dataSize = 0)) (udp : isIpv6UdpPacket buffer dataSize = true)
      (other : isCoapPacket buffer 48 dataSize = false) (drop : build.dropNonCoap = true) :
      UpPath library build state buffer dataSize writeFails
        ⟨0, state, buffer, classifyTouches buffer dataSize, none, none⟩
  | nonCoapSent (opened : ¬(state.tunFd < 0 ∨ dataSize = 0)) (udp : isIpv6UdpPacket buffer dataSize = true)
      (other : isCoapPacket buffer 48 dataSize = false) (keep : build.dropNonCoap = false) :
      UpPath library build state buffer dataSize writeFails
        (writeTun state buffer dataSize writeFails (classifyTouches buffer dataSize) none)
  | plain (opened : ¬(state.tunFd < 0 ∨ dataSize = 0)) (udp : isIpv6UdpPacket buffer dataSize = true)
      (coap : isCoapPacket buffer 48 dataSize = true) (disabled : build.oscoreProxyEnabled = false) :
      UpPath library build state buffer dataSize writeFails
        (writeTun state buffer dataSize writeFails (classifyTouches buffer dataSize) none)
  | notOscore (opened : ¬(state.tunFd < 0 ∨ dataSize = 0)) (udp : isIpv6UdpPacket buffer dataSize = true)
      (coap : isCoapPacket buffer 48 dataSize = true) (enabled : build.oscoreProxyEnabled = true)
      (reported : (upConversion library state.oscore buffer).call.err = .notOscorePkt) :
      UpPath library build state buffer dataSize writeFails
        (writeTun (state.withContext (upConversion library state.oscore buffer).oscCtx)
          (upConversion library state.oscore buffer).memory dataSize writeFails
          (classifyTouches buffer dataSize ++ (upConversion library state.oscore buffer).call.touches)
          (some (upConversion library state.oscore buffer).call))
  | failed (opened : ¬(state.tunFd < 0 ∨ dataSize = 0)) (udp : isIpv6UdpPacket buffer dataSize = true)
      (coap : isCoapPacket buffer 48 dataSize = true) (enabled : build.oscoreProxyEnabled = true)
      (failure : (upConversion library state.oscore buffer).call.err ≠ .ok)
      (other : (upConversion library state.oscore buffer).call.err ≠ .notOscorePkt) :
      UpPath library build state buffer dataSize writeFails
        ⟨-1, state.withContext (upConversion library state.oscore buffer).oscCtx,
          (upConversion library state.oscore buffer).memory,
          classifyTouches buffer dataSize ++ (upConversion library state.oscore buffer).call.touches,
          some (upConversion library state.oscore buffer).call, none⟩
  | converted (opened : ¬(state.tunFd < 0 ∨ dataSize = 0)) (udp : isIpv6UdpPacket buffer dataSize = true)
      (coap : isCoapPacket buffer 48 dataSize = true) (enabled : build.oscoreProxyEnabled = true)
      (success : (upConversion library state.oscore buffer).call.err = .ok) :
      UpPath library build state buffer dataSize writeFails
        (writeTun (state.withContext (upConversion library state.oscore buffer).oscCtx)
          (resize (upConversion library state.oscore buffer).memory
            (upConversion library state.oscore buffer).call.out.length)
          ((48 + (upConversion library state.oscore buffer).call.out.length) % 2 ^ 16) writeFails
          (classifyTouches buffer dataSize ++ (upConversion library state.oscore buffer).call.touches ++
            updateIp6UdpLenTouches ++ updateUdpChecksumTouches
              (updateIp6UdpLen (upConversion library state.oscore buffer).memory
                (upConversion library state.oscore buffer).call.out.length))
          (some (upConversion library state.oscore buffer).call))

section Paths

variable (library : Uoscore Context) (build : Build) (state : SchcAl Context)
variable (buffer : ByteMemory) (dataSize : Nat) (writeFails : Bool)

theorem upConversion_res :
    (upConversion library state.oscore buffer).res =
      uoscoreErrToRes (upConversion library state.oscore buffer).call.err :=
  convert_res _ _ _ _ _ _ _ _

theorem upConversion_fits :
    (upConversion library state.oscore buffer).call.out.length ≤ ipv6UdpPayloadLen buffer :=
  convert_fits _ _ _ _ _ _ _ _

theorem upConversion_memory :
    (upConversion library state.oscore buffer).memory =
      buffer.store 48 (upConversion library state.oscore buffer).call.out :=
  rfl

theorem upConversion_slice :
    (upConversion library state.oscore buffer).call.slice = ⟨48, ipv6UdpPayloadLen buffer⟩ := by
  have bound := ipv6UdpPayloadLen_le buffer
  have narrowed : ipv6UdpPayloadLen buffer % 2 ^ 16 = ipv6UdpPayloadLen buffer := Nat.mod_eq_of_lt (by omega)
  show ByteSpan.mk 48 (ipv6UdpPayloadLen buffer % 2 ^ 16) = _
  rw [narrowed]

private theorem schcAlForwardUp_unfolded :
    schcAlForwardUp library build state buffer dataSize writeFails =
      if state.tunFd < 0 ∨ dataSize = 0 then ⟨-1, state, buffer, [], none, none⟩
      else if ¬isIpv6UdpPacket buffer dataSize then
        ⟨0, state, buffer, isIpv6UdpPacketReads buffer dataSize, none, none⟩
      else if isCoapPacket buffer 48 dataSize then
        if build.oscoreProxyEnabled then
          let converted := upConversion library state.oscore buffer
          let touched := classifyTouches buffer dataSize ++ converted.call.touches
          match converted.res with
          | .coSuccess =>
              writeTun (state.withContext converted.oscCtx) (resize converted.memory converted.call.out.length)
                ((48 + converted.call.out.length) % 2 ^ 16) writeFails
                (touched ++ updateIp6UdpLenTouches ++
                  updateUdpChecksumTouches (updateIp6UdpLen converted.memory converted.call.out.length))
                (some converted.call)
          | .coNotOscore =>
              writeTun (state.withContext converted.oscCtx) converted.memory dataSize writeFails touched
                (some converted.call)
          | _ => ⟨-1, state.withContext converted.oscCtx, converted.memory, touched, some converted.call, none⟩
        else writeTun state buffer dataSize writeFails (classifyTouches buffer dataSize) none
      else if build.dropNonCoap then ⟨0, state, buffer, classifyTouches buffer dataSize, none, none⟩
      else writeTun state buffer dataSize writeFails (classifyTouches buffer dataSize) none :=
  rfl

/-- The guards of a path determine its effects. -/
theorem UpPath.eq {result : ForwardUp Context}
    (path : UpPath library build state buffer dataSize writeFails result) :
    schcAlForwardUp library build state buffer dataSize writeFails = result := by
  have res := upConversion_res library state buffer
  rw [schcAlForwardUp_unfolded]
  cases path with
  | closed closed => rw [if_pos closed]
  | nonIpv6Udp opened other => simp [opened, other]
  | nonCoapDropped opened udp other drop => simp [opened, udp, other, drop]
  | nonCoapSent opened udp other keep => simp [opened, udp, other, keep]
  | plain opened udp coap disabled => simp [opened, udp, coap, disabled]
  | notOscore opened udp coap enabled reported =>
      rw [reported] at res
      simp [opened, udp, coap, enabled, res, uoscoreErrToRes]
  | failed opened udp coap enabled failure other =>
      have failed : (upConversion library state.oscore buffer).res ≠ .coSuccess := by
        rw [res]
        exact mt (uoscoreErrToRes_success _).mp failure
      have oscore : (upConversion library state.oscore buffer).res ≠ .coNotOscore := by
        rw [res]
        exact mt (uoscoreErrToRes_notOscore _).mp other
      simp only [opened, udp, coap, enabled, if_false, if_true, not_true_eq_false]
  | converted opened udp coap enabled success =>
      rw [success] at res
      simp [opened, udp, coap, enabled, res, uoscoreErrToRes]

/-- Every delivery takes one of the paths. -/
theorem schcAlForwardUp_path :
    UpPath library build state buffer dataSize writeFails
      (schcAlForwardUp library build state buffer dataSize writeFails) := by
  have some_path : ∃ result, UpPath library build state buffer dataSize writeFails result := by
    by_cases closed : state.tunFd < 0 ∨ dataSize = 0
    · exact ⟨_, .closed closed⟩
    · by_cases udp : isIpv6UdpPacket buffer dataSize = true
      · by_cases coap : isCoapPacket buffer 48 dataSize = true
        · by_cases enabled : build.oscoreProxyEnabled = true
          · by_cases success : (upConversion library state.oscore buffer).call.err = .ok
            · exact ⟨_, .converted closed udp coap enabled success⟩
            · by_cases reported : (upConversion library state.oscore buffer).call.err = .notOscorePkt
              · exact ⟨_, .notOscore closed udp coap enabled reported⟩
              · exact ⟨_, .failed closed udp coap enabled success reported⟩
          · exact ⟨_, .plain closed udp coap (Bool.eq_false_iff.mpr enabled)⟩
        · by_cases drop : build.dropNonCoap = true
          · exact ⟨_, .nonCoapDropped closed udp (Bool.eq_false_iff.mpr coap) drop⟩
          · exact ⟨_, .nonCoapSent closed udp (Bool.eq_false_iff.mpr coap) (Bool.eq_false_iff.mpr drop)⟩
      · exact ⟨_, .nonIpv6Udp closed (Bool.eq_false_iff.mpr udp)⟩
  obtain ⟨result, path⟩ := some_path
  rw [path.eq]
  exact path

/-- A delivery changes at most the security context, and only the conversion changes it. -/
theorem schcAlForwardUp_state :
    ∃ oscCtx, (schcAlForwardUp library build state buffer dataSize writeFails).state = state.withContext oscCtx ∧
      (oscCtx = state.oscore.oscCtx ∨ oscCtx = (upConversion library state.oscore buffer).oscCtx) := by
  have path := schcAlForwardUp_path library build state buffer dataSize writeFails
  generalize schcAlForwardUp library build state buffer dataSize writeFails = result at path
  cases path with
  | closed => exact ⟨_, rfl, Or.inl rfl⟩
  | nonIpv6Udp => exact ⟨_, rfl, Or.inl rfl⟩
  | nonCoapDropped => exact ⟨_, rfl, Or.inl rfl⟩
  | nonCoapSent => exact ⟨_, rfl, Or.inl rfl⟩
  | plain => exact ⟨_, rfl, Or.inl rfl⟩
  | notOscore => exact ⟨_, rfl, Or.inr rfl⟩
  | failed => exact ⟨_, rfl, Or.inr rfl⟩
  | converted => exact ⟨_, rfl, Or.inr rfl⟩

end Paths

/-- The delivered bytes contain everything that the layer looks at. -/
def ReceivedInside (build : Build) (state : SchcAl Context) (buffer : ByteMemory) (dataSize : Nat) : Prop :=
  state.tunFd < 0 ∨ isIpv6UdpPacket buffer dataSize = false ∨
    (48 < dataSize ∧
      (buffer 48 &&& 0xC0 ≠ 0x40 ∨ build.oscoreProxyEnabled = false ∨ 48 + ipv6UdpPayloadLen buffer ≤ dataSize))

instance (build : Build) (state : SchcAl Context) (buffer : ByteMemory) (dataSize : Nat) :
    Decidable (ReceivedInside build state buffer dataSize) :=
  inferInstanceAs (Decidable (_ ∨ _ ∨ (_ ∧ (_ ∨ _ ∨ _))))

/-- Every span of a list ends within the size. -/
def AllWithin (spans : List ByteSpan) (dataSize : Nat) : Prop := ∀ span ∈ spans, span.Within dataSize

theorem allWithin_append {first second : List ByteSpan} {dataSize : Nat} :
    AllWithin (first ++ second) dataSize ↔ AllWithin first dataSize ∧ AllWithin second dataSize :=
  List.forall_mem_append

theorem allWithin_cons {span : ByteSpan} {rest : List ByteSpan} {dataSize : Nat} :
    AllWithin (span :: rest) dataSize ↔ span.offset + span.length ≤ dataSize ∧ AllWithin rest dataSize :=
  List.forall_mem_cons

theorem allWithin_nil (dataSize : Nat) : AllWithin [] dataSize := nofun

/-- The packet tests stay inside exactly when a byte follows the headers. -/
theorem classifyTouches_within {buffer : ByteMemory} {dataSize : Nat} (udp : isIpv6UdpPacket buffer dataSize = true) :
    AllWithin (classifyTouches buffer dataSize) dataSize ↔ 48 < dataSize := by
  have long := isIpv6UdpPacket_long udp
  have nonempty : ¬dataSize < 1 := by omega
  have reads : AllWithin (isIpv6UdpPacketReads buffer dataSize) dataSize := isIpv6UdpPacketReads_within buffer dataSize
  simp only [classifyTouches, allWithin_append, allWithin_cons, reads, isCoapPacketReads, nonempty, if_false,
    allWithin_nil, and_true, true_and]
  omega

theorem updateTouches_within {packet : ByteMemory} {size dataSize : Nat} (fits : size ≤ 65527)
    (inside : 48 + size ≤ dataSize) :
    AllWithin (updateIp6UdpLenTouches ++ updateUdpChecksumTouches (updateIp6UdpLen packet size)) dataSize := by
  intro span member
  have within := resizeTouches_within packet fits span member
  unfold ByteSpan.Within at within ⊢
  omega

theorem writeTun_touched (state : SchcAl Context) (buffer : ByteMemory) (dataSize : Nat) (writeFails : Bool)
    (touched : List ByteSpan) (call : Option CallRecord) :
    (writeTun state buffer dataSize writeFails touched call).touched = touched ++ [⟨0, dataSize⟩] :=
  rfl

section Delivery

variable {library : Uoscore Context} {build : Build} {state : SchcAl Context}
variable {buffer : ByteMemory} {dataSize : Nat} {writeFails : Bool}

/-- The slice of a conversion stays inside exactly when the stated payload does. -/
theorem callTouches_within :
    AllWithin (upConversion library state.oscore buffer).call.touches dataSize ↔
      48 + ipv6UdpPayloadLen buffer ≤ dataSize := by
  have fits := upConversion_fits library state buffer
  simp only [CallRecord.touches, upConversion_slice, allWithin_cons, allWithin_nil, and_true]
  omega

/-- For an accepted packet the condition is about the byte after the headers and the stated payload. -/
theorem receivedInside_accepted (opened : ¬(state.tunFd < 0 ∨ dataSize = 0))
    (udp : isIpv6UdpPacket buffer dataSize = true) :
    ReceivedInside build state buffer dataSize ↔
      48 < dataSize ∧ (isCoapPacket buffer 48 dataSize = false ∨ build.oscoreProxyEnabled = false ∨
        48 + ipv6UdpPayloadLen buffer ≤ dataSize) := by
  obtain ⟨closed, nonempty⟩ := not_or.mp opened
  have test : isCoapPacket buffer 48 dataSize = false ↔ buffer 48 &&& 0xC0 ≠ 0x40 := by
    rw [← Bool.not_eq_true, isCoapPacket_iff]
    exact not_congr (and_iff_right (by omega))
  simp only [ReceivedInside, closed, udp, test, false_or, Bool.true_eq_false]

/-- The layer looks only at delivered bytes exactly when the delivery contains them. -/
theorem schcAlForwardUp_within :
    AllWithin (schcAlForwardUp library build state buffer dataSize writeFails).touched dataSize ↔
      ReceivedInside build state buffer dataSize := by
  have path := schcAlForwardUp_path library build state buffer dataSize writeFails
  generalize schcAlForwardUp library build state buffer dataSize writeFails = result at path
  have lengthFits := ipv6UdpPayloadLen_le buffer
  have outFits := upConversion_fits library state buffer
  cases path with
  | closed closed =>
      apply iff_of_true (allWithin_nil _)
      rcases closed with negative | empty
      · exact Or.inl negative
      · rw [empty]
        exact Or.inr (Or.inl rfl)
  | nonIpv6Udp opened other =>
      exact iff_of_true (isIpv6UdpPacketReads_within buffer dataSize) (Or.inr (Or.inl other))
  | nonCoapDropped opened udp other drop =>
      rw [receivedInside_accepted opened udp, classifyTouches_within udp]
      simp [other]
  | nonCoapSent opened udp other keep =>
      rw [receivedInside_accepted opened udp, writeTun_touched, allWithin_append, classifyTouches_within udp]
      simp [other, allWithin_cons, allWithin_nil]
  | plain opened udp coap disabled =>
      rw [receivedInside_accepted opened udp, writeTun_touched, allWithin_append, classifyTouches_within udp]
      simp [disabled, allWithin_cons, allWithin_nil]
  | notOscore opened udp coap enabled reported =>
      rw [receivedInside_accepted opened udp, writeTun_touched, allWithin_append, allWithin_append,
        classifyTouches_within udp, callTouches_within]
      simp [coap, enabled, allWithin_cons, allWithin_nil]
  | failed opened udp coap enabled failure other =>
      rw [receivedInside_accepted opened udp]
      show AllWithin (classifyTouches buffer dataSize ++ (upConversion library state.oscore buffer).call.touches)
        dataSize ↔ _
      rw [allWithin_append, classifyTouches_within udp, callTouches_within]
      simp [coap, enabled]
  | converted opened udp coap enabled success =>
      rw [receivedInside_accepted opened udp, writeTun_touched, List.append_assoc _ updateIp6UdpLenTouches,
        allWithin_append, allWithin_append, allWithin_append, classifyTouches_within udp, callTouches_within]
      simp only [coap, enabled, Bool.true_eq_false, false_or, allWithin_cons, allWithin_nil, and_true]
      constructor
      · exact fun inside => inside.1.1
      · rintro ⟨room, contained⟩
        have narrowed := Nat.mod_le (48 + (upConversion library state.oscore buffer).call.out.length) (2 ^ 16)
        exact ⟨⟨⟨room, contained⟩, updateTouches_within (by omega) (by omega)⟩, by omega⟩

/-- A successful delivery is looked at only inside its size exactly when the delivered bytes hold the byte after
the headers and, for a converted packet, the whole payload that the UDP length states. -/
theorem netDataReceived_within :
    (∀ result ∈ netDataReceived library build state buffer dataSize .success writeFails,
        AllWithin result.touched dataSize) ↔
      ReceivedInside build state buffer dataSize := by
  rw [← @schcAlForwardUp_within _ library build state buffer dataSize writeFails]
  constructor
  · exact fun every => every _ rfl
  · intro within result delivered
    rw [← Option.some.inj delivered]
    exact within

end Delivery

/-- This layer has an open TUN and no transmission. -/
def openLayer : SchcAl Unit := ⟨false, EventWord.none, 3, fun _ => 0, ⟨(), true⟩⟩

/-- The layer looks at one byte after a delivery whose UDP length states one byte too many. -/
theorem shortTailPacket_overread :
    ¬∀ result ∈ netDataReceived copyLibrary (proxyBuild true true) openLayer (packetMemory shortTailPacket) 49
      .success false, AllWithin result.touched 49 := by
  intro every
  have within := schcAlForwardUp_within.mp (every _ rfl)
  revert within
  decide

end SchcWork.Worker
