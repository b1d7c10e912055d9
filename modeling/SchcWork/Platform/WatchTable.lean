import SchcWork.Library.SwapRemove
import Mathlib.Data.List.Nodup
import Mathlib.Logic.Function.Basic

namespace SchcWork.Platform

def maxWatchedFds : Nat := 8

/-- A slot holds a descriptor and its callback. The descriptor -1 ends the used slots. -/
structure WatchedFd (Callback : Type) where
  fd : Int
  cb : Option Callback

/-- The program uses the slots below `maxWatchedFds` only. -/
abbrev WatchTable (Callback : Type) := Nat → WatchedFd Callback

variable {Callback State : Type}

/-- The static initializer gives the first slot only, and the other slots are zero. -/
def watchedFds : WatchTable Callback := fun idx => if idx = 0 then ⟨-1, none⟩ else ⟨0, none⟩

/-- The search loop stops at the first slot that meets the test. -/
def firstSlot (stop : Nat → Bool) : Nat := (List.range maxWatchedFds).findIdx stop

def watchFdForInput (table : WatchTable Callback) (fd : Int) (callback : Callback) : Bool × WatchTable Callback :=
  if fd < 0 then (false, table)
  else
    let idx := firstSlot fun idx => (table idx).fd == -1 || (table idx).fd == fd
    if idx = maxWatchedFds ∨ (table idx).fd = fd then (false, table)
    else
      let table := Function.update table idx ⟨fd, some callback⟩
      if idx + 1 < maxWatchedFds then
        (true, Function.update table (idx + 1) { table (idx + 1) with fd := -1 })
      else (true, table)

/-- The second loop walks to the last used slot. -/
def lastSlot (table : WatchTable Callback) : (rounds last : Nat) → Nat
  | 0, last => last
  | rounds + 1, last =>
      if last + 1 < maxWatchedFds ∧ (table (last + 1)).fd ≠ -1 then lastSlot table rounds (last + 1) else last

def unwatchFdForInput (table : WatchTable Callback) (fd : Int) : Bool × WatchTable Callback :=
  if fd < 0 then (false, table)
  else
    let idx := firstSlot fun idx => (table idx).fd == -1 || (table idx).fd == fd
    if idx = maxWatchedFds ∨ (table idx).fd = -1 then (false, table)
    else
      let last := lastSlot table maxWatchedFds idx
      let table := Function.update table idx (table last)
      (true, Function.update table last ⟨-1, none⟩)

/-- This is the number of descriptors that a poll round passes to `poll`. -/
def nbrFds (table : WatchTable Callback) : Nat := firstSlot fun idx => (table idx).fd == -1

/-- `poll` reports nothing on a timeout or an error, and otherwise it reports the readable descriptors. -/
inductive PollResult where
  | nothing
  | ready (readable : Int → Bool)

/-- A callback runs when `poll` reports the descriptor that its slot had before the call. -/
def runSlot (table : State → WatchTable Callback) (call : Callback → State → State) (readable : Nat → Bool)
    (state : State) (idx : Nat) : State :=
  if readable idx then
    match (table state idx).cb with
    | some callback => call callback state
    | none => state
  else state

def platformEnterLowPowerLl (table : State → WatchTable Callback) (call : Callback → State → State)
    (poll : PollResult) (state : State) : State :=
  match poll with
  | .nothing => state
  | .ready readable =>
      let fds := fun idx => (table state idx).fd
      (List.range (nbrFds (table state))).foldl (runSlot table call fun idx => readable (fds idx)) state

theorem firstSlot_le (stop : Nat → Bool) : firstSlot stop ≤ maxWatchedFds := by
  have bound : firstSlot stop ≤ (List.range maxWatchedFds).length := List.findIdx_le_length
  rwa [List.length_range] at bound

theorem firstSlot_stops {stop : Nat → Bool} (found : firstSlot stop < maxWatchedFds) :
    stop (firstSlot stop) = true := by
  have inside : (List.range maxWatchedFds).findIdx stop < (List.range maxWatchedFds).length := by
    rwa [List.length_range]
  have holds : stop ((List.range maxWatchedFds).get ⟨(List.range maxWatchedFds).findIdx stop, inside⟩) = true :=
    List.findIdx_getElem
  rwa [List.get_eq_getElem, List.getElem_range] at holds

theorem firstSlot_before {stop : Nat → Bool} {idx : Nat} (before : idx < firstSlot stop) : stop idx = false := by
  have inside : idx < (List.range maxWatchedFds).length := by
    rw [List.length_range]
    exact Nat.lt_of_lt_of_le before (firstSlot_le stop)
  have fails := List.not_of_lt_findIdx before
  rwa [List.getElem_range] at fails

/-- The search result is the only slot that stops the loop with no earlier stop. -/
theorem firstSlot_eq {stop : Nat → Bool} {idx : Nat} (room : idx ≤ maxWatchedFds)
    (stops : idx < maxWatchedFds → stop idx = true) (before : ∀ earlier, earlier < idx → stop earlier = false) :
    firstSlot stop = idx := by
  apply Nat.le_antisymm
  · by_contra above
    have later : idx < firstSlot stop := Nat.lt_of_not_le above
    have inside := Nat.lt_of_lt_of_le later (firstSlot_le stop)
    rw [firstSlot_before later] at stops
    exact Bool.false_ne_true (stops inside)
  · by_contra above
    have earlier : firstSlot stop < idx := Nat.lt_of_not_le above
    have found := firstSlot_stops (Nat.lt_of_lt_of_le earlier room)
    rw [before _ earlier] at found
    exact Bool.false_ne_true found

/-- The entries are the used slots in order. -/
def entries (table : WatchTable Callback) : List (WatchedFd Callback) := (List.range (nbrFds table)).map table

theorem nbrFds_le (table : WatchTable Callback) : nbrFds table ≤ maxWatchedFds := firstSlot_le _

theorem length_entries (table : WatchTable Callback) : (entries table).length = nbrFds table := by
  rw [entries, List.length_map, List.length_range]

theorem getElem?_entries (table : WatchTable Callback) {idx : Nat} (inside : idx < nbrFds table) :
    (entries table)[idx]? = some (table idx) := by
  rw [entries, List.getElem?_map, List.getElem?_range inside, Option.map_some]

theorem mem_entries {table : WatchTable Callback} {entry : WatchedFd Callback} :
    entry ∈ entries table ↔ ∃ idx, idx < nbrFds table ∧ table idx = entry := by
  rw [entries, List.mem_map]
  simp only [List.mem_range]

/-- A used slot has a descriptor, and the search for a descriptor passes it when it has another one. -/
theorem usedSlot_ne {table : WatchTable Callback} {idx : Nat} (used : idx < nbrFds table) : (table idx).fd ≠ -1 := by
  simpa using firstSlot_before used

/-- The slot behind the used ones is free. -/
theorem freeSlot {table : WatchTable Callback} (room : nbrFds table < maxWatchedFds) :
    (table (nbrFds table)).fd = -1 := by
  have stops : ((table (nbrFds table)).fd == -1) = true := firstSlot_stops room
  simpa using stops

/-- A search for a descriptor ends at its first entry, or behind the entries when there is none. -/
inductive SearchResult (table : WatchTable Callback) (fd : Int) : Nat → Prop where
  | found (idx : Nat) (used : idx < nbrFds table) (same : (table idx).fd = fd) : SearchResult table fd idx
  | absent (none : ∀ entry ∈ entries table, entry.fd ≠ fd) : SearchResult table fd (nbrFds table)

theorem firstSlot_search (table : WatchTable Callback) (fd : Int) :
    SearchResult table fd (firstSlot fun idx => (table idx).fd == -1 || (table idx).fd == fd) := by
  by_cases found : (firstSlot fun idx => (table idx).fd == -1 || (table idx).fd == fd) < nbrFds table
  · apply SearchResult.found _ found
    have stops := firstSlot_stops (Nat.lt_of_lt_of_le found (nbrFds_le table))
    simpa [usedSlot_ne found] using stops
  · have none (idx : Nat) (used : idx < nbrFds table) : (table idx).fd ≠ fd := by
      have passed := firstSlot_before (Nat.lt_of_lt_of_le used (Nat.le_of_not_lt found))
      exact fun same => by simp [same] at passed
    have ends : (firstSlot fun idx => (table idx).fd == -1 || (table idx).fd == fd) = nbrFds table := by
      apply firstSlot_eq (nbrFds_le table)
      · intro room
        simp [freeSlot room]
      · intro idx used
        simp [usedSlot_ne used, none idx used]
    rw [ends]
    apply SearchResult.absent
    intro entry member
    obtain ⟨idx, used, rfl⟩ := mem_entries.mp member
    exact none idx used

/-- A successful registration fills the first free slot and keeps the used slots. -/
structure Registers (table next : WatchTable Callback) (fd : Int) (callback : Callback) : Prop where
  count : nbrFds next = nbrFds table + 1
  added : next (nbrFds table) = ⟨fd, some callback⟩
  kept : ∀ idx, idx < nbrFds table → next idx = table idx

/-- A table that fills the first free slot and frees the next one registers the descriptor. -/
theorem registers_of_slot {table next : WatchTable Callback} {fd : Int} {callback : Callback} (valid : fd ≠ -1)
    (room : nbrFds table < maxWatchedFds) (added : next (nbrFds table) = ⟨fd, some callback⟩)
    (kept : ∀ idx, idx < nbrFds table → next idx = table idx)
    (freed : nbrFds table + 1 < maxWatchedFds → (next (nbrFds table + 1)).fd = -1) :
    Registers table next fd callback := by
  refine ⟨?_, added, kept⟩
  apply firstSlot_eq (by omega)
  · intro more
    simp [freed more]
  · intro earlier before
    by_cases last : earlier = nbrFds table
    · rw [last, added]
      simpa using valid
    · rw [kept earlier (by omega)]
      exact firstSlot_before (by change earlier < nbrFds table; omega)

/-- Each constructor is one outcome of a registration with its guards. -/
inductive WatchPath (table : WatchTable Callback) (fd : Int) (callback : Callback) :
    Bool × WatchTable Callback → Prop where
  | refused (reason : fd < 0 ∨ (∃ entry ∈ entries table, entry.fd = fd) ∨ nbrFds table = maxWatchedFds) :
      WatchPath table fd callback (false, table)
  | added (valid : 0 ≤ fd) (fresh : ∀ entry ∈ entries table, entry.fd ≠ fd) (room : nbrFds table < maxWatchedFds)
      (next : WatchTable Callback) (registers : Registers table next fd callback)
      (above : ∀ idx, nbrFds table < idx → (next idx).cb = (table idx).cb) :
      WatchPath table fd callback (true, next)

theorem watchFdForInput_path (table : WatchTable Callback) (fd : Int) (callback : Callback) :
    WatchPath table fd callback (watchFdForInput table fd callback) := by
  have search := firstSlot_search table fd
  unfold watchFdForInput
  split
  · rename_i negative
    exact .refused (.inl negative)
  · rename_i valid
    generalize (firstSlot fun idx => (table idx).fd == -1 || (table idx).fd == fd) = slot at search
    dsimp only
    cases search with
    | found idx used same =>
        rw [if_pos (.inr same)]
        exact .refused (.inr (.inl ⟨_, mem_entries.mpr ⟨_, used, rfl⟩, same⟩))
    | absent none =>
        by_cases full : nbrFds table = maxWatchedFds
        · rw [if_pos (.inl full)]
          exact .refused (.inr (.inr full))
        · have room : nbrFds table < maxWatchedFds := Nat.lt_of_le_of_ne (nbrFds_le table) full
          have free := freeSlot room
          rw [if_neg (not_or.mpr ⟨full, by omega⟩)]
          have kept (idx : Nat) (used : idx < nbrFds table) :
              Function.update table (nbrFds table) ⟨fd, some callback⟩ idx = table idx := by
            rw [Function.update_of_ne (by omega)]
          split
          · apply WatchPath.added (by omega) none room
            · apply registers_of_slot (by omega) room
              · simp
              · intro idx used
                rw [Function.update_of_ne (by omega), kept idx used]
              · intro _
                simp
            · intro idx behind
              by_cases next : idx = nbrFds table + 1
              · subst next
                rw [Function.update_self, Function.update_of_ne (by omega)]
              · rw [Function.update_of_ne next, Function.update_of_ne (by omega)]
          · rename_i last
            apply WatchPath.added (by omega) none room
            · apply registers_of_slot (by omega) room
              · simp
              · exact kept
              · exact fun more => absurd more last
            · intro idx behind
              rw [Function.update_of_ne (by omega)]

theorem watchFdForInput_registers {table : WatchTable Callback} {fd : Int} {callback : Callback}
    (watched : (watchFdForInput table fd callback).1 = true) :
    Registers table (watchFdForInput table fd callback).2 fd callback := by
  have path := watchFdForInput_path table fd callback
  generalize watchFdForInput table fd callback = result at path watched
  cases path with
  | refused reason => cases watched
  | added valid fresh room next registers above => exact registers

/-- A registration appends one entry. -/
theorem Registers.entries_eq {table next : WatchTable Callback} {fd : Int} {callback : Callback}
    (registers : Registers table next fd callback) : entries next = entries table ++ [⟨fd, some callback⟩] := by
  rw [entries, registers.count, List.range_succ, List.map_append, List.map_singleton, registers.added, entries]
  congr 1
  apply List.map_congr_left
  intro idx member
  exact registers.kept idx (List.mem_range.mp member)

/-- A fresh descriptor keeps the descriptors distinct. -/
theorem Registers.fds_nodup {table next : WatchTable Callback} {fd : Int} {callback : Callback}
    (registers : Registers table next fd callback) (distinct : ((entries table).map WatchedFd.fd).Nodup)
    (fresh : ∀ entry ∈ entries table, entry.fd ≠ fd) : ((entries next).map WatchedFd.fd).Nodup := by
  rw [registers.entries_eq, List.map_append, List.map_singleton]
  apply List.Nodup.append distinct (List.nodup_singleton fd)
  intro other member same
  obtain ⟨entry, listed, rfl⟩ := List.mem_map.mp member
  exact fresh entry listed (List.mem_singleton.mp same)

/-- A property of the earlier entries and of the new one holds of every entry. -/
theorem Registers.forall_entries {table next : WatchTable Callback} {fd : Int} {callback : Callback}
    {property : WatchedFd Callback → Prop} (registers : Registers table next fd callback)
    (kept : ∀ entry ∈ entries table, property entry) (added : property ⟨fd, some callback⟩) :
    ∀ entry ∈ entries next, property entry := by
  intro entry member
  rw [registers.entries_eq, List.mem_append, List.mem_singleton] at member
  rcases member with before | rfl
  · exact kept entry before
  · exact added

/-- A removal moves the last entry into the hole, frees the last place and keeps every other slot. -/
structure Removes (table next : WatchTable Callback) (idx : Nat) : Prop where
  count : nbrFds next + 1 = nbrFds table
  moved : ∀ slot, slot < nbrFds next → next slot = if slot = idx then table (nbrFds next) else table slot
  freed : next (nbrFds next) = ⟨-1, none⟩
  above : ∀ slot, nbrFds next < slot → next slot = table slot

/-- The second loop ends at the last entry. -/
theorem lastSlot_eq (table : WatchTable Callback) {rounds last : Nat} (used : last < nbrFds table)
    (enough : nbrFds table ≤ last + 1 + rounds) : lastSlot table rounds last + 1 = nbrFds table := by
  induction rounds generalizing last with
  | zero =>
      rw [lastSlot]
      omega
  | succ rounds ih =>
      rw [lastSlot]
      by_cases more : last + 1 < nbrFds table
      · have bound := nbrFds_le table
        rw [if_pos ⟨by omega, usedSlot_ne more⟩]
        exact ih more (by omega)
      · have whole : nbrFds table = last + 1 := by omega
        have ends : ¬(last + 1 < maxWatchedFds ∧ (table (last + 1)).fd ≠ -1) := by
          rintro ⟨room, busy⟩
          rw [← whole] at room busy
          exact busy (freeSlot room)
        rw [if_neg ends, whole]

theorem removes_of_updates {table : WatchTable Callback} {idx last : Nat} (used : idx < nbrFds table)
    (whole : last + 1 = nbrFds table) :
    Removes table (Function.update (Function.update table idx (table last)) last ⟨-1, none⟩) idx := by
  have slots (slot : Nat) (before : slot < last) :
      Function.update (Function.update table idx (table last)) last ⟨-1, none⟩ slot =
        if slot = idx then table last else table slot := by
    rw [Function.update_of_ne (by omega), Function.update_apply]
  have bound := nbrFds_le table
  have busy (slot : Nat) (used : slot < nbrFds table) : (table slot).fd ≠ -1 := usedSlot_ne used
  have count : nbrFds (Function.update (Function.update table idx (table last)) last ⟨-1, none⟩) = last := by
    apply firstSlot_eq (by omega)
    · intro _
      simp
    · intro slot before
      rw [slots slot before]
      split
      · simpa using busy last (by omega)
      · simpa using busy slot (by omega)
  refine ⟨by rw [count, whole], ?_, ?_, ?_⟩
  · intro slot before
    rw [count] at before ⊢
    exact slots slot before
  · rw [count, Function.update_self]
  · intro slot behind
    rw [count] at behind
    rw [Function.update_of_ne (by omega), Function.update_of_ne (by omega)]

/-- Each constructor is one outcome of a removal with its guards. -/
inductive UnwatchPath (table : WatchTable Callback) (fd : Int) : Bool × WatchTable Callback → Prop where
  | refused (reason : fd < 0 ∨ ∀ entry ∈ entries table, entry.fd ≠ fd) : UnwatchPath table fd (false, table)
  | removed (idx : Nat) (used : idx < nbrFds table) (same : (table idx).fd = fd) (next : WatchTable Callback)
      (removes : Removes table next idx) : UnwatchPath table fd (true, next)

theorem unwatchFdForInput_path (table : WatchTable Callback) (fd : Int) :
    UnwatchPath table fd (unwatchFdForInput table fd) := by
  have search := firstSlot_search table fd
  unfold unwatchFdForInput
  split
  · rename_i negative
    exact .refused (.inl negative)
  · rename_i valid
    generalize (firstSlot fun idx => (table idx).fd == -1 || (table idx).fd == fd) = slot at search
    dsimp only
    cases search with
    | found idx used same =>
        have bound := nbrFds_le table
        rw [if_neg (not_or.mpr ⟨by omega, by omega⟩)]
        exact .removed slot used same _ (removes_of_updates used (lastSlot_eq table used (by omega)))
    | absent none =>
        have ends : nbrFds table = maxWatchedFds ∨ (table (nbrFds table)).fd = -1 := by
          by_cases full : nbrFds table = maxWatchedFds
          · exact .inl full
          · exact .inr (freeSlot (Nat.lt_of_le_of_ne (nbrFds_le table) full))
        rw [if_pos ends]
        exact .refused (.inr none)

/-- A removal takes one entry out of the list. -/
theorem Removes.entries_eq {table next : WatchTable Callback} {idx : Nat} (removes : Removes table next idx) :
    entries next = SwapRemove.swapRemove (entries table) idx := by
  have count := removes.count
  apply List.ext_getElem?
  intro slot
  by_cases before : slot < nbrFds next
  · have last : (entries table).getLast? = some (table (nbrFds next)) := by
      rw [List.getLast?_eq_getElem?, length_entries, ← count]
      exact getElem?_entries table (by omega)
    rw [getElem?_entries next before, removes.moved slot before,
      SwapRemove.getElem?_swapRemove _ (by rw [length_entries]; omega), last, getElem?_entries table (by omega)]
    split
    · rfl
    · rfl
  · rw [List.getElem?_eq_none (by rw [length_entries]; omega),
      List.getElem?_eq_none (by rw [SwapRemove.length_swapRemove, length_entries]; omega)]

/-- The removed entry and the remaining ones are the entries of the table. -/
theorem Removes.entries_perm {table next : WatchTable Callback} {idx : Nat} (used : idx < nbrFds table)
    (removes : Removes table next idx) : (table idx :: entries next).Perm (entries table) := by
  have inside : idx < (entries table).length := by rwa [length_entries]
  have entry : (entries table)[idx] = table idx := by
    have found := getElem?_entries table used
    rw [List.getElem?_eq_getElem inside] at found
    exact Option.some.inj found
  rw [removes.entries_eq, ← entry]
  exact SwapRemove.perm_cons_swapRemove _ inside

/-- The removed descriptor and the remaining ones stay distinct. -/
theorem Removes.fds_nodup {table next : WatchTable Callback} {idx : Nat} (used : idx < nbrFds table)
    (removes : Removes table next idx) (distinct : ((entries table).map WatchedFd.fd).Nodup) :
    ((table idx).fd :: (entries next).map WatchedFd.fd).Nodup :=
  ((removes.entries_perm used).map WatchedFd.fd).nodup_iff.mpr distinct

theorem Removes.mem_entries {table next : WatchTable Callback} {idx : Nat} (used : idx < nbrFds table)
    (removes : Removes table next idx) {entry : WatchedFd Callback} (member : entry ∈ entries next) :
    entry ∈ entries table :=
  (removes.entries_perm used).subset (List.mem_cons_of_mem _ member)

inductive WatchCall (Callback : Type) where
  | watch (fd : Int) (callback : Callback)
  | unwatch (fd : Int)
  deriving Repr, DecidableEq

def runCall (table : WatchTable Callback) : WatchCall Callback → WatchTable Callback
  | .watch fd callback => (watchFdForInput table fd callback).2
  | .unwatch fd => (unwatchFdForInput table fd).2

def runCalls (table : WatchTable Callback) (calls : List (WatchCall Callback)) : WatchTable Callback :=
  calls.foldl runCall table

/-- The entries have distinct descriptors and callbacks, and no other slot has a callback. -/
structure WellFormed (table : WatchTable Callback) : Prop where
  distinct : ((entries table).map WatchedFd.fd).Nodup
  valid : ∀ entry ∈ entries table, 0 ≤ entry.fd
  callable : ∀ idx, (table idx).cb.isSome = true ↔ idx < nbrFds table

/-- Two entries with one descriptor are the same entry. -/
theorem WellFormed.fd_injective {table : WatchTable Callback} (formed : WellFormed table) {first second : Nat}
    (firstUsed : first < nbrFds table) (secondUsed : second < nbrFds table)
    (same : (table first).fd = (table second).fd) : first = second := by
  have distinct := formed.distinct
  rw [entries, List.map_map] at distinct
  exact List.inj_on_of_nodup_map distinct (List.mem_range.mpr firstUsed) (List.mem_range.mpr secondUsed) same

theorem watchedFds_wellFormed : WellFormed (watchedFds : WatchTable Callback) where
  distinct := List.nodup_nil
  valid := by
    intro entry member
    cases member
  callable := by
    intro idx
    have noCallback : ((watchedFds : WatchTable Callback) idx).cb = none := by
      unfold watchedFds
      split
      · rfl
      · rfl
    have empty : nbrFds (watchedFds : WatchTable Callback) = 0 := rfl
    rw [noCallback, empty]
    simp

theorem Registers.wellFormed {table next : WatchTable Callback} {fd : Int} {callback : Callback}
    (formed : WellFormed table) (registers : Registers table next fd callback) (valid : 0 ≤ fd)
    (fresh : ∀ entry ∈ entries table, entry.fd ≠ fd)
    (above : ∀ idx, nbrFds table < idx → (next idx).cb = (table idx).cb) : WellFormed next where
  distinct := registers.fds_nodup formed.distinct fresh
  valid := registers.forall_entries formed.valid valid
  callable := by
    intro idx
    rw [registers.count]
    rcases Nat.lt_trichotomy idx (nbrFds table) with before | rfl | behind
    · rw [registers.kept idx before, formed.callable]
      omega
    · rw [registers.added]
      simp
    · rw [above idx behind, formed.callable]
      omega

theorem Removes.wellFormed {table next : WatchTable Callback} {idx : Nat} (formed : WellFormed table)
    (used : idx < nbrFds table) (removes : Removes table next idx) : WellFormed next where
  distinct := (List.nodup_cons.mp (removes.fds_nodup used formed.distinct)).2
  valid := fun entry member => formed.valid entry (removes.mem_entries used member)
  callable := by
    intro slot
    have count := removes.count
    rcases Nat.lt_trichotomy slot (nbrFds next) with before | rfl | behind
    · rw [removes.moved slot before]
      split
      · rw [formed.callable]
        omega
      · rw [formed.callable]
        omega
    · rw [removes.freed]
      simp
    · rw [removes.above slot behind, formed.callable]
      omega

theorem runCall_wellFormed {table : WatchTable Callback} (formed : WellFormed table) (call : WatchCall Callback) :
    WellFormed (runCall table call) := by
  cases call with
  | watch fd callback =>
      have path := watchFdForInput_path table fd callback
      rw [runCall]
      generalize watchFdForInput table fd callback = result at path
      cases path with
      | refused reason => exact formed
      | added valid fresh room next registers above => exact registers.wellFormed formed valid fresh above
  | unwatch fd =>
      have path := unwatchFdForInput_path table fd
      rw [runCall]
      generalize unwatchFdForInput table fd = result at path
      cases path with
      | refused reason => exact formed
      | removed idx used same next removes => exact removes.wellFormed formed used

/-- Each sequence of calls keeps the table well formed. -/
theorem runCalls_wellFormed {table : WatchTable Callback} (formed : WellFormed table)
    (calls : List (WatchCall Callback)) : WellFormed (runCalls table calls) := by
  induction calls generalizing table with
  | nil => exact formed
  | cons call rest ih => exact ih (runCall_wellFormed formed call)

/-- A property that each reported callback keeps holds after the round. -/
theorem platformEnterLowPowerLl_invariant {property : State → Prop} {table : State → WatchTable Callback}
    {call : Callback → State → State} {poll : PollResult} {state : State} (base : property state)
    (step : ∀ readable current idx callback, poll = .ready readable → idx < nbrFds (table state) →
      readable (table state idx).fd = true → (table current idx).cb = some callback → property current →
      property (call callback current)) :
    property (platformEnterLowPowerLl table call poll state) := by
  cases poll with
  | nothing => exact base
  | ready readable =>
      have slots : ∀ indices : List Nat, (∀ idx ∈ indices, idx < nbrFds (table state)) → ∀ current, property current →
          property (indices.foldl (runSlot table call fun idx => readable (table state idx).fd) current) := by
        intro indices
        induction indices with
        | nil => exact fun _ current holds => holds
        | cons idx rest ih =>
            intro inside current holds
            apply ih fun other member => inside other (List.mem_cons_of_mem _ member)
            unfold runSlot
            split
            · rename_i reported
              split
              · rename_i callback found
                exact step readable current idx callback rfl (inside idx (by simp)) reported found holds
              · exact holds
            · exact holds
      exact slots _ (fun idx member => List.mem_range.mp member) state base

end SchcWork.Platform
