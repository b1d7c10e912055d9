import SchcWork.Library.BoundedMap
import SchcWork.Platform.WatchTable

namespace SchcWork.Platform

variable {Callback : Type}

/-- The abstract machine keeps at most eight pairs. -/
abbrev WatchMap (Callback : Type) := BoundedMap Int Callback maxWatchedFds

def tableCall (table : WatchTable Callback) : WatchCall Callback → Bool × WatchTable Callback
  | .watch fd callback => watchFdForInput table fd callback
  | .unwatch fd => unwatchFdForInput table fd

/-- A call of the abstract machine refuses a negative descriptor and otherwise works on the map. -/
def mapCall (store : WatchMap Callback) : WatchCall Callback → Bool × WatchMap Callback
  | .watch fd callback => if fd < 0 then (false, store) else store.add fd callback
  | .unwatch fd => store.remove fd

def mapAfter (history : List (WatchCall Callback)) : WatchMap Callback :=
  history.foldl (fun store call => (mapCall store call).2) BoundedMap.empty

/-- The map has exactly the pairs of the used slots. -/
structure Represents (table : WatchTable Callback) (store : WatchMap Callback) : Prop where
  formed : WellFormed table
  registered : ∀ fd callback, store.map.lookup fd = some callback ↔ ⟨fd, some callback⟩ ∈ entries table

theorem runCall_eq (table : WatchTable Callback) (call : WatchCall Callback) :
    runCall table call = (tableCall table call).2 := by
  cases call with
  | watch fd callback => rfl
  | unwatch fd => rfl

section Step

variable {table next : WatchTable Callback} {store : WatchMap Callback}

/-- A used slot has a callback. -/
theorem WellFormed.entry_eq (formed : WellFormed table) {entry : WatchedFd Callback} (listed : entry ∈ entries table) :
    ∃ callback, entry = ⟨entry.fd, some callback⟩ := by
  obtain ⟨idx, used, rfl⟩ := mem_entries.mp listed
  obtain ⟨callback, found⟩ := Option.isSome_iff_exists.mp ((formed.callable idx).mpr used)
  use callback
  rw [← found]

theorem Represents.mem_map (represents : Represents table store) (fd : Int) :
    fd ∈ store.map ↔ fd ∈ (entries table).map WatchedFd.fd := by
  rw [Finmap.mem_iff, List.mem_map]
  constructor
  · rintro ⟨callback, found⟩
    exact ⟨_, (represents.registered fd callback).mp found, rfl⟩
  · rintro ⟨entry, listed, rfl⟩
    obtain ⟨callback, shape⟩ := represents.formed.entry_eq listed
    rw [shape] at listed
    exact ⟨callback, (represents.registered _ callback).mpr listed⟩

/-- The used slots are as many as the keys. -/
theorem Represents.card_keys (represents : Represents table store) : store.map.keys.card = nbrFds table := by
  have sameKeys : store.map.keys = ((entries table).map WatchedFd.fd).toFinset := by
    ext fd
    rw [Finmap.mem_keys, List.mem_toFinset, represents.mem_map]
  rw [sameKeys, List.toFinset_card_of_nodup represents.formed.distinct, List.length_map, length_entries]

theorem Represents.absent (represents : Represents table store) {fd : Int}
    (fresh : ∀ entry ∈ entries table, entry.fd ≠ fd) : fd ∉ store.map := by
  rw [represents.mem_map, List.mem_map]
  rintro ⟨entry, listed, same⟩
  exact fresh entry listed same

/-- A pair that the table and the map add keeps them together. -/
theorem Represents.registers (represents : Represents table store) {fd : Int} {callback : Callback} (valid : 0 ≤ fd)
    (fresh : ∀ entry ∈ entries table, entry.fd ≠ fd) (registers : Registers table next fd callback)
    (above : ∀ idx, nbrFds table < idx → (next idx).cb = (table idx).cb)
    (accepted : (store.add fd callback).1 = true) : Represents next (store.add fd callback).2 where
  formed := registers.wellFormed represents.formed valid fresh above
  registered := by
    intro other found
    rw [BoundedMap.lookup_add accepted, registers.entries_eq, List.mem_append, List.mem_singleton]
    by_cases same : other = fd
    · subst same
      have unlisted : ⟨other, some found⟩ ∉ entries table := fun listed => fresh _ listed rfl
      rw [if_pos rfl]
      simp [unlisted, eq_comm]
    · rw [if_neg same, represents.registered]
      simp [same]

/-- A pair that the table and the map remove keeps them together. -/
theorem Represents.removes (represents : Represents table store) {idx : Nat} (used : idx < nbrFds table)
    (removes : Removes table next idx) (present : (store.remove (table idx).fd).1 = true) :
    Represents next (store.remove (table idx).fd).2 where
  formed := removes.wellFormed represents.formed used
  registered := by
    intro other found
    have removed := (List.nodup_cons.mp (removes.fds_nodup used represents.formed.distinct)).1
    rw [BoundedMap.lookup_remove present]
    by_cases same : other = (table idx).fd
    · rw [if_pos same]
      apply iff_of_false nofun
      intro listed
      apply removed
      rw [← same]
      exact List.mem_map_of_mem listed
    · rw [if_neg same, represents.registered, ← (removes.entries_perm used).mem_iff, List.mem_cons]
      have other : ⟨other, some found⟩ ≠ table idx := fun entry => same (congrArg WatchedFd.fd entry)
      simp [other]

/-- A registration has the same result on the table and on the map. -/
theorem Represents.watch (represents : Represents table store) (fd : Int) (callback : Callback) :
    (watchFdForInput table fd callback).1 = (mapCall store (.watch fd callback)).1 ∧
      Represents (watchFdForInput table fd callback).2 (mapCall store (.watch fd callback)).2 := by
  have path := watchFdForInput_path table fd callback
  rw [mapCall]
  generalize watchFdForInput table fd callback = result at path
  cases path with
  | refused reason =>
      by_cases negative : fd < 0
      · rw [if_pos negative]
        exact ⟨rfl, represents⟩
      · have refused : (store.add fd callback).1 = false := by
          rw [Bool.eq_false_iff, ne_eq, BoundedMap.add_result, represents.mem_map, represents.card_keys]
          rintro ⟨fresh, room⟩
          rcases reason with below | ⟨entry, listed, same⟩ | full
          · exact negative below
          · exact fresh (List.mem_map.mpr ⟨entry, listed, same⟩)
          · omega
        rw [if_neg negative, BoundedMap.add_refused callback refused]
        exact ⟨rfl, represents⟩
  | added valid fresh room next registers above =>
      have accepted : (store.add fd callback).1 = true := by
        rw [BoundedMap.add_result, represents.card_keys]
        exact ⟨represents.absent fresh, room⟩
      rw [if_neg (by omega)]
      exact ⟨accepted.symm, represents.registers valid fresh registers above accepted⟩

/-- A removal has the same result on the table and on the map. -/
theorem Represents.unwatch (represents : Represents table store) (fd : Int) :
    (unwatchFdForInput table fd).1 = (mapCall store (.unwatch fd)).1 ∧
      Represents (unwatchFdForInput table fd).2 (mapCall store (.unwatch fd)).2 := by
  have path := unwatchFdForInput_path table fd
  rw [mapCall]
  generalize unwatchFdForInput table fd = result at path
  cases path with
  | refused reason =>
      have refused : (store.remove fd).1 = false := by
        rw [Bool.eq_false_iff, ne_eq, BoundedMap.remove_result, represents.mem_map, List.mem_map]
        rintro ⟨entry, listed, same⟩
        rcases reason with negative | absent
        · have valid := represents.formed.valid entry listed
          omega
        · exact absent entry listed same
      rw [BoundedMap.remove_refused refused]
      exact ⟨rfl, represents⟩
  | removed idx used same next removes =>
      subst same
      have present : (store.remove (table idx).fd).1 = true := by
        rw [BoundedMap.remove_result, represents.mem_map]
        exact List.mem_map_of_mem (mem_entries.mpr ⟨idx, used, rfl⟩)
      exact ⟨present.symm, represents.removes used removes present⟩

/-- Each call has the same result on the table and on the map, and it keeps them together. -/
theorem Represents.call (represents : Represents table store) (call : WatchCall Callback) :
    (tableCall table call).1 = (mapCall store call).1 ∧
      Represents (tableCall table call).2 (mapCall store call).2 := by
  cases call with
  | watch fd callback => exact represents.watch fd callback
  | unwatch fd => exact represents.unwatch fd

/-- A registration adds its pair when it succeeds and changes no pair otherwise. -/
theorem mem_entries_watch (fd : Int) (callback : Callback) (entry : WatchedFd Callback) :
    entry ∈ entries (watchFdForInput table fd callback).2 ↔
      entry ∈ entries table ∨ (watchFdForInput table fd callback).1 = true ∧ entry = ⟨fd, some callback⟩ := by
  have path := watchFdForInput_path table fd callback
  generalize watchFdForInput table fd callback = result at path
  cases path with
  | refused reason => simp
  | added valid fresh room next registers above =>
      rw [registers.entries_eq, List.mem_append, List.mem_singleton]
      simp

/-- A removal takes its pair out when it succeeds and changes no pair otherwise. -/
theorem mem_entries_unwatch (formed : WellFormed table) (fd : Int) (entry : WatchedFd Callback) :
    entry ∈ entries (unwatchFdForInput table fd).2 ↔
      entry ∈ entries table ∧ ¬((unwatchFdForInput table fd).1 = true ∧ entry.fd = fd) := by
  have path := unwatchFdForInput_path table fd
  generalize unwatchFdForInput table fd = result at path
  cases path with
  | refused reason => simp
  | removed idx used same next removes =>
      have removed := (List.nodup_cons.mp (removes.fds_nodup used formed.distinct)).1
      rw [← (removes.entries_perm used).mem_iff, List.mem_cons]
      constructor
      · intro listed
        constructor
        · exact .inr listed
        · rintro ⟨-, sameFd⟩
          apply removed
          rw [same, ← sameFd]
          exact List.mem_map_of_mem listed
      · rintro ⟨rfl | listed, other⟩
        · exact absurd ⟨rfl, same⟩ other
        · exact listed

end Step

/-- The used slots in front of the first free one are the pairs of the map, and each call reports and changes what the
map reports and changes. -/
structure RefinesMap (table : WatchTable Callback) (store : WatchMap Callback) : Prop where
  distinct : ((entries table).map WatchedFd.fd).Nodup
  valid : ∀ entry ∈ entries table, 0 ≤ entry.fd
  full : (∀ idx, idx < maxWatchedFds → (table idx).fd ≠ -1) → (entries table).length = maxWatchedFds
  registered : ∀ fd callback, store.map.lookup fd = some callback ↔ ⟨fd, some callback⟩ ∈ entries table
  keys : ∀ fd, fd ∈ store.map ↔ fd ∈ (entries table).map WatchedFd.fd
  size : store.map.keys.card = (entries table).length
  results : ∀ call, (tableCall table call).1 = (mapCall store call).1
  watch_result : ∀ fd callback, (watchFdForInput table fd callback).1 = true ↔
    0 ≤ fd ∧ fd ∉ store.map ∧ store.map.keys.card < maxWatchedFds
  watch_pairs : ∀ fd callback entry, entry ∈ entries (watchFdForInput table fd callback).2 ↔
    entry ∈ entries table ∨ (watchFdForInput table fd callback).1 = true ∧ entry = ⟨fd, some callback⟩
  unwatch_result : ∀ fd, (unwatchFdForInput table fd).1 = true ↔ fd ∈ store.map
  unwatch_pairs : ∀ fd entry, entry ∈ entries (unwatchFdForInput table fd).2 ↔
    entry ∈ entries table ∧ ¬((unwatchFdForInput table fd).1 = true ∧ entry.fd = fd)

theorem Represents.refines {table : WatchTable Callback} {store : WatchMap Callback}
    (represents : Represents table store) : RefinesMap table store where
  distinct := represents.formed.distinct
  valid := represents.formed.valid
  full := by
    intro busy
    rw [length_entries]
    by_contra partly
    have room : nbrFds table < maxWatchedFds := Nat.lt_of_le_of_ne (nbrFds_le table) partly
    exact busy _ room (freeSlot room)
  registered := represents.registered
  keys := represents.mem_map
  size := by rw [represents.card_keys, length_entries]
  results := fun call => (represents.call call).1
  watch_result := by
    intro fd callback
    rw [(represents.watch fd callback).1, mapCall]
    split
    · rename_i negative
      exact iff_of_false Bool.false_ne_true fun accepted => by omega
    · rename_i valid
      rw [BoundedMap.add_result]
      exact (and_iff_right (Int.not_lt.mp valid)).symm
  watch_pairs := mem_entries_watch
  unwatch_result := by
    intro fd
    rw [(represents.unwatch fd).1, mapCall, BoundedMap.remove_result]
  unwatch_pairs := mem_entries_unwatch represents.formed

/-- After each sequence of calls the map has the pairs of the table. -/
theorem represents_after (history : List (WatchCall Callback)) :
    Represents (runCalls watchedFds history) (mapAfter history) := by
  have initial : Represents (watchedFds : WatchTable Callback) BoundedMap.empty := by
    constructor
    · exact watchedFds_wellFormed
    · intro fd callback
      exact iff_of_false nofun List.not_mem_nil
  apply List.foldl_rel initial
  intro call _ table store represents
  rw [runCall_eq]
  exact (represents.call call).2

/-- The table refines the map of the same calls. -/
theorem watchTable_refinesMap (history : List (WatchCall Callback)) :
    RefinesMap (runCalls watchedFds history) (mapAfter history) := (represents_after history).refines

end SchcWork.Platform
