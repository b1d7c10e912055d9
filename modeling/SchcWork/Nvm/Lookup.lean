import SchcWork.Nvm.Scan

namespace SchcWork.Nvm

open Worker

/-- This is one call of `nvm_write_ssn` with its surroundings. -/
structure WriteCall where
  stack : Stack
  stream : Stream
  key : NvmKey
  ssn : UInt64

namespace WriteCall

def run (call : WriteCall) (file : NvmFile) : Err × NvmFile :=
  nvmWriteSsn call.stack call.stream call.key call.ssn file

/-- This is the number of digits that the call leaves in the file. -/
def digitsStored (call : WriteCall) : Nat :=
  match call.stream with
  | .refused => 0
  | .keeps count => min (count - (recordHead call.stack call.key).length) (ssnDigits call.ssn).length

/-- A call stores its record exactly when it returns `ok`. -/
def Stores (call : WriteCall) : Prop := call.stream ≠ .refused

instance (call : WriteCall) : Decidable call.Stores := inferInstanceAs (Decidable (call.stream ≠ .refused))

/-- The number survives in the file when every digit is there and 32 bits hold it. -/
def Recoverable (call : WriteCall) : Prop :=
  call.digitsStored = (ssnDigits call.ssn).length ∧ call.ssn.toNat < 2 ^ 32

theorem run_ok (call : WriteCall) (file : NvmFile) : (call.run file).1 = .ok ↔ call.Stores := by
  unfold run nvmWriteSsn Stores
  cases call.stream with
  | refused => simp
  | keeps count => simp

theorem run_file_refused (call : WriteCall) (file : NvmFile) (refused : ¬call.Stores) : (call.run file).2 = file := by
  simp only [run, nvmWriteSsn, not_not.mp refused]

/-- A call that stores its record replaces whatever the file held. -/
theorem run_file (call : WriteCall) (first second : NvmFile) (stores : call.Stores) :
    (call.run first).2 = (call.run second).2 := by
  unfold Stores at stores
  unfold run nvmWriteSsn
  cases opened : call.stream with
  | refused => exact absurd opened stores
  | keeps count => rfl

end WriteCall

/-- This is the file after a sequence of writes. -/
def fileAfter (file : NvmFile) (calls : List WriteCall) : NvmFile :=
  calls.foldl (fun file call => (call.run file).2) file

/-- This is the call whose record is in the file. -/
def lastStored (calls : List WriteCall) : Option WriteCall := (calls.filter fun call => call.Stores).getLast?

/-- The file holds the record of the last call that stored one, whatever it held before. -/
theorem fileAfter_eq (file : NvmFile) (calls : List WriteCall) :
    fileAfter file calls = match lastStored calls with
      | none => file
      | some owner => (owner.run file).2 := by
  induction calls using List.reverseRecOn with
  | nil => rfl
  | append_singleton calls last ih =>
      rw [fileAfter, List.foldl_append, List.foldl_cons, List.foldl_nil]
      by_cases stores : last.Stores
      · have found : lastStored (calls ++ [last]) = some last := by
          simp [lastStored, List.filter_append, stores]
        rw [found]
        exact last.run_file _ _ stores
      · have found : lastStored (calls ++ [last]) = lastStored calls := by
          simp [lastStored, List.filter_append, stores]
        rw [found, ← ih, last.run_file_refused _ stores]
        rfl

theorem lastStored_stores {calls : List WriteCall} {owner : WriteCall} (last : lastStored calls = some owner) :
    owner.Stores := by
  have inside := List.mem_of_getLast? last
  simpa using (List.mem_filter.mp inside).2

section Readers

variable (stack : Stack) (stream : Stream) (reader : NvmKey)

/-- A reader that follows a write sees one of three things, whatever its own key is. -/
inductive Observed (call : WriteCall) : SsnResult → Prop where
  | nothing (file : NvmFile) (missing : call.digitsStored = 0) : Observed call ⟨.oscoreSsnOverflow, none, file⟩
  | smaller (file : NvmFile) (number : Nat) (below : number < call.ssn.toNat) (present : call.digitsStored ≠ 0)
      (torn : call.digitsStored ≠ (ssnDigits call.ssn).length) : Observed call ⟨.ok, some (number % 2 ^ 32), file⟩
  | whole (file : NvmFile) (complete : call.digitsStored = (ssnDigits call.ssn).length) :
      Observed call ⟨.ok, some (call.ssn.toNat % 2 ^ 32), file⟩

theorem ssnDigits_pos (ssn : UInt64) : 0 < (ssnDigits ssn).length := Nat.length_toDigits_pos

/-- The three cases follow the number of stored digits. -/
theorem nvmReadSsn_observed (call : WriteCall) (file : NvmFile) (stores : call.Stores) :
    Observed call (nvmReadSsn stack .opens stream reader (call.run file).2) := by
  cases opened : call.stream with
  | refused => exact absurd opened stores
  | keeps count =>
      have written : (call.run file).2 = some ((record call.stack call.key call.ssn).take count) := by
        simp only [WriteCall.run, nvmWriteSsn, opened]
      have stored : call.digitsStored =
          min (count - (recordHead call.stack call.key).length) (ssnDigits call.ssn).length := by
        simp only [WriteCall.digitsStored, opened]
      have positive := ssnDigits_pos call.ssn
      rw [written]
      rcases Nat.lt_or_ge (recordHead call.stack call.key).length count with long | short
      · rcases Nat.lt_or_ge count (digitsEnd call.stack call.key call.ssn) with cut | complete
        · obtain ⟨number, below, result⟩ :=
            nvmReadSsn_torn call.stack stack stream reader call.key call.ssn count long cut
          unfold digitsEnd at cut
          rw [result]
          exact .smaller _ number below (by omega) (by omega)
        · rw [nvmReadSsn_whole call.stack stack stream reader call.key call.ssn count complete]
          unfold digitsEnd at complete
          exact .whole _ (by omega)
      · rw [nvmReadSsn_headOnly call.stack stack stream reader call.key call.ssn count short]
        exact .nothing _ (by omega)

/-- A reader succeeds exactly when some digit is in the file. -/
theorem nvmReadSsn_ok (call : WriteCall) (file : NvmFile) (stores : call.Stores) :
    (nvmReadSsn stack .opens stream reader (call.run file).2).err = .ok ↔ call.digitsStored ≠ 0 := by
  have positive := ssnDigits_pos call.ssn
  have observed := nvmReadSsn_observed stack stream reader call file stores
  generalize nvmReadSsn stack .opens stream reader (call.run file).2 = result at observed ⊢
  cases observed with
  | nothing file missing => simp [missing]
  | smaller file number below present torn => simp [present]
  | whole file complete =>
      simp only [true_iff]
      omega

/-- A reader gets the stored number exactly when the number is recoverable. -/
theorem nvmReadSsn_exact (call : WriteCall) (file : NvmFile) (stores : call.Stores) :
    (nvmReadSsn stack .opens stream reader (call.run file).2).ssn = some call.ssn.toNat ↔ call.Recoverable := by
  have positive := ssnDigits_pos call.ssn
  have observed := nvmReadSsn_observed stack stream reader call file stores
  unfold WriteCall.Recoverable
  generalize nvmReadSsn stack .opens stream reader (call.run file).2 = result at observed ⊢
  cases observed with
  | nothing file missing =>
      simp only [reduceCtorEq, false_iff, missing]
      omega
  | smaller file number below present torn =>
      have wrapped := Nat.mod_le number (2 ^ 32)
      simp only [Option.some.injEq, torn, false_and, iff_false]
      omega
  | whole file complete =>
      simp only [Option.some.injEq, complete, true_and]
      constructor
      · intro same
        rw [← same]
        exact Nat.mod_lt _ (by decide)
      · exact Nat.mod_eq_of_lt

/-- A stored record is returned only to the key that it was written for. -/
structure KeyedLookup (file : NvmFile) (calls : List WriteCall) : Prop where
  hidden : ∀ owner, lastStored calls = some owner → reader ≠ owner.key →
    ¬((nvmReadSsn stack .opens stream reader (fileAfter file calls)).err = .ok ∧
      (nvmReadSsn stack .opens stream reader (fileAfter file calls)).ssn = some owner.ssn.toNat)
  matched : ∀ owner, lastStored calls = some owner →
    (nvmReadSsn stack .opens stream reader (fileAfter file calls)).err = .ok → reader = owner.key

/-- The lookup respects keys only when the reader owns the record or the record has no digit. -/
theorem keyedLookup_iff (file : NvmFile) (calls : List WriteCall) :
    KeyedLookup stack stream reader file calls ↔
      ∀ owner, lastStored calls = some owner → reader = owner.key ∨ owner.digitsStored = 0 := by
  have result : ∀ owner, lastStored calls = some owner →
      ((nvmReadSsn stack .opens stream reader (fileAfter file calls)).err = .ok ↔ owner.digitsStored ≠ 0) := by
    intro owner last
    have stored := fileAfter_eq file calls
    rw [last] at stored
    rw [stored]
    exact nvmReadSsn_ok stack stream reader owner file (lastStored_stores last)
  constructor
  · intro lookup owner last
    by_cases missing : owner.digitsStored = 0
    · exact Or.inr missing
    · exact Or.inl (lookup.matched owner last ((result owner last).mpr missing))
  · intro allowed
    refine ⟨fun owner last foreign found => ?_, fun owner last success => ?_⟩
    · rcases allowed owner last with own | missing
      · exact foreign own
      · exact (result owner last).mp found.1 missing
    · rcases allowed owner last with own | missing
      · exact own
      · exact absurd missing ((result owner last).mp success)

/-- Without a stream the reader stores and returns the number zero, or it fails. -/
theorem nvmReadSsn_refused (file : NvmFile) :
    ((nvmReadSsn stack .refuses stream reader file).err = .ok ↔ stream ≠ .refused) ∧
      (nvmReadSsn stack .refuses stream reader file).ssn = some 0 := by
  cases stream with
  | refused => exact ⟨⟨nofun, fun kept => absurd rfl kept⟩, rfl⟩
  | keeps count => exact ⟨⟨fun _ => nofun, fun _ => rfl⟩, rfl⟩

/-- A successful write is followed by a successful read of the same number. -/
def RoundTrips (opening : Opening) (file : NvmFile) (call : WriteCall) : Prop :=
  (call.run file).1 = .ok →
    (nvmReadSsn stack opening stream call.key (call.run file).2).err = .ok ∧
      (nvmReadSsn stack opening stream call.key (call.run file).2).ssn = some call.ssn.toNat

/-- The reader gets the number from the file, or it cannot open the file and the number is the one it stores. -/
def ReadBack (opening : Opening) (call : WriteCall) : Prop :=
  (opening = .opens ∧ call.Recoverable) ∨ (opening = .refuses ∧ stream ≠ .refused ∧ call.ssn = 0)

/-- The number comes back exactly when the reader opens the file, every digit is stored and the number fits 32 bits,
or when the reader stores the number zero itself. -/
theorem roundTrips_iff (opening : Opening) (file : NvmFile) (call : WriteCall) :
    RoundTrips stack stream opening file call ↔ (call.Stores → ReadBack stream opening call) := by
  unfold RoundTrips
  rw [call.run_ok file]
  apply imp_congr_right
  intro stores
  cases opening with
  | opens =>
      have positive := ssnDigits_pos call.ssn
      have success := nvmReadSsn_ok stack stream call.key call file stores
      have number := nvmReadSsn_exact stack stream call.key call file stores
      have complete : call.Recoverable → call.digitsStored ≠ 0 := by
        intro recoverable
        have whole := recoverable.1
        omega
      simp only [ReadBack, success, number, true_and, reduceCtorEq, false_and, or_false]
      exact ⟨fun back => back.2, fun recoverable => ⟨complete recoverable, recoverable⟩⟩
  | refuses =>
      obtain ⟨success, zero⟩ := nvmReadSsn_refused stack stream call.key (call.run file).2
      have same : some 0 = some call.ssn.toNat ↔ call.ssn = 0 := by
        rw [Option.some.injEq, ← UInt64.toNat_inj]
        exact eq_comm
      simp only [ReadBack, success, zero, same, reduceCtorEq, false_and, false_or, true_and]

/-- A reader of a torn record returns an error or the number of the record. -/
def TornSafe (writer : Stack) (key : NvmKey) (ssn : UInt64) (cut : Nat) : Prop :=
  (nvmReadSsn stack .opens stream key (some ((record writer key ssn).take cut))).err ≠ .ok ∨
    (nvmReadSsn stack .opens stream key (some ((record writer key ssn).take cut))).ssn = some ssn.toNat

/-- A cut is harmless only before the first digit, or after the last digit of a 32-bit number. -/
theorem tornSafe_iff (writer : Stack) (key : NvmKey) (ssn : UInt64) (cut : Nat) :
    TornSafe stack stream writer key ssn cut ↔
      cut ≤ (recordHead writer key).length ∨ (digitsEnd writer key ssn ≤ cut ∧ ssn.toNat < 2 ^ 32) := by
  have positive := ssnDigits_pos ssn
  unfold TornSafe
  rcases Nat.lt_or_ge (recordHead writer key).length cut with long | short
  · rcases Nat.lt_or_ge cut (digitsEnd writer key ssn) with torn | complete
    · obtain ⟨number, below, result⟩ := nvmReadSsn_torn writer stack stream key key ssn cut long torn
      have wrapped := Nat.mod_le number (2 ^ 32)
      simp only [result, ne_eq, not_true_eq_false, false_or, Option.some.injEq]
      omega
    · have result := nvmReadSsn_whole writer stack stream key key ssn cut complete
      simp only [result, ne_eq, not_true_eq_false, false_or, Option.some.injEq]
      omega
  · have result := nvmReadSsn_headOnly writer stack stream key key ssn cut short
    simp only [result, ne_eq, reduceCtorEq, not_false_eq_true, true_or, short]

end Readers

/-- The key of the device has one identifier byte. -/
def deviceKey : NvmKey := ⟨senderId .device, recipientId .device, idContext⟩

def peerKey : NvmKey := ⟨senderId .peer, recipientId .peer, idContext⟩

def clearStack : Stack := ⟨fun _ => 0, fun _ _ => 0⟩

def deviceWrite (ssn : UInt64) : WriteCall := ⟨clearStack, .keeps 64, deviceKey, ssn⟩

/-- The peer reads the number of the device. -/
theorem deviceRecord_foreign :
    ¬KeyedLookup clearStack .refused peerKey none [deviceWrite 5] := by
  intro lookup
  have last : lastStored [deviceWrite 5] = some (deviceWrite 5) := rfl
  have result := nvmReadSsn_ok clearStack .refused peerKey (deviceWrite 5) none (by decide)
  have own := lookup.matched (deviceWrite 5) last (result.mpr (by decide))
  exact absurd own (by decide)

/-- The number 2 ^ 32 comes back as zero. -/
theorem wideNumber_lost : ¬RoundTrips clearStack .refused .opens none (deviceWrite 4294967296) := by
  intro back
  have recovery := nvmReadSsn_exact clearStack .refused deviceKey (deviceWrite 4294967296) none (by decide)
  have recovered := recovery.mp (back (by decide)).2
  exact absurd recovered.2 (by decide)

/-- A crash inside the digits of 12 leaves a record of a smaller number. -/
theorem tornNumber_smaller : ¬TornSafe clearStack .refused clearStack deviceKey 12 41 := by
  obtain ⟨number, below, result⟩ :=
    nvmReadSsn_torn clearStack clearStack .refused deviceKey deviceKey 12 41 (by decide) (by decide)
  have small : number < 12 := below
  have twelve : (12 : UInt64).toNat = 12 := rfl
  simp only [TornSafe, result, ne_eq, not_true_eq_false, false_or, Option.some.injEq, twelve]
  omega

end SchcWork.Nvm
