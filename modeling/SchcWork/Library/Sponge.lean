import Mathlib.Logic.Function.Basic
import Mathlib.Data.List.Basic
import Mathlib.Tactic.Common

namespace ByteSponge

/-- The state has one rate word, and the capacity is of any type. -/
@[ext]
structure State (Capacity : Type) where
  rate : UInt64
  capacity : Capacity
  deriving Repr, DecidableEq

variable {Capacity : Type}

/-- The first byte of a block is the low byte of its word. -/
def loadBytes : List UInt8 → UInt64
  | [] => 0
  | byte :: rest => byte.toUInt64 ^^^ (loadBytes rest <<< 8)

def storeBytes (word : UInt64) : List UInt8 :=
  [word.toUInt8, (word >>> 8).toUInt8, (word >>> 16).toUInt8, (word >>> 24).toUInt8,
    (word >>> 32).toUInt8, (word >>> 40).toUInt8, (word >>> 48).toUInt8, (word >>> 56).toUInt8]

/-- The padding bit follows the last byte. -/
def padding (size : Nat) : UInt64 := 1 <<< UInt64.ofNat (8 * size)

def State.mix (state : State Capacity) (word : UInt64) : State Capacity :=
  { state with rate := state.rate ^^^ word }

/-- The call permutes after each full block, and it mixes the last bytes and the padding bit. -/
def absorb (permute : State Capacity → State Capacity) (state : State Capacity) : List UInt8 → State Capacity
  | b0 :: b1 :: b2 :: b3 :: b4 :: b5 :: b6 :: b7 :: rest =>
      absorb permute (permute (state.mix (loadBytes [b0, b1, b2, b3, b4, b5, b6, b7]))) rest
  | last => (state.mix (loadBytes last)).mix (padding last.length)

/-- The call permutes before each block of output. -/
def squeezeBlocks (permute : State Capacity → State Capacity) (state : State Capacity) : Nat → List UInt8
  | 0 => []
  | blocks + 1 => storeBytes (permute state).rate ++ squeezeBlocks permute (permute state) blocks

def squeeze (permute : State Capacity → State Capacity) (state : State Capacity) (size : Nat) : List UInt8 :=
  (squeezeBlocks permute state ((size + 7) / 8)).take size

/-- This function absorbs full blocks without any padding. -/
def absorbBlocks (permute : State Capacity → State Capacity) (state : State Capacity) :
    List UInt8 → State Capacity
  | b0 :: b1 :: b2 :: b3 :: b4 :: b5 :: b6 :: b7 :: rest =>
      absorbBlocks permute (permute (state.mix (loadBytes [b0, b1, b2, b3, b4, b5, b6, b7]))) rest
  | _ => state

/-- This function flips the lowest bit of the first byte. -/
def flipFirst : List UInt8 → List UInt8
  | [] => []
  | byte :: rest => (byte ^^^ 1) :: rest

@[simp] theorem mix_mix (state : State Capacity) (first second : UInt64) :
    (state.mix first).mix second = state.mix (first ^^^ second) := by
  simp only [State.mix, UInt64.xor_assoc]

@[simp] theorem mix_zero (state : State Capacity) : state.mix 0 = state := by
  simp only [State.mix, UInt64.xor_zero]

theorem mix_comm (state : State Capacity) (first second : UInt64) :
    (state.mix first).mix second = (state.mix second).mix first := by
  rw [mix_mix, mix_mix, UInt64.xor_comm]

theorem mix_injective (word : UInt64) : Function.Injective fun state : State Capacity => state.mix word := by
  intro first second same
  have undone := congrArg (State.mix · word) same
  simpa using undone

@[simp] theorem padding_zero : padding 0 = 1 := rfl

theorem mix_one_ne (state : State Capacity) : state.mix 1 ≠ state := by
  intro same
  have rates := congrArg State.rate same
  change state.rate ^^^ 1 = state.rate at rates
  have kept : state.rate ^^^ 1 = state.rate ^^^ 0 := by rw [rates, UInt64.xor_zero]
  exact absurd ((UInt64.xor_right_inj _).mp kept) (by decide)

@[simp] theorem length_storeBytes (word : UInt64) : (storeBytes word).length = 8 := rfl

theorem length_squeezeBlocks (permute : State Capacity → State Capacity) (state : State Capacity) (blocks : Nat) :
    (squeezeBlocks permute state blocks).length = 8 * blocks := by
  induction blocks generalizing state with
  | zero => rfl
  | succ blocks ih =>
      rw [squeezeBlocks, List.length_append, length_storeBytes, ih]
      omega

@[simp] theorem length_squeeze (permute : State Capacity → State Capacity) (state : State Capacity) (size : Nat) :
    (squeeze permute state size).length = size := by
  rw [squeeze, List.length_take, length_squeezeBlocks]
  omega

theorem loadBytes_flipFirst (byte : UInt8) (rest : List UInt8) :
    loadBytes ((byte ^^^ 1) :: rest) = 1 ^^^ loadBytes (byte :: rest) := by
  have one : (1 : UInt8).toUInt64 = 1 := rfl
  rw [loadBytes, loadBytes, UInt8.toUInt64_xor, one, UInt64.xor_comm byte.toUInt64, UInt64.xor_assoc]

/-- A list with at least eight bytes starts with a full block. -/
theorem exists_block {bytes : List UInt8} (long : 8 ≤ bytes.length) :
    ∃ b0 b1 b2 b3 b4 b5 b6 b7 rest, bytes = b0 :: b1 :: b2 :: b3 :: b4 :: b5 :: b6 :: b7 :: rest :=
  match bytes, long with
  | b0 :: b1 :: b2 :: b3 :: b4 :: b5 :: b6 :: b7 :: rest, _ => ⟨b0, b1, b2, b3, b4, b5, b6, b7, rest, rfl⟩

section Absorb

variable (permute : State Capacity → State Capacity)

/-- Fewer than eight bytes are mixed together with their padding bit. -/
theorem absorb_short (state : State Capacity) {bytes : List UInt8} (short : bytes.length < 8) :
    absorb permute state bytes = (state.mix (loadBytes bytes)).mix (padding bytes.length) := by
  rw [absorb]
  rintro b0 b1 b2 b3 b4 b5 b6 b7 rest rfl
  simp only [List.length_cons] at short
  omega

theorem absorb_nil (state : State Capacity) : absorb permute state [] = state.mix 1 := by
  rw [absorb_short permute state (by decide), loadBytes, mix_zero, List.length_nil, padding_zero]

/-- Full blocks in front of an input are absorbed first. -/
theorem absorb_append (state : State Capacity) (blocks rest : List UInt8) (full : blocks.length % 8 = 0) :
    absorb permute state (blocks ++ rest) = absorb permute (absorbBlocks permute state blocks) rest := by
  induction state, blocks using absorbBlocks.induct permute with
  | case1 state b0 b1 b2 b3 b4 b5 b6 b7 tail ih =>
      have tailFull : tail.length % 8 = 0 := by
        simp only [List.length_cons] at full
        omega
      simp only [List.cons_append, absorb, absorbBlocks]
      exact ih tailFull
  | case2 state blocks short =>
      have empty : blocks = [] := by
        by_contra nonempty
        have positive := List.length_pos_iff.mpr nonempty
        obtain ⟨b0, b1, b2, b3, b4, b5, b6, b7, tail, rfl⟩ := exists_block (show 8 ≤ blocks.length by omega)
        exact short b0 b1 b2 b3 b4 b5 b6 b7 tail rfl
      subst empty
      rfl

/-- A call on full blocks ends with the padding of an empty block. -/
theorem absorb_blocks (state : State Capacity) (blocks : List UInt8) (full : blocks.length % 8 = 0) :
    absorb permute state blocks = (absorbBlocks permute state blocks).mix 1 := by
  have whole := absorb_append permute state blocks [] full
  rwa [List.append_nil, absorb_nil] at whole

/-- The padding of an empty block flips one bit of the next input. -/
theorem absorb_mix_one (state : State Capacity) {bytes : List UInt8} (nonempty : bytes ≠ []) :
    absorb permute (state.mix 1) bytes = absorb permute state (flipFirst bytes) := by
  cases bytes with
  | nil => exact absurd rfl nonempty
  | cons byte rest =>
      by_cases long : 8 ≤ (byte :: rest).length
      · obtain ⟨b0, b1, b2, b3, b4, b5, b6, b7, tail, block⟩ := exists_block long
        rw [block, flipFirst, absorb, absorb, mix_mix, loadBytes_flipFirst]
      · have short : (byte :: rest).length < 8 := Nat.lt_of_not_le long
        rw [absorb_short permute _ short, flipFirst, absorb_short permute _ (by simpa using short),
          loadBytes_flipFirst, List.length_cons, List.length_cons]
        simp only [mix_mix, UInt64.xor_assoc]

/-- Two calls on full blocks and a nonempty input hash another string. -/
theorem absorb_twice (state : State Capacity) (blocks : List UInt8) {bytes : List UInt8}
    (full : blocks.length % 8 = 0) (nonempty : bytes ≠ []) :
    absorb permute (absorb permute state blocks) bytes = absorb permute state (blocks ++ flipFirst bytes) := by
  rw [absorb_blocks permute state blocks full, absorb_mix_one permute _ nonempty,
    absorb_append permute state blocks _ full]

variable {permute}

/-- An injective permutation keeps different states apart. -/
theorem absorb_injective (injective : Function.Injective permute) (bytes : List UInt8) :
    Function.Injective fun state => absorb permute state bytes := by
  intro first second same
  induction first, bytes using absorb.induct permute generalizing second with
  | case1 first b0 b1 b2 b3 b4 b5 b6 b7 rest ih =>
      simp only [absorb] at same
      exact mix_injective _ (injective (ih same))
  | case2 first last short =>
      have plain (state : State Capacity) :
          absorb permute state last = (state.mix (loadBytes last)).mix (padding last.length) := by
        rw [absorb]
        exact short
      simp only [plain] at same
      exact mix_injective _ (mix_injective _ same)

/-- Two calls never leave the state that one call on the whole input leaves. -/
theorem absorb_twice_ne (injective : Function.Injective permute) (state : State Capacity)
    (blocks bytes : List UInt8) (full : blocks.length % 8 = 0) :
    absorb permute (absorb permute state blocks) bytes ≠ absorb permute state (blocks ++ bytes) := by
  rw [absorb_blocks permute state blocks full, absorb_append permute state blocks bytes full]
  intro same
  exact mix_one_ne _ (absorb_injective injective bytes same)

end Absorb

/-- The identity moves a mixed word past any input. -/
theorem absorb_id_mix (state : State Capacity) (word : UInt64) (bytes : List UInt8) :
    absorb id (state.mix word) bytes = (absorb id state bytes).mix word := by
  induction state, bytes using absorb.induct id with
  | case1 state b0 b1 b2 b3 b4 b5 b6 b7 rest ih =>
      simp only [absorb, id_eq] at ih ⊢
      rw [mix_comm, ih]
  | case2 state last short =>
      have plain (state : State Capacity) :
          absorb id state last = (state.mix (loadBytes last)).mix (padding last.length) := by
        rw [absorb]
        exact short
      rw [plain, plain, mix_comm state, mix_comm]

/-- Four equal blocks cancel under the identity. -/
theorem absorb_id_digest (state output : State Capacity) :
    absorb id state (squeeze id output 32) = state.mix 1 := by
  have blocks : squeeze id output 32 =
      storeBytes output.rate ++ (storeBytes output.rate ++ (storeBytes output.rate ++ storeBytes output.rate)) := rfl
  rw [blocks]
  simp only [storeBytes, List.cons_append, List.nil_append, absorb, id_eq]
  simp only [mix_mix, UInt64.xor_self, UInt64.zero_xor]
  rfl

theorem squeeze_id_mix_one_ne (state : State Capacity) : squeeze id (state.mix 1) 32 ≠ squeeze id state 32 := by
  intro same
  have bytes := congrArg List.head? same
  change some (state.rate ^^^ 1).toUInt8 = some state.rate.toUInt8 at bytes
  have kept : state.rate.toUInt8 ^^^ (1 : UInt64).toUInt8 = state.rate.toUInt8 ^^^ 0 := by
    rw [← UInt64.toUInt8_xor, Option.some.inj bytes, UInt8.xor_zero]
  exact absurd ((UInt8.xor_right_inj _).mp kept) (by decide)

end ByteSponge
