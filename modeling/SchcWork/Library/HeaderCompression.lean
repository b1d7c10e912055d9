import SchcWork.Library.BitString
import Mathlib.Data.List.Forall2

/-!
This file develops rule-based header compression. A rule describes each field of a header by a length,
a target value, a matching operator and an action, and the residue holds what the receiver cannot know.
-/

namespace HeaderCompression

open BitString

variable {Key : Type}

structure HeaderField (Key : Type) where
  key : Key
  value : Bits
  deriving Repr, DecidableEq

inductive Direction where
  | up
  | down
  | both
  deriving Repr, DecidableEq

/-- A description for both directions covers each packet. -/
def Direction.covers : Direction → Direction → Bool
  | .both, _ => true
  | described, packet => described == packet

/-- A variable length counts units of the given number of bits. -/
inductive FieldLength where
  | fixed (size : Nat)
  | variableLength (unit : Nat)
  deriving Repr, DecidableEq

inductive Matching where
  | equal
  | ignore
  | msb (size : Nat)
  deriving Repr, DecidableEq

inductive Action where
  | notSent
  | valueSent
  | lsb
  | computeLength
  | computeChecksum
  deriving Repr, DecidableEq

structure Description (Key : Type) where
  key : Key
  direction : Direction
  target : Option Bits
  length : FieldLength
  matching : Matching
  action : Action
  deriving Repr, DecidableEq

/-- The receiver knows these first bits of a matched value. -/
def Matching.known : Matching → Nat
  | .msb size => size
  | _ => 0

def Matching.Holds (matching : Matching) (target : Option Bits) (value : Bits) : Prop :=
  match matching with
  | .equal => target = some value
  | .ignore => True
  | .msb size => size ≤ value.length ∧ target.map (List.take size) = some (value.take size)

instance (matching : Matching) (target : Option Bits) (value : Bits) :
    Decidable (matching.Holds target value) :=
  match matching with
  | .equal => inferInstanceAs (Decidable (target = some value))
  | .ignore => inferInstanceAs (Decidable True)
  | .msb size =>
      inferInstanceAs (Decidable (size ≤ value.length ∧ target.map (List.take size) = some (value.take size)))

/-- The target and the value have the same known bits. -/
theorem Matching.Holds.known_eq {matching : Matching} {target : Option Bits} {value : Bits}
    (holds : matching.Holds target value) :
    (target.getD []).take matching.known = value.take matching.known := by
  cases matching with
  | equal => rfl
  | ignore => rfl
  | msb size =>
      obtain ⟨-, same⟩ := holds
      cases target with
      | none => simp at same
      | some known => simpa [Matching.known] using same

/-- A part of variable length follows its size. -/
def FieldLength.frame : FieldLength → Bits → Bits
  | .fixed _, part => part
  | .variableLength unit, part => sizeBits (part.length / unit) ++ part

def FieldLength.read (length : FieldLength) (known : Nat) (bits : Bits) : Option (Bits × Bits) :=
  match length with
  | .fixed size => takeBits (size - known) bits
  | .variableLength unit => (takeSize bits).bind fun (size, rest) => takeBits (size * unit) rest

/-- The receiver finds the end of the part. -/
def FieldLength.Frames (length : FieldLength) (known : Nat) (part : Bits) : Prop :=
  match length with
  | .fixed size => part.length = size - known
  | .variableLength unit => unit ∣ part.length ∧ part.length / unit < 2 ^ 16

/-- A framed part is read again. -/
theorem FieldLength.read_frame {length : FieldLength} {known : Nat} {part : Bits}
    (frames : length.Frames known part) (rest : Bits) :
    length.read known (length.frame part ++ rest) = some (part, rest) := by
  cases length with
  | fixed size => exact takeBits_append part rest frames
  | variableLength unit =>
      obtain ⟨whole, fits⟩ := frames
      have size : part.length = part.length / unit * unit := (Nat.div_mul_cancel whole).symm
      change (takeSize (sizeBits (part.length / unit) ++ part ++ rest)).bind _ = _
      rw [List.append_assoc, takeSize_sizeBits fits]
      exact takeBits_append part rest size

/-- A computed field is blank until the other fields are known. -/
def FieldLength.blank : FieldLength → Bits
  | .fixed size => List.replicate size false
  | .variableLength _ => []

def Action.computes : Action → Bool
  | .computeLength | .computeChecksum => true
  | _ => false

namespace Description

def Matches (direction : Direction) (description : Description Key) (field : HeaderField Key) : Prop :=
  description.key = field.key ∧ description.direction.covers direction = true ∧
    description.matching.Holds description.target field.value

instance [DecidableEq Key] (direction : Direction) (description : Description Key) (field : HeaderField Key) :
    Decidable (description.Matches direction field) :=
  inferInstanceAs (Decidable (_ ∧ _ ∧ _))

/-- The sender writes these bits for a matched value. -/
def residue (description : Description Key) (value : Bits) : Bits :=
  match description.action with
  | .notSent | .computeLength | .computeChecksum => []
  | .valueSent => description.length.frame value
  | .lsb => description.length.frame (value.drop description.matching.known)

/-- The receiver takes the residue of one field. -/
def restore (description : Description Key) (bits : Bits) : Option (Bits × Bits) :=
  match description.action with
  | .notSent => description.target.map fun value => (value, bits)
  | .computeLength | .computeChecksum => some (description.length.blank, bits)
  | .valueSent => description.length.read 0 bits
  | .lsb => (description.length.read description.matching.known bits).map fun (part, rest) =>
      ((description.target.getD []).take description.matching.known ++ part, rest)

/-- The receiver has enough to restore the value. -/
def Sound (description : Description Key) (value : Bits) : Prop :=
  match description.action with
  | .notSent => description.target.isSome = true
  | .computeLength | .computeChecksum => True
  | .valueSent => description.length.Frames 0 value
  | .lsb => description.length.Frames description.matching.known (value.drop description.matching.known)

/-- The receiver needs no residue. -/
def standsAlone (description : Description Key) : Bool :=
  match description.action with
  | .notSent => description.target.isSome
  | .computeLength | .computeChecksum => true
  | .valueSent | .lsb => false

theorem sound_of_standsAlone {description : Description Key} (alone : description.standsAlone = true)
    (value : Bits) : description.Sound value := by
  unfold standsAlone at alone
  unfold Sound
  cases action : description.action with
  | notSent => simpa [action] using alone
  | computeLength => trivial
  | computeChecksum => trivial
  | valueSent => simp [action] at alone
  | lsb => simp [action] at alone

/-- The receiver has this value before any computed field is filled. -/
def restored (description : Description Key) (value : Bits) : Bits :=
  match description.action with
  | .notSent => description.target.getD []
  | .computeLength | .computeChecksum => description.length.blank
  | .valueSent | .lsb => value

/-- A matched value is restored from its own residue. -/
theorem restore_residue {description : Description Key} {value : Bits}
    (holds : description.matching.Holds description.target value) (sound : description.Sound value)
    (rest : Bits) :
    description.restore (description.residue value ++ rest) = some (description.restored value, rest) := by
  unfold restore residue restored
  unfold Sound at sound
  cases action : description.action with
  | notSent =>
      simp only [action] at sound
      obtain ⟨target, known⟩ := Option.isSome_iff_exists.mp sound
      simp [known]
  | valueSent =>
      simp only [action] at sound
      exact FieldLength.read_frame sound rest
  | lsb =>
      simp only [action] at sound
      simp only [FieldLength.read_frame sound rest, Option.map_some, holds.known_eq, List.take_append_drop]
  | computeLength => rfl
  | computeChecksum => rfl

/-- The receiver restores these fields exactly. -/
def lossless (description : Description Key) : Bool :=
  match description.action with
  | .notSent => description.matching == .equal
  | .valueSent | .lsb => true
  | .computeLength | .computeChecksum => false

theorem restored_of_lossless {description : Description Key} {value : Bits}
    (holds : description.matching.Holds description.target value) (exact : description.lossless = true) :
    description.restored value = value := by
  unfold lossless at exact
  unfold restored
  cases action : description.action with
  | notSent =>
      simp only [action, beq_iff_eq] at exact
      rw [exact] at holds
      have known : description.target = some value := holds
      simp [known]
  | valueSent => rfl
  | lsb => rfl
  | computeLength => simp [action] at exact
  | computeChecksum => simp [action] at exact

theorem computes_of_lossless {description : Description Key} (exact : description.lossless = true) :
    description.action.computes = false := by
  unfold lossless at exact
  cases action : description.action <;> simp_all [Action.computes]

end Description

/-- The field matches its description, and the receiver can restore it. -/
def Compatible (direction : Direction) (description : Description Key) (field : HeaderField Key) : Prop :=
  description.Matches direction field ∧ description.Sound field.value

theorem compatible_of_standsAlone {direction : Direction} {descriptions : List (Description Key)}
    {fields : List (HeaderField Key)}
    (matched : List.Forall₂ (Description.Matches direction) descriptions fields)
    (alone : descriptions.all Description.standsAlone = true) :
    List.Forall₂ (Compatible direction) descriptions fields := by
  induction matched with
  | nil => exact .nil
  | cons first others ih =>
      rw [List.all_cons, Bool.and_eq_true] at alone
      exact .cons ⟨first, Description.sound_of_standsAlone alone.1 _⟩ (ih alone.2)

/-- The residue holds the fields in the order of the rule. -/
def sendAll : List (Description Key) → List (HeaderField Key) → Bits
  | description :: descriptions, field :: fields =>
      description.residue field.value ++ sendAll descriptions fields
  | _, _ => []

def receiveAll : List (Description Key) → Bits → Option (List (HeaderField Key) × Bits)
  | [], bits => some ([], bits)
  | description :: descriptions, bits => do
      let (value, rest) ← description.restore bits
      let (fields, last) ← receiveAll descriptions rest
      return (⟨description.key, value⟩ :: fields, last)

def restoreAll : List (Description Key) → List (HeaderField Key) → List (HeaderField Key) :=
  List.zipWith fun description field => ⟨description.key, description.restored field.value⟩

/-- The receiver finds every field and the bits after the residue. -/
theorem receiveAll_sendAll {direction : Direction} {descriptions : List (Description Key)}
    {fields : List (HeaderField Key)} (compatible : List.Forall₂ (Compatible direction) descriptions fields)
    (rest : Bits) :
    receiveAll descriptions (sendAll descriptions fields ++ rest) =
      some (restoreAll descriptions fields, rest) := by
  induction compatible with
  | nil => rfl
  | @cons description field descriptions fields first others ih =>
      obtain ⟨⟨-, -, holds⟩, sound⟩ := first
      change receiveAll (description :: descriptions)
        ((description.residue field.value ++ sendAll descriptions fields) ++ rest) = _
      rw [List.append_assoc, receiveAll, Description.restore_residue holds sound]
      simp [ih, restoreAll]

/-- Zero bits fill the last byte. -/
def encode (descriptions : List (Description Key)) (fields : List (HeaderField Key)) (payload : List UInt8) : Bits :=
  let body := sendAll descriptions fields ++ bytesBits payload
  body ++ List.replicate ((8 - body.length % 8) % 8) false

def decode (descriptions : List (Description Key)) (bits : Bits) : Option (List (HeaderField Key) × List UInt8) :=
  (receiveAll descriptions bits).map fun (fields, rest) => (fields, bitsBytes rest)

/-- The receiver finds every field and the payload. -/
theorem decode_encode {direction : Direction} {descriptions : List (Description Key)}
    {fields : List (HeaderField Key)} (compatible : List.Forall₂ (Compatible direction) descriptions fields)
    (payload : List UInt8) :
    decode descriptions (encode descriptions fields payload) =
      some (restoreAll descriptions fields, payload) := by
  have short (size : Nat) : (List.replicate ((8 - size % 8) % 8) false).length < 8 := by
    rw [List.length_replicate]
    omega
  simp only [decode, encode]
  rw [List.append_assoc, receiveAll_sendAll compatible]
  simp only [Option.map_some, bitsBytes_bytesBits_append payload _ (short _)]

/-- The receiver fills the computed fields at the end. -/
def complete (compute : Key → Bits) :
    List (Description Key) → List (HeaderField Key) → List (HeaderField Key) :=
  List.zipWith fun description field =>
    if description.action.computes then ⟨field.key, compute field.key⟩ else field

theorem restoreAll_append {first second : List (Description Key)} {firstFields secondFields : List (HeaderField Key)}
    (sameLength : first.length = firstFields.length) :
    restoreAll (first ++ second) (firstFields ++ secondFields) =
      restoreAll first firstFields ++ restoreAll second secondFields := List.zipWith_append sameLength

theorem complete_append (compute : Key → Bits) {first second : List (Description Key)}
    {firstFields secondFields : List (HeaderField Key)} (sameLength : first.length = firstFields.length) :
    complete compute (first ++ second) (firstFields ++ secondFields) =
      complete compute first firstFields ++ complete compute second secondFields :=
  List.zipWith_append sameLength

/-- Related lists split where their first parts have the same length. -/
theorem forall₂_split {Left Right : Type} {Related : Left → Right → Prop} {first second : List Left}
    {firstFields secondFields : List Right} (sameLength : first.length = firstFields.length)
    (related : List.Forall₂ Related (first ++ second) (firstFields ++ secondFields)) :
    List.Forall₂ Related first firstFields ∧ List.Forall₂ Related second secondFields := by
  have before := List.forall₂_take first.length related
  have after := List.forall₂_drop first.length related
  rw [List.take_left, sameLength, List.take_left] at before
  rw [List.drop_left, sameLength, List.drop_left] at after
  exact ⟨before, after⟩

/-- Lossless descriptions give their own fields again. -/
theorem restoreAll_of_lossless {direction : Direction} {descriptions : List (Description Key)}
    {fields : List (HeaderField Key)}
    (matched : List.Forall₂ (Description.Matches direction) descriptions fields)
    (exact : descriptions.all Description.lossless = true) : restoreAll descriptions fields = fields := by
  induction matched with
  | nil => rfl
  | @cons description field descriptions fields first others ih =>
      obtain ⟨sameKey, -, holds⟩ := first
      rw [List.all_cons, Bool.and_eq_true] at exact
      have sameValue := Description.restored_of_lossless holds exact.1
      change ⟨description.key, description.restored field.value⟩ :: restoreAll descriptions fields = _
      rw [ih exact.2, sameKey, sameValue]

theorem complete_of_lossless (compute : Key → Bits) {descriptions : List (Description Key)}
    {fields : List (HeaderField Key)} (sameLength : descriptions.length = fields.length)
    (exact : descriptions.all Description.lossless = true) : complete compute descriptions fields = fields := by
  induction descriptions generalizing fields with
  | nil => exact (List.length_eq_zero_iff.mp sameLength.symm).symm
  | cons description descriptions ih =>
      cases fields with
      | nil => simp at sameLength
      | cons field fields =>
          rw [List.all_cons, Bool.and_eq_true] at exact
          have kept := Description.computes_of_lossless exact.1
          have others := ih (by simpa using sameLength) exact.2
          change (if description.action.computes then _ else field) :: complete compute descriptions fields = _
          rw [kept, others]
          rfl

end HeaderCompression
