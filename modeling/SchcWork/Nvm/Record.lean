import SchcWork.Library.Memory
import SchcWork.Library.TextInput
import SchcWork.Platform.Base64
import SchcWork.Worker.Oscore

namespace SchcWork.Nvm

open TextInput Worker

/-- A security context is named by its three identifiers. -/
structure NvmKey where
  senderId : List UInt8
  recipientId : List UInt8
  idContext : List UInt8
  deriving Repr, DecidableEq

/-- The key encoder reads its own stack, the fresh buffer and the bytes after each pointer field. -/
structure Stack where
  uninitialised : ByteMemory
  pointerField : Nat → ByteMemory

/-- These are the bytes of a 32-bit length in memory. -/
def lengthBytes (length : Nat) : List UInt8 :=
  (List.range 4).map fun index => UInt8.ofNat (length >>> (8 * index))

/-- The total length is an 8-bit variable. -/
def nvmKeyBytesLen (key : NvmKey) : Nat :=
  (key.senderId.length + key.recipientId.length + key.idContext.length + 4 * 3) % 2 ^ 8

/-- One round stores a length at the running pointer and copies to the start of the buffer. -/
def nvmKeyRound (stack : Stack) (buffer : ByteMemory × Nat) (index : Nat) (bytes : List UInt8) : ByteMemory × Nat :=
  let (nvmKeyBytes, nvmPtr) := buffer
  let nvmKeyBytes := nvmKeyBytes.store nvmPtr (lengthBytes bytes.length)
  -- The source copies from the address of the pointer field and not from the bytes that it points to.
  let nvmKeyBytes := nvmKeyBytes.store 0 ((stack.pointerField index).slice 0 bytes.length)
  (nvmKeyBytes, nvmPtr + 4 + bytes.length)

def nvmKeyBase64Encode (stack : Stack) (key : NvmKey) : Option (List Char) :=
  let buffer := nvmKeyRound stack (stack.uninitialised, 0) 0 key.senderId
  let buffer := nvmKeyRound stack buffer 1 key.recipientId
  let buffer := nvmKeyRound stack buffer 2 key.idContext
  Platform.b64Encode (buffer.1.slice 0 (nvmKeyBytesLen key))

/-- A file has a text, or it does not exist. -/
abbrev NvmFile := Option (List Char)

/-- The file system refuses the stream or keeps a prefix of what the stream receives. -/
inductive Stream where
  | refused
  | keeps (count : Nat)
  deriving Repr, DecidableEq

/-- The file system opens an existing file for a reader, or it refuses the stream. -/
inductive Opening where
  | opens
  | refuses
  deriving Repr, DecidableEq

/-- The C library prints the null pointer as `(null)`. -/
def printedKey (stack : Stack) (key : NvmKey) : List Char := (nvmKeyBase64Encode stack key).getD "(null)".toList

def nvmKeyLabel : List Char := "NVM_KEY=".toList

def ssnLabel : List Char := "OSCORE_SSN=".toList

/-- The text before the digits is the key line and the label of the number. -/
def recordHead (stack : Stack) (key : NvmKey) : List Char :=
  nvmKeyLabel ++ printedKey stack key ++ '\n' :: ssnLabel

def ssnDigits (ssn : UInt64) : List Char := Nat.toDigits 10 ssn.toNat

/-- These are the two lines that `nvm_write_ssn` prints. -/
def record (stack : Stack) (key : NvmKey) (ssn : UInt64) : List Char :=
  recordHead stack key ++ ssnDigits ssn ++ ['\n']

/-- The function checks only that the file opens. It ignores the results of `fprintf` and `fclose`. -/
def nvmWriteSsn (stack : Stack) (stream : Stream) (key : NvmKey) (ssn : UInt64) (file : NvmFile) : Err × NvmFile :=
  match stream with
  | .refused => (.oscoreSsnOverflow, file)
  | .keeps count => (.ok, some ((record stack key ssn).take count))

/-- These are the local variables of the reading loop. A flag of the source is true when its value is present. -/
structure Scan where
  readNvmKey : Option (List Char)
  readSsn : Option Nat
  deriving Repr, DecidableEq

/-- One line sets the key, or the number, or nothing. -/
def scanLine (scan : Scan) (line : List Char) : Scan :=
  match (matchLiteral nvmKeyLabel (chomp line)).bind scanString with
  | some word => { scan with readNvmKey := some word }
  | none =>
      match (matchLiteral ssnLabel (chomp line)).bind scanUnsigned with
      | some number => { scan with readSsn := some number }
      | none => scan

def maxNvmLineLength : Nat := 256

def scanText (text : List Char) : Scan := (lines maxNvmLineLength [] text).foldl scanLine ⟨none, none⟩

/-- A reader returns a result, may assign the number of its caller, and may write the file. -/
structure SsnResult where
  err : Err
  ssn : Option Nat
  file : NvmFile
  deriving Repr, DecidableEq

/-- The function finds some key and some number. It never compares the key with its argument. Without a stream it
stores the number zero in place of whatever the file holds. -/
def nvmReadSsn (stack : Stack) (opening : Opening) (stream : Stream) (key : NvmKey) (file : NvmFile) : SsnResult :=
  match opening, file with
  | .opens, some text =>
      match (scanText text).readNvmKey, (scanText text).readSsn with
      | some _, some readSsn => ⟨.ok, some readSsn, some text⟩
      | _, _ => ⟨.oscoreSsnOverflow, none, some text⟩
  | _, _ =>
      let (writeRes, written) := nvmWriteSsn stack stream key 0 file
      if writeRes ≠ .ok then ⟨writeRes, some 0, written⟩ else ⟨.ok, some 0, written⟩

/-- A line without an underscore sets nothing, because both labels contain one. -/
theorem scanLine_silent (scan : Scan) {line : List Char} (absent : '_' ∉ line) : scanLine scan line = scan := by
  have chomped : '_' ∉ chomp line := fun inside => absent ((List.takeWhile_prefix _).subset inside)
  have key : matchLiteral nvmKeyLabel (chomp line) = none := matchLiteral_eq_none (by decide) chomped
  have ssn : matchLiteral ssnLabel (chomp line) = none := matchLiteral_eq_none (by decide) chomped
  simp only [scanLine, key, ssn, Option.bind_none]

/-- Text without an underscore sets nothing, wherever the line buffer splits it. -/
theorem foldl_scanLine_silent (scan : Scan) {text : List Char} (absent : '_' ∉ text) :
    (lines maxNvmLineLength [] text).foldl scanLine scan = scan := by
  have each : ∀ piece ∈ lines maxNvmLineLength [] text, '_' ∉ piece := by
    intro piece member inside
    rcases mem_of_mem_lines maxNvmLineLength [] text piece member '_' inside with impossible | found
    · simp at impossible
    · exact absent found
  generalize lines maxNvmLineLength [] text = pieces at each
  induction pieces with
  | nil => rfl
  | cons piece pieces ih =>
      simp only [List.mem_cons, forall_eq_or_imp] at each
      rw [List.foldl_cons, scanLine_silent scan each.1, ih each.2]

/-- A key byte belongs to no label, ends no line, and separates no item. -/
def isKeyByte (c : Char) : Bool := c != '_' && isText c && !isSpace c

/-- The printed key is a nonempty text that no line reader breaks and no label matches. -/
structure IsKeyText (text : List Char) : Prop where
  nonempty : text ≠ []
  solid : ∀ c ∈ text, isKeyByte c = true

theorem printedKey_isKeyText (stack : Stack) (key : NvmKey) : IsKeyText (printedKey stack key) := by
  unfold printedKey
  cases encoded : nvmKeyBase64Encode stack key with
  | none => exact ⟨by decide, List.all_eq_true.mp (by decide)⟩
  | some text =>
      obtain ⟨nonempty, alphabet⟩ := Platform.b64Encode_spec encoded
      have table : ∀ c ∈ Platform.b64chars, isKeyByte c = true := List.all_eq_true.mp (by decide)
      refine ⟨nonempty, fun c inside => ?_⟩
      rcases alphabet c inside with known | rfl
      · exact table c known
      · decide

end SchcWork.Nvm
