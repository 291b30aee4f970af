-- Texts as bytes, and where a byte string stops being UTF-8. A fault has
-- the length of the text before it. It is a bad sequence of one to three
-- bytes, or a sequence that the end of the input cuts short.

namespace Warrant.Text.Utf8

/-! ## Texts as bytes -/

def bytes (s : String) : List UInt8 := s.toUTF8.data.toList

/-- The text of some bytes, if they are UTF-8. -/
def text? (bytes : List UInt8) : Option String := String.fromUTF8? ⟨bytes.toArray⟩

/-- A text is read back from its bytes. -/
theorem text?_bytes (s : String) : text? (bytes s) = some s := by
  have h : (⟨(bytes s).toArray⟩ : ByteArray) = s.toUTF8 := by simp [bytes]
  rw [text?, h]
  simp [String.fromUTF8?, s.isValidUTF8]
  rfl

theorem bytes_inj {a b : String} : bytes a = bytes b ↔ a = b := by
  refine ⟨fun h => ?_, congrArg bytes⟩
  have ha := text?_bytes a
  rw [h, text?_bytes] at ha
  exact (Option.some.inj ha).symm

/-! ## Faults -/

inductive Fault
  | invalid (length index : Nat)
  | incomplete (index : Nat)
deriving DecidableEq, Repr

def Fault.message : Fault → String
  | .invalid length index =>
    s!"invalid utf-8 sequence of {length} bytes from index {index}"
  | .incomplete index => s!"incomplete utf-8 byte sequence from index {index}"

/-- The bytes that may stand second in a sequence with this first byte. -/
def secondByteRange (first : UInt8) : UInt8 × UInt8 :=
  if first = 0xE0 then (0xA0, 0xBF)
  else if first = 0xED then (0x80, 0x9F)
  else if first = 0xF0 then (0x90, 0xBF)
  else if first = 0xF4 then (0x80, 0x8F)
  else (0x80, 0xBF)

/-- The length of the sequence that a byte starts, if it can start one. -/
def sequenceLength (first : UInt8) : Option Nat :=
  if first < 0x80 then some 1
  else if 0xC2 ≤ first ∧ first ≤ 0xDF then some 2
  else if 0xE0 ≤ first ∧ first ≤ 0xEF then some 3
  else if 0xF0 ≤ first ∧ first ≤ 0xF4 then some 4
  else none

def isContinuation (b : UInt8) : Bool := 0x80 ≤ b && b ≤ 0xBF

/-- What is wrong with the `count` continuation bytes that should follow
`seen` bytes of a sequence at `index`. -/
def tailFault (index seen : Nat) : Nat → List UInt8 → Option Fault
  | 0, _ => none
  | _ + 1, [] => some (.incomplete index)
  | n + 1, b :: r =>
    if isContinuation b then tailFault index (seen + 1) n r else some (.invalid seen index)

/-- What is wrong with the first sequence of a byte string, and its length. -/
def sequenceFault (index : Nat) (first : UInt8) (rest : List UInt8) : Nat × Option Fault :=
  match sequenceLength first with
  | none => (1, some (.invalid 1 index))
  | some 1 => (1, none)
  | some n =>
    match rest with
    | [] => (n, some (.incomplete index))
    | b :: r =>
      let (low, high) := secondByteRange first
      if low ≤ b ∧ b ≤ high then (n, tailFault index 2 (n - 2) r)
      else (n, some (.invalid 1 index))

/-- The first fault of a byte string, by sequences. The fuel counts the
sequences. -/
def faultFrom (index : Nat) : Nat → List UInt8 → Option Fault
  | 0, _ => none
  | _, [] => none
  | fuel + 1, b :: r =>
    match sequenceFault index b r with
    | (_, some f) => some f
    | (n, none) => faultFrom (index + n) fuel (r.drop (n - 1))

/-- The first fault of a byte string. There is none in UTF-8. -/
def fault? (bytes : List UInt8) : Option Fault := faultFrom 0 bytes.length bytes

end Warrant.Text.Utf8
