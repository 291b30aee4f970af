-- Base64 with the URL-safe alphabet and no padding. Three bytes are four
-- symbols; a rest of one byte is two symbols, of two bytes three. The
-- spare bits of the last symbol are zero, so each byte string has one
-- text, and the reader takes that text only.

namespace Warrant.Text.Base64Url

/-! ## The alphabet -/

/-- The symbol of a six-bit number. -/
def symbol (n : Nat) : Char :=
  if n < 26 then Char.ofNat (65 + n)
  else if n < 52 then Char.ofNat (97 + (n - 26))
  else if n < 62 then Char.ofNat (48 + (n - 52))
  else if n = 62 then '-' else '_'

/-- The six-bit number of a symbol. -/
def sextet? (b : UInt8) : Option Nat :=
  let n := b.toNat
  if 65 ≤ n ∧ n < 91 then some (n - 65)
  else if 97 ≤ n ∧ n < 123 then some (n - 97 + 26)
  else if 48 ≤ n ∧ n < 58 then some (n - 48 + 52)
  else if n = 45 then some 62
  else if n = 95 then some 63
  else none

/-! ## Writing -/

def encode : List UInt8 → List Char
  | a :: b :: c :: r =>
    symbol (a.toNat / 4) :: symbol (a.toNat % 4 * 16 + b.toNat / 16) ::
      symbol (b.toNat % 16 * 4 + c.toNat / 64) :: symbol (c.toNat % 64) :: encode r
  | [a, b] =>
    [symbol (a.toNat / 4), symbol (a.toNat % 4 * 16 + b.toNat / 16), symbol (b.toNat % 16 * 4)]
  | [a] => [symbol (a.toNat / 4), symbol (a.toNat % 4 * 16)]
  | [] => []

/-! ## Reading -/

/-- Why a text is not the base64 of any bytes. -/
inductive Fault
  | symbol (byte : UInt8) (offset : Nat)
  | length (n : Nat)
  | lastSymbol (byte : UInt8) (offset : Nat)
  | padding
deriving DecidableEq, Repr

def Fault.message : Fault → String
  | .symbol byte offset => s!"Invalid symbol {byte.toNat}, offset {offset}."
  | .length n => s!"Invalid input length: {n}"
  | .lastSymbol byte offset => s!"Invalid last symbol {byte.toNat}, offset {offset}."
  | .padding => "Invalid padding"

/-- The padding sign, which this form of base64 does without. -/
def pad : UInt8 := 61

def readSymbol (offset : Nat) (b : UInt8) : Except Fault Nat :=
  match sextet? b with
  | some n => .ok n
  | none => .error (.symbol b offset)

/-- The symbols of the last group, which starts at `start`. Padding may
stand from its third place on, and nothing may follow padding. -/
def readLastSymbols (start : Nat) : Nat → List UInt8 → Except Fault (List (UInt8 × Nat) × Nat)
  | _, [] => .ok ([], 0)
  | i, b :: r =>
    if b = pad then
      if i < 2 then .error (.symbol b (start + i))
      else if r.all (· = pad) then .ok ([], r.length + 1)
      else .error (.symbol pad (start + i))
    else do
      let n ← readSymbol (start + i) b
      let (ns, pads) ← readLastSymbols start (i + 1) r
      return ((b, n) :: ns, pads)

/-- The bytes of the last group, which has four symbols or fewer. -/
def decodeLast (start : Nat) (group : List UInt8) : Except Fault (List UInt8) := do
  match ← readLastSymbols start 0 group with
  | ([], _) => return []
  | ([_], pads) => throw (.length (start + 1 + pads))
  | (_, _ + 1) => throw .padding
  | ([(_, a), (s, b)], 0) =>
    if b % 16 = 0 then return [UInt8.ofNat (a * 4 + b / 16)]
    else throw (.lastSymbol s (start + 1))
  | ([(_, a), (_, b), (s, c)], 0) =>
    if c % 4 = 0 then return [UInt8.ofNat (a * 4 + b / 16), UInt8.ofNat (b % 16 * 16 + c / 4)]
    else throw (.lastSymbol s (start + 2))
  | ((_, a) :: (_, b) :: (_, c) :: (_, d) :: _, 0) =>
    return [UInt8.ofNat (a * 4 + b / 16), UInt8.ofNat (b % 16 * 16 + c / 4),
      UInt8.ofNat (c % 4 * 64 + d)]

/-- The bytes of groups of four symbols. The group at the end is the last. -/
def decodeGroups (start : Nat) : List UInt8 → Except Fault (List UInt8)
  | a :: b :: c :: d :: e :: r => do
    let a ← readSymbol start a
    let b ← readSymbol (start + 1) b
    let c ← readSymbol (start + 2) c
    let d ← readSymbol (start + 3) d
    let rest ← decodeGroups (start + 4) (e :: r)
    return UInt8.ofNat (a * 4 + b / 16) :: UInt8.ofNat (b % 16 * 16 + c / 4) ::
      UInt8.ofNat (c % 4 * 64 + d) :: rest
  | group => decodeLast start group

/-- The bytes of a base64 text. A symbol that stands alone at the end is
looked at first. -/
def decode (text : List UInt8) : Except Fault (List UInt8) :=
  match text.getLast? with
  | none => .ok []
  | some b =>
    if text.length % 4 = 1 ∧ b ≠ pad ∧ (sextet? b).isNone then
      .error (.symbol b (text.length - 1))
    else decodeGroups 0 text

end Warrant.Text.Base64Url
