-- JSON texts as trees. The writer gives the compact text of a tree, the
-- reader gives the tree of a text. The reader checks the grammar only. A
-- literal can be too large for a number, hold half of a surrogate pair, or
-- hold bytes that are not UTF-8; that matters to those who want the number
-- or the text.
import Warrant.Json.Numeral
import Warrant.Text.Hex
import Warrant.Text.Utf8

namespace Warrant

open Warrant.Text

/-- What a string literal spells: a text, or none. -/
abbrev Json.Literal := Except Json.Stop String

inductive Json
  | null
  | bool (b : Bool)
  | number (n : Json.Numeral)
  | string (s : Json.Literal)
  | array (items : List Json)
  | object (members : List (Json.Literal × Json))
deriving Inhabited

namespace Json

def text (s : String) : Json := .string (.ok s)

/-- An object with these members. -/
def ofFields (fields : List (String × Json)) : Json :=
  .object (fields.map fun f => (.ok f.1, f.2))

def texts (l : List String) : Json := .array (l.map text)

def int (n : Int) : Json := .number (.ofInt n)

/-! ## Writing -/

/-- Quotes, backslashes and control characters are escaped, and nothing
else. -/
def renderChar (c : Char) : List Char :=
  if c = '"' then ['\\', '"']
  else if c = '\\' then ['\\', '\\']
  else if 0x20 ≤ c.toNat then [c]
  else if c.toNat = 8 then ['\\', 'b']
  else if c.toNat = 9 then ['\\', 't']
  else if c.toNat = 10 then ['\\', 'n']
  else if c.toNat = 12 then ['\\', 'f']
  else if c.toNat = 13 then ['\\', 'r']
  else ['\\', 'u', '0', '0', Hex.digit (c.toNat / 16), Hex.digit (c.toNat % 16)]

/-- A literal without a text is half of a surrogate pair. A first half stops
its reader behind the literal, and a second half within it. -/
def renderString : Literal → List Char
  | .ok s => '"' :: s.toList.flatMap renderChar ++ ['"']
  | .error .behind => ['"', '\\', 'u', 'd', '8', '0', '0', '"']
  | .error .within => ['"', '\\', 'u', 'd', 'c', '0', '0', '"']

mutual

def render : Json → List Char
  | .null => ['n', 'u', 'l', 'l']
  | .bool true => ['t', 'r', 'u', 'e']
  | .bool false => ['f', 'a', 'l', 's', 'e']
  | .number n => n.render
  | .string s => renderString s
  | .array items => '[' :: renderItems true items
  | .object members => '\x7b' :: renderMembers true members

/-- The items that are left, and the end of the array. -/
def renderItems (first : Bool) : List Json → List Char
  | [] => [']']
  | x :: r => (if first then [] else [',']) ++ render x ++ renderItems false r

def renderMembers (first : Bool) : List (Literal × Json) → List Char
  | [] => ['\x7d']
  | (k, x) :: r =>
    (if first then [] else [',']) ++ renderString k ++ ':' :: render x ++ renderMembers false r

end

/-- The text of a tree. -/
def write (j : Json) : String := String.ofList j.render

/-! ## Reading strings -/

def isSpace (c : Char) : Bool := c = ' ' || c = '\t' || c = '\n' || c = '\r'

def skipSpace (cs : List Char) : List Char := cs.dropWhile isSpace

/-- A part of a string literal: a character, or the number of one. -/
inductive Piece
  | char (c : Char)
  | unit (n : Nat)
deriving DecidableEq

def escape? : Char → Option Char
  | '"' => some '"'
  | '\\' => some '\\'
  | '/' => some '/'
  | 'b' => some (Char.ofNat 8)
  | 'f' => some (Char.ofNat 12)
  | 'n' => some '\n'
  | 'r' => some '\r'
  | 't' => some '\t'
  | _ => none

def hexUnit? (a b c d : Char) : Option Nat := do
  return (((← Hex.value? a) * 16 + (← Hex.value? b)) * 16 + (← Hex.value? c)) * 16 + (← Hex.value? d)

/-- The parts of a literal up to its closing quote, and what follows it. -/
def readPieces : List Char → Option (List Piece × List Char)
  | [] => none
  | '"' :: r => some ([], r)
  | '\\' :: 'u' :: a :: b :: c :: d :: r => do
    let n ← hexUnit? a b c d
    let (ps, rest) ← readPieces r
    return (.unit n :: ps, rest)
  | '\\' :: e :: r => do
    let c ← escape? e
    let (ps, rest) ← readPieces r
    return (.char c :: ps, rest)
  | c :: r =>
    if c.toNat < 0x20 then none
    else do
      let (ps, rest) ← readPieces r
      return (.char c :: ps, rest)

def isHighSurrogate (n : Nat) : Bool := 0xD800 ≤ n && n < 0xDC00

def isLowSurrogate (n : Nat) : Bool := 0xDC00 ≤ n && n < 0xE000

/-- The parts with a number for each character: a high surrogate and the low
one after it are one number. A surrogate without its other half stops the
reader. After a high one the reader has looked at what follows, and so it
has left the literal if that is the closing quote. -/
def joinSurrogates : List Piece → Except Stop (List Piece)
  | [] => .ok []
  | .char c :: r => (joinSurrogates r).map (.char c :: ·)
  | .unit n :: .unit m :: r =>
    if isHighSurrogate n then
      if isLowSurrogate m then
        (joinSurrogates r).map (.unit (0x10000 + (n - 0xD800) * 0x400 + (m - 0xDC00)) :: ·)
      else .error .within
    else if isLowSurrogate n then .error .within
    else (joinSurrogates (.unit m :: r)).map (.unit n :: ·)
  | .unit n :: r =>
    if isHighSurrogate n then .error (if r.isEmpty then .behind else .within)
    else if isLowSurrogate n then .error .within
    else (joinSurrogates r).map (.unit n :: ·)

def Piece.toChar : Piece → Char
  | .char c => c
  | .unit n => Char.ofNat n

/-- What the parts of a literal spell. -/
def spellText (ps : List Piece) : Literal :=
  (joinSurrogates ps).map fun ps => String.ofList (ps.map Piece.toChar)

/-- The bytes of a part, if its characters stand for bytes. -/
def Piece.toBytes : Piece → List UInt8
  | .char c => [UInt8.ofNat c.toNat]
  | .unit n => Utf8.bytes (String.singleton (Char.ofNat n))

/-- What the parts of a literal spell, if its characters stand for bytes. The
reader looks at the bytes when it has all of them. -/
def spellBytes (ps : List Piece) : Literal := do
  match Utf8.text? ((← joinSurrogates ps).flatMap Piece.toBytes) with
  | some s => return s
  | none => throw .behind

/-- A string literal after its opening quote, and what follows it. -/
def readString (spell : List Piece → Literal) (cs : List Char) :
    Option (Literal × List Char) := do
  let (ps, rest) ← readPieces cs
  return (spell ps, rest)

/-! ## Reading trees -/

mutual

/-- The tree at the start of a text, and what follows it. The fuel bounds
the depth of the recursion. -/
def readTree (spell : List Piece → Literal) : Nat → List Char → Option (Json × List Char)
  | 0, _ => none
  | fuel + 1, cs =>
    match skipSpace cs with
    | 'n' :: 'u' :: 'l' :: 'l' :: r => some (.null, r)
    | 't' :: 'r' :: 'u' :: 'e' :: r => some (.bool true, r)
    | 'f' :: 'a' :: 'l' :: 's' :: 'e' :: r => some (.bool false, r)
    | '"' :: r => (readString spell r).map fun (s, r) => (.string s, r)
    | '[' :: r =>
      match skipSpace r with
      | ']' :: r => some (.array [], r)
      | r => (readItems spell fuel r).map fun (items, r) => (.array items, r)
    | '\x7b' :: r =>
      match skipSpace r with
      | '\x7d' :: r => some (.object [], r)
      | r => (readMembers spell fuel r).map fun (members, r) => (.object members, r)
    | cs => (Numeral.read cs).map fun (n, r) => (.number n, r)

/-- One item or more, up to the end of the array. -/
def readItems (spell : List Piece → Literal) : Nat → List Char → Option (List Json × List Char)
  | 0, _ => none
  | fuel + 1, cs => do
    let (x, r) ← readTree spell fuel cs
    match skipSpace r with
    | ']' :: r => return ([x], r)
    | ',' :: r =>
      let (xs, r) ← readItems spell fuel r
      return (x :: xs, r)
    | _ => none

/-- One member or more, up to the end of the object. -/
def readMembers (spell : List Piece → Literal) :
    Nat → List Char → Option (List (Literal × Json) × List Char)
  | 0, _ => none
  | fuel + 1, cs => do
    match skipSpace cs with
    | '"' :: r =>
      let (k, r) ← readString spell r
      match skipSpace r with
      | ':' :: r =>
        let (x, r) ← readTree spell fuel r
        match skipSpace r with
        | '\x7d' :: r => return ([(k, x)], r)
        | ',' :: r =>
          let (ms, r) ← readMembers spell fuel r
          return ((k, x) :: ms, r)
        | _ => none
      | _ => none
    | _ => none

end

/-- The tree of all characters. Each one takes at most two calls. -/
def readWhole (spell : List Piece → Literal) (cs : List Char) : Option Json := do
  let (j, rest) ← readTree spell (2 * cs.length + 2) cs
  match skipSpace rest with
  | [] => return j
  | _ => none

/-- The tree of a text. -/
def read? (cs : List Char) : Option Json := readWhole spellText cs

/-- The tree of some bytes. If they are no text, each byte is read as a
character, and each literal is decoded by itself. -/
def ofBytes? (bytes : List UInt8) : Option Json :=
  match Utf8.text? bytes with
  | some s => read? s.toList
  | none => readWhole spellBytes (bytes.map fun b => Char.ofNat b.toNat)

/-- The bytes of a text have the tree of the text. -/
theorem ofBytes?_bytes (s : String) : ofBytes? (Utf8.bytes s) = read? s.toList := by
  rw [ofBytes?, Utf8.text?_bytes]

end Json

end Warrant
