-- JSON numerals: their text, the number that they denote, and the numeral
-- of a number. A numeral without fraction and exponent that fits a 64-bit
-- word is an integer. Every other numeral is a floating point number, and
-- some are too large for that.
import Warrant.Binary64
import Warrant.Text.Decimal
import Warrant.Word

namespace Warrant.Json

open Warrant.Text

structure Numeral where
  negative : Bool
  whole : List Digit
  fraction : Option (List Digit)
  exponent : Option Int
deriving DecidableEq, Repr

/-- Where a reader stops that wants the value of a literal which has none:
within the literal, or right behind it. -/
inductive Stop
  | within
  | behind
deriving DecidableEq, Repr

inductive Number
  | integer (n : Int)
  | real (x : Binary64)
deriving DecidableEq, Repr

namespace Numeral

/-! ## Text -/

def renderSign (negative : Bool) : List Char := if negative then ['-'] else []

def renderInt (n : Int) : List Char := renderSign (n < 0) ++ Decimal.render n.natAbs

def render (n : Numeral) : List Char :=
  renderSign n.negative ++ n.whole.map Digit.toChar ++
    (match n.fraction with
      | some ds => '.' :: ds.map Digit.toChar
      | none => []) ++
    (match n.exponent with
      | some e => 'e' :: renderInt e
      | none => [])

/-- The digits before the point: a zero alone, or digits that do not start
with zero. -/
def readWhole (cs : List Char) : Option (List Digit × List Char) :=
  match Decimal.takeDigits cs with
  | ([], _) => none
  | ([d], rest) => some ([d], rest)
  | (d :: ds, rest) => if d.val = 0 then none else some (d :: ds, rest)

/-- A point and at least one digit, or nothing. -/
def readFraction : List Char → Option (Option (List Digit) × List Char)
  | '.' :: cs =>
    match Decimal.takeDigits cs with
    | ([], _) => none
    | (ds, rest) => some (some ds, rest)
  | cs => some (none, cs)

/-- The digits of an exponent, and its value. -/
def readExponentDigits (negative : Bool) (cs : List Char) : Option (Option Int × List Char) :=
  match Decimal.takeDigits cs with
  | ([], _) => none
  | (ds, rest) =>
    let n := Decimal.value ds
    some (some (if negative then -(n : Int) else n), rest)

def readExponentSign : List Char → Option (Option Int × List Char)
  | '-' :: cs => readExponentDigits true cs
  | '+' :: cs => readExponentDigits false cs
  | cs => readExponentDigits false cs

def readExponent : List Char → Option (Option Int × List Char)
  | 'e' :: cs => readExponentSign cs
  | 'E' :: cs => readExponentSign cs
  | cs => some (none, cs)

/-- The numeral at the start of a text, and what follows it. -/
def read (cs : List Char) : Option (Numeral × List Char) := do
  let (negative, cs) := match cs with
    | '-' :: r => (true, r)
    | r => (false, r)
  let (whole, cs) ← readWhole cs
  let (fraction, cs) ← readFraction cs
  let (exponent, cs) ← readExponent cs
  return (⟨negative, whole, fraction, exponent⟩, cs)

/-! ## Meaning -/

/-- Adds digits to a number as long as it fits a 64-bit word, and counts
them. -/
def absorb (n : Nat) : List Digit → Nat × Nat
  | [] => (n, 0)
  | d :: ds =>
    let m := 10 * n + d.val
    if m < Word.limit then
      let (s, count) := absorb m ds
      (s, count + 1)
    else (n, 0)

/-- The floating point number of a numeral. Its first digits make a 64-bit
word; the digits before the point that are left, and the exponent, give
the scale. None if the number is too large. -/
def real? (n : Numeral) : Option Binary64 :=
  let (s, used) := absorb 0 n.whole
  let left := n.whole.length - used
  let (s, used) := absorb s (n.fraction.getD [])
  let exponent := (left : Int) - used + n.exponent.getD 0
  ((Binary64.ofNat s).scaleByTen exponent).map fun x => if n.negative then x.negate else x

/-- The number that a numeral denotes. A negative zero is no integer. -/
def number? (n : Numeral) : Option Number :=
  let v := Decimal.value n.whole
  match n.fraction, n.exponent with
  | none, none =>
    if n.negative then
      if 0 < v ∧ v ≤ Word.half then some (.integer (-(v : Int))) else n.real?.map .real
    else if v < Word.limit then some (.integer v)
    else n.real?.map .real
  | _, _ => n.real?.map .real

/-- The largest exponent that is read. -/
def maxExponent : Int := 2147483647

/-- Where the reader of a numeral without a number stops: at its end, or at
the first digit of the exponent that makes it too large to be read. -/
def stop (n : Numeral) : Stop :=
  if maxExponent < n.exponent.getD 0 / 10 then .within else .behind

/-- The numeral of an integer. -/
def ofInt (n : Int) : Numeral := ⟨n < 0, Decimal.digits n.natAbs, none, none⟩

end Numeral

end Warrant.Json
