-- Instants as RFC 3339 texts. The writer gives UTC with as many digits of
-- the second as are needed, in groups of three. The reader is more
-- liberal: it takes any offset, one digit for two, and blanks between the
-- fields.
import Warrant.Instant
import Warrant.Power
import Warrant.Text.Blank
import Warrant.Text.Decimal

namespace Warrant.Instant

open Warrant.Text

/-! ## Writing -/

/-- A number with zeros in front, up to a width. -/
def padded (width n : Nat) : List Char :=
  let cs := Decimal.render n
  List.replicate (width - cs.length) '0' ++ cs

/-- Years of four digits stand alone; all others have a sign. -/
def renderYear (year : Int) : List Char :=
  if 0 ≤ year ∧ year ≤ 9999 then padded 4 year.natAbs
  else (if year < 0 then '-' else '+') :: padded 4 year.natAbs

def renderFraction (nanos : Nat) : List Char :=
  if nanos = 0 then []
  else if nanos % 1000000 = 0 then '.' :: padded 3 (nanos / 1000000)
  else if nanos % 1000 = 0 then '.' :: padded 6 (nanos / 1000)
  else '.' :: padded 9 nanos

def render (t : Instant) : List Char :=
  let date := Date.ofDay (t.seconds / secondsPerDay)
  let clock := (t.seconds % secondsPerDay).toNat
  let leap := t.nanos / 1000000000
  renderYear date.year ++ '-' :: padded 2 date.month ++ '-' :: padded 2 date.day ++
    'T' :: padded 2 (clock / 3600) ++ ':' :: padded 2 (clock / 60 % 60) ++
    ':' :: padded 2 (clock % 60 + leap) ++ renderFraction (t.nanos % 1000000000) ++ ['Z']

/-- The text of an instant. -/
def write (t : Instant) : String := String.ofList t.render

/-! ## Reading -/

/-- A number of one digit or more, and of `width` digits at most. Blanks
may stand before it. -/
def readNumber (width : Nat) (cs : List Char) : Option (Nat × List Char) :=
  let cs := dropBlanks cs
  match Decimal.takeDigits (cs.take width) with
  | ([], _) => none
  | (ds, rest) => some (Decimal.value ds, rest ++ cs.drop width)

/-- A year has four digits at most, or a sign and any number of digits. -/
def readYear (cs : List Char) : Option (Int × List Char) :=
  match dropBlanks cs with
  | '-' :: r =>
    match Decimal.takeDigits r with
    | ([], _) => none
    | (ds, rest) => some (-(Decimal.value ds : Int), rest)
  | '+' :: r =>
    match Decimal.takeDigits r with
    | ([], _) => none
    | (ds, rest) => some (Decimal.value ds, rest)
  | r => (readNumber 4 r).map fun (n, rest) => (n, rest)

/-- A mark between two fields. Blanks may stand before it. -/
def readMark (mark : Char) (cs : List Char) : Option (List Char) :=
  match dropBlanks cs with
  | c :: r => if c = mark then some r else none
  | [] => none

/-- The nanoseconds after the point. Digits after the ninth do not count. -/
def readFraction : List Char → Option (Nat × List Char)
  | '.' :: r =>
    match Decimal.takeDigits r with
    | ([], _) => none
    | (ds, rest) =>
      let first := ds.take 9
      some (Decimal.value first * tenTo (9 - first.length), rest)
  | cs => some (0, cs)

/-- The minutes of an offset: two digits. -/
def readOffsetMinutes : List Char → Option (Nat × List Char)
  | a :: b :: r => do
    let a ← Digit.ofChar? a
    let b ← Digit.ofChar? b
    if a.val < 6 then some (10 * a.val + b.val, r) else none
  | _ => none

/-- The seconds of an offset after its sign. Colons and blanks may stand
between hours and minutes. -/
def readOffsetClock : List Char → Option (Nat × List Char)
  | a :: b :: r => do
    let a ← Digit.ofChar? a
    let b ← Digit.ofChar? b
    let (minutes, rest) ← readOffsetMinutes (r.dropWhile fun c => c = ':' || isBlank c)
    return ((10 * a.val + b.val) * 3600 + minutes * 60, rest)
  | _ => none

/-- The seconds of an offset: a name of UTC, or a sign and a clock. -/
def readOffset : List Char → Option (Int × List Char)
  | 'Z' :: r => some (0, r)
  | 'z' :: r => some (0, r)
  | '+' :: r => (readOffsetClock r).map fun (n, rest) => (n, rest)
  | '-' :: r => (readOffsetClock r).map fun (n, rest) => (-(n : Int), rest)
  | '\u2212' :: r => (readOffsetClock r).map fun (n, rest) => (-(n : Int), rest)
  | u :: t :: c :: r =>
    if u.toUpper = 'U' ∧ t.toUpper = 'T' ∧ c.toUpper = 'C' then some (0, r) else none
  | _ => none

def readDate (cs : List Char) : Option (Date × List Char) := do
  let (year, cs) ← readYear cs
  let (month, cs) ← readNumber 2 (← readMark '-' cs)
  let (day, cs) ← readNumber 2 (← readMark '-' cs)
  return (⟨year, month, day⟩, cs)

/-- A time of day: its seconds, with a leap second counted in the nanoseconds. -/
def readClock (cs : List Char) : Option (Nat × Nat × List Char) := do
  let (hour, cs) ← readNumber 2 cs
  let (minute, cs) ← readNumber 2 (← readMark ':' cs)
  let (second, cs) ← readNumber 2 (← readMark ':' cs)
  let (nanos, cs) ← readFraction cs
  if hour < 24 ∧ minute < 60 ∧ second < 60 then
    some (hour * 3600 + minute * 60 + second, nanos, cs)
  else if hour < 24 ∧ minute < 60 ∧ second = 60 then
    some (hour * 3600 + minute * 60 + 59, nanos + 1000000000, cs)
  else none

/-- Exactly one separator stands between date and time. -/
def readSeparator : List Char → Option (List Char)
  | 'T' :: r => some r
  | 't' :: r => some r
  | ' ' :: r => some r
  | _ => none

/-- The instant that a whole text denotes. -/
def readChars? (cs : List Char) : Option Instant := do
  let (date, cs) ← readDate cs
  let (clock, nanos, cs) ← readClock (← readSeparator cs)
  let (offset, cs) ← readOffset (dropBlanks cs)
  let seconds := date.toDay * secondsPerDay + clock - offset
  if dropBlanks cs = [] ∧ date.isValid ∧ firstYear ≤ date.year ∧ date.year ≤ lastYear ∧
      offset.natAbs < 86400 ∧ firstSecond ≤ seconds ∧ seconds ≤ lastSecond then
    some ⟨seconds, nanos⟩
  else none

def read? (s : String) : Option Instant := readChars? s.toList

end Warrant.Instant
