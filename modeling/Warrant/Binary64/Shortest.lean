-- The shortest decimal of a floating point number. Of all decimals that
-- round to the number it has the fewest digits. Of those it is the
-- nearest, and a tie goes to the even digit.
import Warrant.Binary64
import Warrant.Json.Numeral

namespace Warrant.Binary64

open Warrant.Text
open Warrant.Json (Numeral)

/-! ## The digits -/

/-- The reals that round to a number: from `low` to `high`, as numerators
over one denominator, with the number itself between them. The ends
belong to the interval when it is closed. -/
structure Rounding where
  low : Nat
  value : Nat
  high : Nat
  den : Nat
  closed : Bool

/-- The interval of a finite number. Below a power of two the neighbour is
at half the distance. -/
def rounding (x : Binary64) : Rounding :=
  let m := x.significand
  let p := x.power - 2
  let scale := twoTo p.toNat
  let below := if x.fraction = 0 ∧ 1 < x.exponentField then 1 else 2
  { low := (4 * m - below) * scale
    value := 4 * m * scale
    high := (4 * m + 2) * scale
    den := twoTo (-p).toNat
    closed := m % 2 == 0 }

/-- The exponent `e` of a positive quotient, with `10 ^ (e - 1) ≤ num / den < 10 ^ e`. -/
def decimalOrder (num den : Nat) : Int :=
  let e := ((Decimal.digits num).length : Int) - (Decimal.digits den).length
  if num * tenTo (-e).toNat < den * tenTo e.toNat then e else e + 1

/-- The multiple of ten to the `t` that rounds to the number, if one of its
two neighbours on that grid does. -/
def Rounding.onGrid (r : Rounding) (t : Int) : Option Nat :=
  let up := r.den * tenTo t.toNat
  let down := tenTo (-t).toNat
  let inside (c : Nat) : Bool :=
    if r.closed then r.low * down ≤ c * up && c * up ≤ r.high * down
    else r.low * down < c * up && c * up < r.high * down
  let c := r.value * down / up
  match inside c, inside (c + 1) with
  | true, true =>
    let before := r.value * down - c * up
    let after := (c + 1) * up - r.value * down
    some (if before < after ∨ (before = after ∧ c % 2 = 0) then c else c + 1)
  | true, false => some c
  | false, true => some (c + 1)
  | false, false => none

/-- The digits of a positive finite number, without zeros at the end, and
the place of the point after the first digit's left side: the number is
`0.d₁d₂… * 10 ^ place`. -/
def shortest (x : Binary64) : List Digit × Int :=
  let r := x.rounding
  let e := decimalOrder r.value r.den
  let found := (List.range 17).findSome? fun (n : Nat) =>
    let t := e - (n + 1)
    (r.onGrid t).map fun c => (c, t)
  let (c, t) := found.getD (0, 0)
  let ds := Decimal.digits c
  ((ds.reverse.dropWhile (· = .zero)).reverse, ds.length + t)

/-! ## The numeral -/

/-- Numbers from 0.00001 up to 10 ^ 16 are written in full, with at least
one digit after the point. All others have one digit before the point
and an exponent. -/
def layout (negative : Bool) (ds : List Digit) (place : Int) : Numeral :=
  if ds.length ≤ place ∧ place ≤ 16 then
    ⟨negative, ds ++ List.replicate (place.toNat - ds.length) .zero, some [.zero], none⟩
  else if 0 < place ∧ place ≤ 16 then
    ⟨negative, ds.take place.toNat, some (ds.drop place.toNat), none⟩
  else if -5 < place ∧ place ≤ 0 then
    ⟨negative, [.zero], some (List.replicate (-place).toNat .zero ++ ds), none⟩
  else if ds.length = 1 then ⟨negative, ds, none, some (place - 1)⟩
  else ⟨negative, ds.take 1, some (ds.drop 1), some (place - 1)⟩

/-- The numeral of a finite number. -/
def numeral (x : Binary64) : Numeral :=
  if x.isZero then ⟨x.isNegative, [.zero], some [.zero], none⟩
  else
    let (ds, place) := x.shortest
    layout x.isNegative ds place

end Warrant.Binary64
