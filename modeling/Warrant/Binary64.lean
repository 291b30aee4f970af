-- Floating point numbers of 64 bits, by their bits. Every operation is
-- exact arithmetic on natural numbers and one rounding at the end. The
-- rounding goes to the nearest number, and a tie goes to the even one.
import Warrant.Power
import Warrant.Word

namespace Warrant

structure Binary64 where
  bits : UInt64
deriving DecidableEq, Repr, Inhabited

namespace Binary64

/-! ## The parts of a number -/

/-- The number of fractions: two to the power 52. -/
def fractionSize : Nat := 0x10000000000000

def fraction (x : Binary64) : Nat := x.bits.toNat % fractionSize

def exponentField (x : Binary64) : Nat := x.bits.toNat / fractionSize % 2048

def isNegative (x : Binary64) : Bool := Word.half ≤ x.bits.toNat

def isFinite (x : Binary64) : Bool := x.exponentField != 2047

def isNaN (x : Binary64) : Bool := x.exponentField == 2047 && x.fraction != 0

/-- The bits without the sign. They grow with the absolute value. -/
def magnitude (x : Binary64) : Nat := x.bits.toNat % Word.half

def isZero (x : Binary64) : Bool := x.magnitude == 0

/-- A finite number is its significand times two to its power, up to the sign. -/
def significand (x : Binary64) : Nat :=
  if x.exponentField = 0 then x.fraction else fractionSize + x.fraction

def power (x : Binary64) : Int :=
  if x.exponentField = 0 then -1074 else (x.exponentField : Int) - 1075

def ofMagnitude (m : Nat) : Binary64 := ⟨UInt64.ofNat m⟩

def negate (x : Binary64) : Binary64 := ⟨x.bits ^^^ 0x8000000000000000⟩

/-- The magnitude of infinity. -/
def infinity : Nat := 2047 * fractionSize

/-! ## Order -/

/-- The place of a number on the line. Both zeros have one place. -/
def place (x : Binary64) : Int := if x.isNegative then -(x.magnitude : Int) else x.magnitude

/-- The order of two numbers. A number that is none has no order. -/
def compare? (x y : Binary64) : Option Ordering :=
  if x.isNaN || y.isNaN then none else some (compare x.place y.place)

/-- Equality of numbers: the zeros are equal, and what is no number is not
equal to itself. -/
def same (x y : Binary64) : Bool := compare? x y == some .eq

/-! ## Rounding -/

/-- The natural number nearest to a quotient. A tie goes to the even one. -/
def nearest (num den : Nat) : Nat :=
  let q := num / den
  let r := num % den
  if 2 * r < den then q
  else if den < 2 * r then q + 1
  else if q % 2 = 0 then q else q + 1

/-- `num / den` is at least two to the `e`. -/
def reachesPower (num den : Nat) (e : Int) : Bool :=
  den * twoTo e.toNat ≤ num * twoTo (-e).toNat

/-- The exponent `e` of a positive quotient, with `2 ^ e ≤ num / den < 2 ^ (e + 1)`. -/
def binaryOrder (num den : Nat) : Int :=
  let e := (Nat.log2 num : Int) - Nat.log2 den
  if reachesPower num den e then e else e - 1

/-- The number nearest to a quotient that is not negative. -/
def ofRatio (num den : Nat) : Binary64 :=
  if num = 0 then ofMagnitude 0
  else
    let p := max (binaryOrder num den - 52) (-1074)
    let m := nearest (num * twoTo (-p).toNat) (den * twoTo p.toNat)
    ofMagnitude (min ((p + 1074).toNat * fractionSize + m) infinity)

def ofNat (n : Nat) : Binary64 := ofRatio n 1

/-- The product of two numbers that are not negative. -/
def times (x y : Binary64) : Binary64 :=
  let p := x.power + y.power
  ofRatio (x.significand * y.significand * twoTo p.toNat) (twoTo (-p).toNat)

/-- The quotient of two numbers that are not negative. -/
def dividedBy (x y : Binary64) : Binary64 :=
  let p := x.power - y.power
  ofRatio (x.significand * twoTo p.toNat) (y.significand * twoTo (-p).toNat)

/-! ## Decimal scale -/

def powerOfTen (n : Nat) : Binary64 := ofNat (tenTo n)

/-- A number times a power of ten, by one product or quotient with the
rounded power. A small power takes one quotient for each 308 places. A
result beyond the largest number is none. -/
def scaleByTen (x : Binary64) (exponent : Int) : Option Binary64 :=
  if exponent.natAbs ≤ 308 then
    if 0 ≤ exponent then
      let y := x.times (powerOfTen exponent.natAbs)
      if y.isFinite then some y else none
    else some (x.dividedBy (powerOfTen exponent.natAbs))
  else if x.isZero then some x
  else if 0 ≤ exponent then none
  else scaleByTen (x.dividedBy (powerOfTen 308)) (exponent + 308)
termination_by exponent.natAbs
decreasing_by omega

end Binary64

end Warrant
