-- The proleptic Gregorian calendar. Days are counted from 1970-01-01. Each
-- day has one date, and each date in the calendar has one day.

namespace Warrant

structure Date where
  year : Int
  month : Nat
  day : Nat
deriving DecidableEq, Repr

namespace Date

def isLeap (year : Int) : Bool := year % 4 == 0 && (year % 100 != 0 || year % 400 == 0)

/-- The days of each month. -/
def monthLengths (leap : Bool) : List Nat :=
  [31, if leap then 29 else 28, 31, 30, 31, 30, 31, 31, 30, 31, 30, 31]

/-- The days from the start of year 0 to the start of a year. -/
def daysBeforeYear (year : Int) : Int :=
  365 * year + (year + 3) / 4 - (year + 99) / 100 + (year + 399) / 400

/-- The day 1970-01-01, from the start of year 0. -/
def epoch : Int := 719528

/-- The month and the day of the month are in the calendar. -/
def isValid (d : Date) : Bool :=
  match d.month with
  | 0 => false
  | m + 1 =>
    match (monthLengths (isLeap d.year))[m]? with
    | some length => 1 ≤ d.day && d.day ≤ length
    | none => false

/-- The days before a month, which counts from 0 in a list of lengths. -/
def joinMonths : List Nat → Nat → Nat
  | length :: r, m + 1 => length + joinMonths r m
  | _, _ => 0

def toDay (d : Date) : Int :=
  daysBeforeYear d.year + joinMonths (monthLengths (isLeap d.year)) (d.month - 1) + d.day - 1 -
    epoch

/-- The year that holds a day, counted from the start of year 0. The mean
length of a year gives it, or a year next to it. -/
def yearOf (n : Int) : Int :=
  let y := 400 * n / 146097
  if n < daysBeforeYear y then y - 1
  else if daysBeforeYear (y + 1) ≤ n then y + 1
  else y

/-- The month and the day of the month, both from 0, of a day of the year. -/
def splitMonths : List Nat → Nat → Nat × Nat
  | [], n => (0, n)
  | length :: r, n =>
    if n < length then (0, n)
    else
      let (m, d) := splitMonths r (n - length)
      (m + 1, d)

def ofDay (day : Int) : Date :=
  let n := day + epoch
  let year := yearOf n
  let (m, d) := splitMonths (monthLengths (isLeap year)) (n - daysBeforeYear year).toNat
  ⟨year, m + 1, d + 1⟩

end Date

end Warrant
