-- Instants of UTC: seconds since 1970 and nanoseconds. The nanoseconds of
-- a leap second go on from 10 ^ 9, so the order is that of the pairs.
import Warrant.Calendar

namespace Warrant

structure Instant where
  seconds : Int
  nanos : Nat
deriving DecidableEq, Repr, Inhabited

namespace Instant

def secondsPerDay : Int := 86400

def firstYear : Int := -262143

def lastYear : Int := 262142

/-- The first second of the calendar. -/
def firstSecond : Int := Date.toDay ⟨firstYear, 1, 1⟩ * secondsPerDay

/-- The last second of the calendar. -/
def lastSecond : Int := Date.toDay ⟨lastYear, 12, 31⟩ * secondsPerDay + 86399

/-- An instant with a date. A leap second is in the last second of a
minute. -/
def InCalendar (t : Instant) : Prop :=
  firstSecond ≤ t.seconds ∧ t.seconds ≤ lastSecond ∧ t.nanos < 2000000000 ∧
    (1000000000 ≤ t.nanos → t.seconds % 60 = 59)

instance (t : Instant) : Decidable t.InCalendar := by
  unfold InCalendar; infer_instance

def compare (a b : Instant) : Ordering :=
  (Ord.compare a.seconds b.seconds).then (Ord.compare a.nanos b.nanos)

/-- The first instant is strictly after the second. -/
def isAfter (a b : Instant) : Bool := a.compare b == .gt

/-- A clock can show the instant. No clock shows one before 1970, or one
that is not in the calendar. -/
def OnClock (t : Instant) : Prop := 0 ≤ t.seconds ∧ t.seconds ≤ lastSecond

instance (t : Instant) : Decidable t.OnClock := by
  unfold OnClock; infer_instance

/-- The instant some seconds after the one of a clock. The clock must show
its instant, and the later one must be in the calendar. -/
def plusSeconds? (t : Instant) (n : Int) : Option Instant :=
  let s := t.seconds + n
  if t.OnClock ∧ firstSecond ≤ s ∧ s ≤ lastSecond then some ⟨s, t.nanos⟩ else none

end Instant

end Warrant
