-- Each day has a date in the calendar, and the date gives the day back. A day
-- lies in the year that its date names, so a range of days that is whole years
-- is a range of years.
import Mathlib.Algebra.Order.Ring.Int
import Warrant.Calendar

namespace Warrant.Date

/-! ## Years -/

theorem daysBeforeYear_strictMono {a b : Int} (h : a < b) : daysBeforeYear a < daysBeforeYear b := by
  unfold daysBeforeYear
  omega

theorem daysBeforeYear_mono {a b : Int} (h : a ≤ b) : daysBeforeYear a ≤ daysBeforeYear b := by
  rcases Int.lt_or_eq_of_le h with h | rfl
  · exact Int.le_of_lt (daysBeforeYear_strictMono h)
  · exact Int.le_refl _

theorem isLeap_iff {year : Int} :
    isLeap year = true ↔ year % 4 = 0 ∧ (year % 100 ≠ 0 ∨ year % 400 = 0) := by
  simp [isLeap]

/-- A year has the days of its months. -/
theorem daysBeforeYear_succ (year : Int) :
    daysBeforeYear (year + 1) = daysBeforeYear year + (monthLengths (isLeap year)).sum := by
  unfold daysBeforeYear
  cases h : isLeap year with
  | true =>
    rw [isLeap_iff] at h
    have hsum : (monthLengths true).sum = 366 := rfl
    omega
  | false =>
    rw [← Bool.not_eq_true, isLeap_iff] at h
    have hsum : (monthLengths false).sum = 365 := rfl
    omega

/-- The mean length of a year leads to the year of a day, or next to it. -/
theorem meanYear_spec (n : Int) :
    daysBeforeYear (400 * n / 146097 - 1) ≤ n ∧ n < daysBeforeYear (400 * n / 146097 + 1 + 1) := by
  unfold daysBeforeYear
  omega

/-- The year of a day starts before the day ends, and ends behind it. -/
theorem yearOf_spec (n : Int) :
    daysBeforeYear (yearOf n) ≤ n ∧ n < daysBeforeYear (yearOf n + 1) := by
  obtain ⟨hlow, hhigh⟩ := meanYear_spec n
  unfold yearOf
  dsimp only
  split
  · rename_i h
    rw [Int.sub_add_cancel]
    exact ⟨hlow, h⟩
  · split
    · rename_i h
      exact ⟨h, hhigh⟩
    · exact ⟨by omega, by omega⟩

/-! ## Months -/

theorem splitMonths_cons (first : Nat) (r : List Nat) (n : Nat) :
    splitMonths (first :: r) n =
      if n < first then (0, n)
      else ((splitMonths r (n - first)).1 + 1, (splitMonths r (n - first)).2) := rfl

/-- A day of a list of months is in one of them. -/
theorem splitMonths_spec {lengths : List Nat} {n : Nat} (h : n < lengths.sum) :
    ∃ length, lengths[(splitMonths lengths n).1]? = some length ∧
      (splitMonths lengths n).2 < length ∧
      joinMonths lengths (splitMonths lengths n).1 + (splitMonths lengths n).2 = n := by
  induction lengths generalizing n with
  | nil => simp at h
  | cons first r ih =>
    rw [List.sum_cons] at h
    rw [splitMonths_cons]
    split
    · rename_i hfirst
      exact ⟨first, rfl, hfirst, by simp [joinMonths]⟩
    · rename_i hfirst
      obtain ⟨length, hget, hlt, hjoin⟩ := ih (n := n - first) (by omega)
      refine ⟨length, hget, hlt, ?_⟩
      rw [joinMonths]
      omega

/-! ## Dates -/

/-- The day of the year, from 0. -/
def dayOfYear (n : Int) : Nat := (n - daysBeforeYear (yearOf n)).toNat

theorem dayOfYear_lt (n : Int) : dayOfYear n < (monthLengths (isLeap (yearOf n))).sum := by
  obtain ⟨hlow, hhigh⟩ := yearOf_spec n
  rw [daysBeforeYear_succ] at hhigh
  unfold dayOfYear
  omega

theorem daysBeforeYear_add_dayOfYear (n : Int) : daysBeforeYear (yearOf n) + dayOfYear n = n := by
  have hlow := (yearOf_spec n).1
  unfold dayOfYear
  omega

/-- The month and the day of the month, both from 0. -/
def monthAndDay (n : Int) : Nat × Nat :=
  splitMonths (monthLengths (isLeap (yearOf n))) (dayOfYear n)

theorem ofDay_eq (day : Int) :
    ofDay day =
      ⟨yearOf (day + epoch), (monthAndDay (day + epoch)).1 + 1,
        (monthAndDay (day + epoch)).2 + 1⟩ := by
  unfold ofDay monthAndDay dayOfYear
  dsimp only

/-- The month of a day is one of its year's, and the day one of the month's. -/
theorem monthAndDay_spec (n : Int) :
    ∃ length, (monthLengths (isLeap (yearOf n)))[(monthAndDay n).1]? = some length ∧
      (monthAndDay n).2 < length ∧
      joinMonths (monthLengths (isLeap (yearOf n))) (monthAndDay n).1 + (monthAndDay n).2 =
        dayOfYear n := splitMonths_spec (dayOfYear_lt n)

/-- The date of a day is in the calendar. -/
theorem isValid_ofDay (day : Int) : (ofDay day).isValid = true := by
  obtain ⟨length, hget, hlt, _⟩ := monthAndDay_spec (day + epoch)
  rw [ofDay_eq, isValid]
  dsimp only
  rw [hget]
  simp
  omega

/-- A date gives its day back. -/
theorem toDay_ofDay (day : Int) : (ofDay day).toDay = day := by
  obtain ⟨_, _, _, hjoin⟩ := monthAndDay_spec (day + epoch)
  have hyear := daysBeforeYear_add_dayOfYear (day + epoch)
  rw [ofDay_eq, toDay]
  dsimp only
  rw [Nat.add_sub_cancel]
  omega

theorem length_monthLengths (leap : Bool) : (monthLengths leap).length = 12 := rfl

theorem le_of_mem_monthLengths {leap : Bool} {length : Nat} (h : length ∈ monthLengths leap) :
    length ≤ 31 := by
  cases leap <;> simp [monthLengths] at h <;> omega

/-- Month and day of a date have two digits at most. -/
theorem month_and_day_le (day : Int) : (ofDay day).month ≤ 12 ∧ (ofDay day).day ≤ 31 := by
  obtain ⟨length, hget, hlt, _⟩ := monthAndDay_spec (day + epoch)
  have hmonth := (List.getElem?_eq_some_iff.1 hget).1
  rw [length_monthLengths] at hmonth
  have hday := le_of_mem_monthLengths (List.mem_of_getElem? hget)
  rw [ofDay_eq]
  dsimp only
  omega

/-! ## Ranges of years -/

theorem toDay_new_year (year : Int) : toDay ⟨year, 1, 1⟩ = daysBeforeYear year - epoch := by
  have hjoin (leap : Bool) : joinMonths (monthLengths leap) (1 - 1) = 0 := rfl
  unfold toDay
  dsimp only
  rw [hjoin]
  omega

theorem toDay_new_years_eve (year : Int) :
    toDay ⟨year, 12, 31⟩ = daysBeforeYear (year + 1) - 1 - epoch := by
  have hjoin (leap : Bool) :
      joinMonths (monthLengths leap) (12 - 1) + 31 = (monthLengths leap).sum := by
    cases leap <;> rfl
  have hyear := hjoin (isLeap year)
  rw [daysBeforeYear_succ, ← hyear]
  unfold toDay
  dsimp only
  omega

/-- A day from the first day of one year to the last day of another has a year
in between. -/
theorem year_ofDay_bounds {first last day : Int} (hfirst : toDay ⟨first, 1, 1⟩ ≤ day)
    (hlast : day ≤ toDay ⟨last, 12, 31⟩) :
    first ≤ (ofDay day).year ∧ (ofDay day).year ≤ last := by
  obtain ⟨hlow, hhigh⟩ := yearOf_spec (day + epoch)
  rw [toDay_new_year] at hfirst
  rw [toDay_new_years_eve] at hlast
  rw [ofDay_eq]
  dsimp only
  constructor
  · by_contra h
    have hmono := daysBeforeYear_mono (show yearOf (day + epoch) + 1 ≤ first by omega)
    omega
  · by_contra h
    have hmono := daysBeforeYear_mono (show last + 1 ≤ yearOf (day + epoch) by omega)
    omega

end Warrant.Date
