-- An instant is read back from its text. The text has a fixed number of digits
-- for each field but the year, and a year that takes more than four has a sign.
-- So each reader finds the field that its writer wrote, whatever follows.
-- And whatever text an instant is read from, the instant has a date.
import Mathlib.Data.List.Induction
import Warrant.Instant.Text
import Warrant.Proofs.Calendar

namespace Warrant

open Warrant.Text

/-! ## Digits up to a width -/

namespace Text.Decimal

theorem length_digits_le {n width : Nat} (hw : 0 < width) (h : n < 10 ^ width) :
    (digits n).length ≤ width := by
  induction width generalizing n with
  | zero => omega
  | succ w ih =>
    rw [digits]
    split
    · simp
    · rw [List.length_append, List.length_singleton]
      have hw : 0 < w := by
        rcases Nat.eq_zero_or_pos w with rfl | hw
        · omega
        · exact hw
      have hlt : n / 10 < 10 ^ w := by
        rw [Nat.pow_succ] at h
        omega
      have hlen := ih hw hlt
      omega

theorem value_zeros (k : Nat) (ds : List Digit) :
    value (List.replicate k .zero ++ ds) = value ds := by
  induction k with
  | zero => rfl
  | succ k ih => exact ih

theorem value_lt (ds : List Digit) : value ds < 10 ^ ds.length := by
  induction ds using List.reverseRecOn with
  | nil => decide
  | append_singleton ds d ih =>
    have hd : d.val < 10 := d.isLt
    rw [value_append, List.length_append, List.length_singleton, Nat.pow_succ]
    omega

/-- The digits of a number with zeros in front, up to a width. -/
def paddedDigits (width n : Nat) : List Digit :=
  List.replicate (width - (digits n).length) .zero ++ digits n

theorem value_paddedDigits (width n : Nat) : value (paddedDigits width n) = n := by
  rw [paddedDigits, value_zeros, value_digits]

theorem length_paddedDigits {width n : Nat} (hw : 0 < width) (h : n < 10 ^ width) :
    (paddedDigits width n).length = width := by
  have hlen := length_digits_le hw h
  rw [paddedDigits, List.length_append, List.length_replicate]
  omega

theorem exists_paddedDigits_eq_cons (width n : Nat) :
    ∃ d ds, paddedDigits width n = d :: ds ∧ value (d :: ds) = n := by
  have hvalue := value_paddedDigits width n
  have hne : paddedDigits width n ≠ [] := by simp [paddedDigits, digits_ne_nil]
  obtain ⟨d, ds, h⟩ := List.exists_cons_of_ne_nil hne
  exact ⟨d, ds, h, h ▸ hvalue⟩

end Text.Decimal

namespace Instant

open Decimal (paddedDigits)

theorem padded_eq (width n : Nat) : padded width n = (paddedDigits width n).map Digit.toChar := by
  have hzero : Digit.toChar .zero = '0' := by decide
  rw [padded, paddedDigits, List.map_append, List.map_replicate, hzero, Decimal.render,
    List.length_map]

theorem isBlank_digit (d : Digit) : isBlank d.toChar = false := by
  revert d
  decide

/-- A padded number starts with a digit. -/
theorem exists_padded_eq_cons (width n : Nat) :
    ∃ (d : Digit) (r : List Char), padded width n = d.toChar :: r := by
  obtain ⟨d, ds, h, _⟩ := Decimal.exists_paddedDigits_eq_cons width n
  exact ⟨d, ds.map Digit.toChar, by rw [padded_eq, h]; rfl⟩

theorem dropBlanks_padded (width n : Nat) (rest : List Char) :
    dropBlanks (padded width n ++ rest) = padded width n ++ rest := by
  obtain ⟨d, r, h⟩ := exists_padded_eq_cons width n
  rw [h, List.cons_append, dropBlanks_of_not_blank (isBlank_digit d)]

/-! ## Fields -/

theorem takeDigits_padded (width n : Nat) {rest : List Char}
    (h : ∀ c r, rest = c :: r → Digit.ofChar? c = none) :
    Decimal.takeDigits (padded width n ++ rest) = (paddedDigits width n, rest) := by
  rw [padded_eq, Decimal.takeDigits_append _ h]

/-- A number of a width is read from its digits, whatever follows them. -/
theorem readNumber_padded {width n : Nat} (hw : 0 < width) (h : n < 10 ^ width)
    (rest : List Char) : readNumber width (padded width n ++ rest) = some (n, rest) := by
  have hlen : (padded width n).length = width := by
    rw [padded_eq, List.length_map, Decimal.length_paddedDigits hw h]
  have htake : Decimal.takeDigits ((padded width n ++ rest).take width) =
      (paddedDigits width n, []) := by
    have hend : ∀ c r, ([] : List Char) = c :: r → Digit.ofChar? c = none := by simp
    rw [List.take_left' hlen]
    simpa using takeDigits_padded width n hend
  obtain ⟨d, ds, hds, hvalue⟩ := Decimal.exists_paddedDigits_eq_cons width n
  unfold readNumber
  rw [dropBlanks_padded]
  dsimp only
  rw [htake, List.drop_left' hlen, hds]
  dsimp only
  rw [hvalue, List.nil_append]

theorem readYear_unsigned {n : Nat} (h : n < 10 ^ 4) (rest : List Char) :
    readYear (padded 4 n ++ rest) = some ((n : Int), rest) := by
  obtain ⟨d, r, hd⟩ := exists_padded_eq_cons 4 n
  unfold readYear
  rw [dropBlanks_padded]
  split
  · rename_i heq
    rw [hd] at heq
    exact absurd (List.cons.inj heq).1 (Digit.toChar_ne (by decide) d)
  · rename_i heq
    rw [hd] at heq
    exact absurd (List.cons.inj heq).1 (Digit.toChar_ne (by decide) d)
  · rw [readNumber_padded (by decide) h]
    rfl

/-- The digits of a signed year end at the mark behind it. -/
theorem takeDigits_year (n : Nat) (r : List Char) :
    Decimal.takeDigits (padded 4 n ++ '-' :: r) = (paddedDigits 4 n, '-' :: r) := by
  refine takeDigits_padded 4 n fun c s h => ?_
  cases h
  decide

theorem readYear_minus (n : Nat) (r : List Char) :
    readYear ('-' :: (padded 4 n ++ '-' :: r)) = some (-(n : Int), '-' :: r) := by
  obtain ⟨d, ds, hds, hvalue⟩ := Decimal.exists_paddedDigits_eq_cons 4 n
  rw [readYear, dropBlanks_of_not_blank (by decide)]
  simp only [takeDigits_year, hds, hvalue]

theorem readYear_plus (n : Nat) (r : List Char) :
    readYear ('+' :: (padded 4 n ++ '-' :: r)) = some ((n : Int), '-' :: r) := by
  obtain ⟨d, ds, hds, hvalue⟩ := Decimal.exists_paddedDigits_eq_cons 4 n
  rw [readYear, dropBlanks_of_not_blank (by decide)]
  simp only [takeDigits_year, hds, hvalue]

/-- A year is read whether it has a sign or not. -/
theorem readYear_renderYear (year : Int) (r : List Char) :
    readYear (renderYear year ++ '-' :: r) = some (year, '-' :: r) := by
  unfold renderYear
  split
  · rw [readYear_unsigned (by omega), Int.natAbs_of_nonneg (by omega)]
  · rw [List.cons_append]
    split
    · rw [readYear_minus, show -(year.natAbs : Int) = year by omega]
    · rw [readYear_plus, show (year.natAbs : Int) = year by omega]

theorem readMark_cons {mark : Char} (h : isBlank mark = false) (r : List Char) :
    readMark mark (mark :: r) = some r := by
  rw [readMark, dropBlanks_of_not_blank h]
  simp

/-- A fraction of the second, in groups of three digits. -/
theorem readFraction_group {width n : Nat} (hw : 0 < width) (hw' : width ≤ 9) (h : n < 10 ^ width)
    (r : List Char) :
    readFraction ('.' :: (padded width n ++ 'Z' :: r)) = some (n * tenTo (9 - width), 'Z' :: r) := by
  have htake : Decimal.takeDigits (padded width n ++ 'Z' :: r) =
      (paddedDigits width n, 'Z' :: r) := by
    refine takeDigits_padded width n fun c s hc => ?_
    cases hc
    decide
  have hlen := Decimal.length_paddedDigits hw h
  obtain ⟨d, ds, hds, hvalue⟩ := Decimal.exists_paddedDigits_eq_cons width n
  rw [hds] at hlen
  rw [readFraction, htake, hds]
  dsimp only
  rw [List.take_of_length_le (by omega), hvalue, hlen]

theorem readFraction_renderFraction {nanos : Nat} (h : nanos < 1000000000) (r : List Char) :
    readFraction (renderFraction nanos ++ 'Z' :: r) = some (nanos, 'Z' :: r) := by
  unfold renderFraction
  split
  · rename_i h0
    rw [h0]
    rfl
  split
  · rw [List.cons_append, readFraction_group (by decide) (by decide) (by omega),
      show tenTo (9 - 3) = 1000000 from rfl, Nat.div_mul_cancel (by omega)]
  split
  · rw [List.cons_append, readFraction_group (by decide) (by decide) (by omega),
      show tenTo (9 - 6) = 1000 from rfl, Nat.div_mul_cancel (by omega)]
  · rw [List.cons_append, readFraction_group (by decide) (by decide) (by omega),
      show tenTo (9 - 9) = 1 from rfl, Nat.mul_one]

/-! ## Date and clock -/

theorem readDate_render {d : Date} (hmonth : d.month ≤ 12) (hday : d.day ≤ 31) (r : List Char) :
    readDate (renderYear d.year ++ '-' :: (padded 2 d.month ++ '-' :: (padded 2 d.day ++ r))) =
      some (d, r) := by
  have hdash : isBlank '-' = false := by decide
  simp only [readDate, readYear_renderYear, readMark_cons hdash,
    readNumber_padded (show 0 < 2 by decide) (show d.month < 10 ^ 2 by omega),
    readNumber_padded (show 0 < 2 by decide) (show d.day < 10 ^ 2 by omega),
    bind, Option.bind, pure]

/-- A leap second is the sixtieth of its minute. -/
theorem readClock_render {clock nanos : Nat} (hclock : clock < 86400) (hnanos : nanos < 2000000000)
    (hleap : 1000000000 ≤ nanos → clock % 60 = 59) (r : List Char) :
    readClock (padded 2 (clock / 3600) ++ ':' :: (padded 2 (clock / 60 % 60) ++
      ':' :: (padded 2 (clock % 60 + nanos / 1000000000) ++
        (renderFraction (nanos % 1000000000) ++ 'Z' :: r)))) = some (clock, nanos, 'Z' :: r) := by
  have hcolon : isBlank ':' = false := by decide
  have hsecond : clock % 60 + nanos / 1000000000 < 10 ^ 2 := by omega
  simp only [readClock, readMark_cons hcolon,
    readNumber_padded (show 0 < 2 by decide) (show clock / 3600 < 10 ^ 2 by omega),
    readNumber_padded (show 0 < 2 by decide) (show clock / 60 % 60 < 10 ^ 2 by omega),
    readNumber_padded (show 0 < 2 by decide) hsecond,
    readFraction_renderFraction (show nanos % 1000000000 < 1000000000 by omega),
    bind, Option.bind]
  split
  · simp only [Option.some.injEq, Prod.mk.injEq, and_true]
    omega
  · split
    · simp only [Option.some.injEq, Prod.mk.injEq, and_true]
      omega
    · omega

/-! ## Instants -/

theorem render_eq (t : Instant) :
    t.render =
      renderYear (Date.ofDay (t.seconds / secondsPerDay)).year ++
        '-' :: (padded 2 (Date.ofDay (t.seconds / secondsPerDay)).month ++
          '-' :: (padded 2 (Date.ofDay (t.seconds / secondsPerDay)).day ++
            'T' :: (padded 2 ((t.seconds % secondsPerDay).toNat / 3600) ++
              ':' :: (padded 2 ((t.seconds % secondsPerDay).toNat / 60 % 60) ++
                ':' :: (padded 2 ((t.seconds % secondsPerDay).toNat % 60 + t.nanos / 1000000000) ++
                  (renderFraction (t.nanos % 1000000000) ++ ['Z'])))))) := by
  simp only [render, List.append_assoc, List.cons_append]

/-- An instant of the calendar is on a day of its years. -/
theorem year_bounds {t : Instant} (h : t.InCalendar) :
    firstYear ≤ (Date.ofDay (t.seconds / secondsPerDay)).year ∧
      (Date.ofDay (t.seconds / secondsPerDay)).year ≤ lastYear := by
  obtain ⟨hfirst, hlast, _⟩ := h
  unfold firstSecond secondsPerDay at hfirst
  unfold lastSecond secondsPerDay at hlast
  unfold secondsPerDay
  apply Date.year_ofDay_bounds
  · omega
  · omega

/-- An instant with a date is read back from its text. -/
theorem read?_write {t : Instant} (h : t.InCalendar) : read? t.write = some t := by
  have hyear := year_bounds h
  obtain ⟨hfirst, hlast, hnanos, hleap⟩ := h
  obtain ⟨hmonth, hday⟩ := Date.month_and_day_le (t.seconds / secondsPerDay)
  have hvalid := Date.isValid_ofDay (t.seconds / secondsPerDay)
  have hback := Date.toDay_ofDay (t.seconds / secondsPerDay)
  have hclock : (t.seconds % secondsPerDay).toNat < 86400 := by
    unfold secondsPerDay
    omega
  have hlast59 : 1000000000 ≤ t.nanos → (t.seconds % secondsPerDay).toNat % 60 = 59 := by
    intro hn
    have h59 := hleap hn
    unfold secondsPerDay
    omega
  have hseconds : t.seconds / secondsPerDay * secondsPerDay + (t.seconds % secondsPerDay).toNat -
      0 = t.seconds := by
    unfold secondsPerDay
    omega
  have hsep (r : List Char) : readSeparator ('T' :: r) = some r := rfl
  have hend : dropBlanks ['Z'] = ['Z'] := dropBlanks_of_not_blank (by decide) []
  have hoffset : readOffset ['Z'] = some (0, []) := rfl
  rw [read?, write, String.toList_ofList, render_eq]
  simp only [readChars?, readDate_render hmonth hday, hsep, hend, hoffset,
    readClock_render hclock hnanos hlast59, bind, Option.bind]
  rw [hback, hseconds, if_pos ⟨rfl, hvalid, hyear.1, hyear.2, by decide, hfirst, hlast⟩]

/-- The second half of a leap second. -/
example : write ⟨1483228799, 1500000000⟩ = "2016-12-31T23:59:60.500Z" := by cbv

/-! ## Whatever is read -/

/-- A fraction is less than a second. -/
theorem readFraction_lt {cs rest : List Char} {nanos : Nat}
    (h : readFraction cs = some (nanos, rest)) : nanos < 1000000000 := by
  unfold readFraction at h
  split at h
  · split at h
    · cases h
    · rename_i ds _ _ _
      cases h
      have hvalue := Decimal.value_lt (ds.take 9)
      have hlen : (ds.take 9).length ≤ 9 := List.length_take_le 9 ds
      calc Decimal.value (ds.take 9) * tenTo (9 - (ds.take 9).length)
        _ < 10 ^ (ds.take 9).length * tenTo (9 - (ds.take 9).length) :=
          Nat.mul_lt_mul_of_pos_right hvalue (tenTo_pos _)
        _ = 10 ^ 9 := (Nat.pow_add 10 _ _).symm.trans (by rw [Nat.add_sub_cancel' hlen])
  · cases h
    decide

theorem readClock_leap {cs rest : List Char} {clock nanos : Nat}
    (h : readClock cs = some (clock, nanos, rest)) :
    nanos < 2000000000 ∧ (1000000000 ≤ nanos → clock % 60 = 59) := by
  obtain ⟨⟨hour, _⟩, _, h⟩ := Option.bind_eq_some_iff.1 h
  obtain ⟨_, _, h⟩ := Option.bind_eq_some_iff.1 h
  obtain ⟨⟨minute, _⟩, _, h⟩ := Option.bind_eq_some_iff.1 h
  obtain ⟨_, _, h⟩ := Option.bind_eq_some_iff.1 h
  obtain ⟨⟨second, _⟩, _, h⟩ := Option.bind_eq_some_iff.1 h
  obtain ⟨⟨fraction, _⟩, hfraction, h⟩ := Option.bind_eq_some_iff.1 h
  have hlt := readFraction_lt hfraction
  dsimp only at h
  split at h
  · cases h
    omega
  · split at h
    · cases h
      omega
    · cases h

theorem readOffsetClock_minutes {cs rest : List Char} {n : Nat}
    (h : readOffsetClock cs = some (n, rest)) : n % 60 = 0 := by
  unfold readOffsetClock at h
  split at h
  · obtain ⟨a, _, h⟩ := Option.bind_eq_some_iff.1 h
    obtain ⟨b, _, h⟩ := Option.bind_eq_some_iff.1 h
    obtain ⟨⟨minutes, _⟩, _, h⟩ := Option.bind_eq_some_iff.1 h
    cases h
    omega
  · cases h

/-- An offset of a clock has minutes only, also under a sign. -/
theorem minutes_of_clock {cs rest : List Char} {offset : Int}
    {sign : Nat × List Char → Int × List Char} (hsign : ∀ m, m.1 % 60 = 0 → (sign m).1 % 60 = 0)
    (h : (readOffsetClock cs).map sign = some (offset, rest)) : offset % 60 = 0 := by
  obtain ⟨⟨n, r⟩, hn, h⟩ := Option.map_eq_some_iff.1 h
  have hoffset := hsign (n, r) (readOffsetClock_minutes hn)
  rw [h] at hoffset
  exact hoffset

/-- An offset is a number of minutes. -/
theorem readOffset_minutes {cs rest : List Char} {offset : Int}
    (h : readOffset cs = some (offset, rest)) : offset % 60 = 0 := by
  have hplus : ∀ n : Nat, n % 60 = 0 → (n : Int) % 60 = 0 := by omega
  have hminus : ∀ n : Nat, n % 60 = 0 → -(n : Int) % 60 = 0 := by omega
  unfold readOffset at h
  split at h
  · cases h
    decide
  · cases h
    decide
  · exact minutes_of_clock (fun m => hplus m.1) h
  · exact minutes_of_clock (fun m => hminus m.1) h
  · exact minutes_of_clock (fun m => hminus m.1) h
  · split at h
    · cases h
      decide
    · cases h
  · cases h

/-- Whatever text an instant is read from, the instant is in the calendar. -/
theorem inCalendar_of_read? {s : String} {t : Instant} (h : read? s = some t) : t.InCalendar := by
  obtain ⟨⟨date, _⟩, _, h⟩ := Option.bind_eq_some_iff.1 h
  obtain ⟨_, _, h⟩ := Option.bind_eq_some_iff.1 h
  obtain ⟨⟨clock, nanos, _⟩, hclock, h⟩ := Option.bind_eq_some_iff.1 h
  obtain ⟨⟨offset, _⟩, hoffset, h⟩ := Option.bind_eq_some_iff.1 h
  obtain ⟨hnanos, hleap⟩ := readClock_leap hclock
  have hminutes := readOffset_minutes hoffset
  dsimp only at h
  split at h
  · rename_i hbounds
    obtain ⟨_, _, _, _, _, hfirst, hlast⟩ := hbounds
    cases h
    refine ⟨hfirst, hlast, hnanos, ?_⟩
    intro hn
    have h59 := hleap hn
    unfold secondsPerDay
    dsimp only
    omega
  · cases h

end Instant

end Warrant
