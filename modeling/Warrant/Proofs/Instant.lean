-- Instants are in a linear order, and a lifetime moves an instant on by
-- whole seconds.
import Mathlib.Data.Prod.Lex
import Warrant.Instant

namespace Warrant.Instant

/-! ## The order -/

instance : LinearOrder Instant :=
  LinearOrder.lift' (fun t => toLex (t.seconds, t.nanos)) fun a b h => by
    cases a
    cases b
    simpa using h

theorem le_iff (a b : Instant) :
    a ≤ b ↔ a.seconds < b.seconds ∨ a.seconds = b.seconds ∧ a.nanos ≤ b.nanos :=
  Prod.Lex.toLex_le_toLex

theorem isAfter_iff (a b : Instant) : a.isAfter b = true ↔ b < a := by
  rw [← not_le, le_iff, isAfter, Instant.compare]
  simp only [beq_iff_eq, Ordering.then_eq_gt, compare_gt_iff_gt, compare_eq_iff_eq]
  omega

theorem isAfter_eq_false_iff (a b : Instant) : a.isAfter b = false ↔ a ≤ b := by
  rw [← Bool.not_eq_true, isAfter_iff, not_lt]

theorem compare_eq_lt_iff (a b : Instant) :
    a.compare b = .lt ↔ a.seconds < b.seconds ∨ a.seconds = b.seconds ∧ a.nanos < b.nanos := by
  unfold Instant.compare
  simp only [Ordering.then_eq_lt, compare_lt_iff_lt, compare_eq_iff_eq]

instance : Std.TransCmp Instant.compare :=
  inferInstanceAs (Std.TransCmp (compareLex (compareOn seconds) (compareOn nanos)))

instance : Std.LawfulEqCmp Instant.compare where
  eq_of_compare {a b} h := by
    unfold Instant.compare at h
    rw [Ordering.then_eq_eq, compare_eq_iff_eq, compare_eq_iff_eq] at h
    cases a
    cases b
    simpa using h

/-! ## Lifetimes -/

/-- The instant some seconds later. -/
def later (t : Instant) (seconds : Nat) : Instant := ⟨t.seconds + seconds, t.nanos⟩

theorem monotone_later (t : Instant) : Monotone t.later := by
  intro m n h
  rw [le_iff]
  unfold later
  dsimp only
  omega

theorem plusSeconds?_eq_some_iff {t u : Instant} {n : Int} :
    t.plusSeconds? n = some u ↔
      (t.OnClock ∧ firstSecond ≤ t.seconds + n ∧ t.seconds + n ≤ lastSecond) ∧
        u = ⟨t.seconds + n, t.nanos⟩ := by
  unfold plusSeconds?
  dsimp only
  split
  · rename_i h
    simp [h, eq_comm]
  · rename_i h
    simp [h]

theorem plusSeconds?_eq_some {t u : Instant} {n : Nat} (h : t.plusSeconds? n = some u) :
    u = t.later n := by
  unfold plusSeconds? at h
  dsimp only at h
  split at h
  · exact (Option.some.inj h).symm
  · cases h

/-- Only an instant of a clock has a later one. -/
theorem onClock_of_plusSeconds? {t u : Instant} {n : Int} (h : t.plusSeconds? n = some u) :
    t.OnClock := by
  unfold plusSeconds? at h
  dsimp only at h
  split at h
  · rename_i hc
    exact hc.1
  · cases h

end Warrant.Instant
