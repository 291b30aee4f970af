-- The comparison of secrets is equality. The bits that differ are gathered
-- in one byte, and this byte is zero exactly when no pair of bytes differs.
-- Bytes beyond the end of the shorter list are not looked at, so the lengths
-- must be compared first.
import Warrant.Secret

namespace Warrant.Secret

open Warrant.Text

/-- The gathered byte is zero exactly when it was zero before and each pair
of bytes is equal. -/
theorem gather_eq_zero_iff (ps : List (UInt8 × UInt8)) (acc : UInt8) :
    ps.foldl (fun acc p => acc ||| (p.1 ^^^ p.2)) acc = 0 ↔ acc = 0 ∧ ∀ p ∈ ps, p.1 = p.2 := by
  induction ps generalizing acc with
  | nil => simp
  | cons p r ih =>
    rw [List.foldl_cons, ih, UInt8.or_eq_zero_iff, UInt8.xor_eq_zero_iff, List.forall_mem_cons,
      and_assoc]

theorem zip_all_eq_iff {as bs : List UInt8} (h : as.length = bs.length) :
    (∀ p ∈ as.zip bs, p.1 = p.2) ↔ as = bs := by
  induction as generalizing bs with
  | nil =>
    cases bs with
    | nil => simp
    | cons b bs => simp at h
  | cons a as ih =>
    cases bs with
    | nil => simp at h
    | cons b bs =>
      rw [List.zip_cons_cons, List.forall_mem_cons, ih (by simpa using h)]
      simp

theorem sameBytes_iff (as bs : List UInt8) : sameBytes as bs = true ↔ as = bs := by
  unfold sameBytes difference
  by_cases h : as.length = bs.length
  · simp only [h, bne_self_eq_false, Bool.false_eq_true, if_false, beq_iff_eq]
    rw [gather_eq_zero_iff, zip_all_eq_iff h]
    simp
  · have hne : as ≠ bs := fun he => h (congrArg List.length he)
    simp [h, hne]

theorem sameText_iff (a b : String) : sameText a b = true ↔ a = b := by
  rw [sameText, sameBytes_iff, Utf8.bytes_inj]

end Warrant.Secret
