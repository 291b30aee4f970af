-- Numbers in machine words. A number that does not fit has no word, and a
-- word is read back from its number.

namespace Warrant.Word

/-- Two to the power 64. -/
def limit : Nat := 0x10000000000000000

/-- Two to the power 63. -/
def half : Nat := 0x8000000000000000

/-- Two to the power 31. -/
def shortHalf : Nat := 0x80000000

def ofNat? (n : Nat) : Option UInt64 := if n < limit then some (UInt64.ofNat n) else none

def ofInt? : Int → Option UInt64
  | .ofNat n => ofNat? n
  | .negSucc _ => none

/-- The signed word of 64 bits. -/
def signed? (n : Int) : Option Int64 :=
  if -(half : Int) ≤ n ∧ n < half then some (Int64.ofInt n) else none

/-- The signed word of 32 bits. -/
def short? (n : Int) : Option Int32 :=
  if -(shortHalf : Int) ≤ n ∧ n < shortHalf then some (Int32.ofInt n) else none

theorem ofNat?_eq_some_iff {n : Nat} {w : UInt64} : ofNat? n = some w ↔ n = w.toNat := by
  have hw : w.toNat < limit := w.toNat_lt
  unfold ofNat?
  split
  · rename_i h
    rw [Option.some_inj, ← UInt64.toNat_inj, UInt64.toNat_ofNat_of_lt' h]
  · constructor
    · simp
    · rintro rfl
      contradiction

theorem signed?_eq_some_iff {n : Int} {w : Int64} : signed? n = some w ↔ n = w.toInt := by
  have hw : -(half : Int) ≤ w.toInt ∧ w.toInt < half := ⟨w.le_toInt, w.toInt_lt⟩
  unfold signed?
  split
  · rename_i h
    rw [Option.some_inj, ← Int64.toInt_inj, Int64.toInt_ofInt_of_le h.1 h.2]
  · constructor
    · simp
    · rintro rfl
      contradiction

theorem short?_eq_some_iff {n : Int} {w : Int32} : short? n = some w ↔ n = w.toInt := by
  have hw : -(shortHalf : Int) ≤ w.toInt ∧ w.toInt < shortHalf := ⟨w.le_toInt, w.toInt_lt⟩
  unfold short?
  split
  · rename_i h
    rw [Option.some_inj, ← Int32.toInt_inj, Int32.toInt_ofInt_of_le h.1 h.2]
  · constructor
    · simp
    · rintro rfl
      contradiction

theorem ofNat?_toNat (w : UInt64) : ofNat? w.toNat = some w := ofNat?_eq_some_iff.2 rfl

theorem signed?_toInt (w : Int64) : signed? w.toInt = some w := signed?_eq_some_iff.2 rfl

theorem short?_toInt (w : Int32) : short? w.toInt = some w := short?_eq_some_iff.2 rfl

/-- A small word is the same number when it is read as a signed one. -/
theorem toInt_toInt64 {w : UInt64} (h : w.toNat < half) : w.toInt64.toInt = w.toNat := by
  have hb : 2 * w.toBitVec.toNat < 2 ^ 64 := by
    rw [UInt64.toNat_toBitVec]
    unfold half at h
    omega
  exact BitVec.toInt_eq_toNat_of_lt hb

/-- A large word is a negative number when it is read as a signed one. -/
theorem toInt_toInt64_of_half_le {w : UInt64} (h : half ≤ w.toNat) :
    w.toInt64.toInt = (w.toNat : Int) - limit := by
  have hb : ¬ 2 * w.toBitVec.toNat < 2 ^ 64 := by
    rw [UInt64.toNat_toBitVec]
    unfold half at h
    omega
  have hcond := BitVec.toInt_eq_toNat_cond w.toBitVec
  rw [if_neg hb, UInt64.toNat_toBitVec] at hcond
  exact hcond

/-- A sum with a word is the same signed word, whether the word is read with a
sign or without one. -/
theorem toInt_ofInt_add {n : Int} {w : UInt64} (h : -(half : Int) ≤ n + w.toInt64.toInt)
    (h' : n + w.toInt64.toInt < half) :
    (Int64.ofInt (n + w.toNat)).toInt = n + w.toInt64.toInt := by
  by_cases hw : w.toNat < half
  · rw [toInt_toInt64 hw] at h h' ⊢
    exact Int64.toInt_ofInt_of_le h h'
  · rw [toInt_toInt64_of_half_le (Nat.le_of_not_lt hw)] at h h' ⊢
    have hsum : n + w.toNat = n + (w.toNat - (limit : Int)) + limit := by omega
    rw [Int64.toInt_ofInt, hsum]
    exact (Int.add_bmod_right _ _).trans (Int.bmod_eq_of_le h h')

/-- A signed word is no more than the number that it is made of. -/
theorem toInt_ofInt_le {n : Int} (h : 0 ≤ n) : (Int64.ofInt n).toInt ≤ n := by
  have hwrap : (Int64.ofInt n).toInt = n.bmod limit := Int64.toInt_ofInt
  rw [hwrap, Int.bmod]
  unfold limit
  split
  · omega
  · omega

end Warrant.Word
