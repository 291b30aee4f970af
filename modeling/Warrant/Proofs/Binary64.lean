-- Large words as floating point numbers. Between two to the power 63 and two to
-- the power 64 neighbours are 2048 apart. So a word goes to the nearest multiple
-- of 2048, and the order of the numbers is the order of the multiples.
import Warrant.Binary64

namespace Warrant.Binary64

variable {m n : Nat}

/-! ## Rounding to multiples of 2048 -/

/-- No multiple is nearer than this one, and of two that are as near this one is
even. -/
theorem nearest_spec (n : Nat) :
    n ≤ 2048 * nearest n 2048 + 1024 ∧ 2048 * nearest n 2048 ≤ n + 1024 ∧
      (n = 2048 * nearest n 2048 + 1024 ∨ 2048 * nearest n 2048 = n + 1024 →
        nearest n 2048 % 2 = 0) := by
  unfold nearest
  dsimp only
  split
  · omega
  · split
    · omega
    · split
      · omega
      · omega

/-- A word from two to the power 63 on makes a significand. -/
theorem nearest_bounds (hlow : Word.half ≤ n) (hhigh : n < Word.limit) :
    fractionSize ≤ nearest n 2048 ∧ nearest n 2048 ≤ 2 * fractionSize := by
  have hn := nearest_spec n
  unfold Word.half at hlow
  unfold Word.limit at hhigh
  unfold fractionSize
  omega

/-! ## The number of a large word -/

theorem binaryOrder_large (hlow : Word.half ≤ n) (hhigh : n < Word.limit) :
    binaryOrder n 1 = 63 := by
  have hlog : Nat.log2 n = 63 := by
    rw [Nat.log2_eq_iff (by unfold Word.half at hlow; omega)]
    exact ⟨hlow, hhigh⟩
  have hreaches : reachesPower n 1 63 = true := by
    unfold reachesPower
    have hleft : 1 * twoTo (63 : Int).toNat = Word.half := rfl
    have hright : n * twoTo (-63 : Int).toNat = n := Nat.mul_one n
    rw [hleft, hright]
    exact decide_eq_true hlow
  unfold binaryOrder
  rw [hlog]
  exact if_pos hreaches

/-- The magnitude of the number nearest to a large word. -/
def largeMagnitude (n : Nat) : Nat := 1085 * fractionSize + nearest n 2048

theorem ofNat_large (hlow : Word.half ≤ n) (hhigh : n < Word.limit) :
    ofNat n = ofMagnitude (largeMagnitude n) := by
  obtain ⟨_, hle⟩ := nearest_bounds hlow hhigh
  have hzero : n ≠ 0 := by
    unfold Word.half at hlow
    omega
  have hpower : max ((63 : Int) - 52) (-1074) = 11 := rfl
  have hnum : n * twoTo (-11 : Int).toNat = n := Nat.mul_one n
  have hden : 1 * twoTo (11 : Int).toNat = 2048 := rfl
  have hfield : ((11 : Int) + 1074).toNat = 1085 := rfl
  unfold ofNat ofRatio
  rw [if_neg hzero, binaryOrder_large hlow hhigh]
  dsimp only
  rw [hpower, hnum, hden, hfield]
  unfold largeMagnitude
  congr 1
  apply Nat.min_eq_left
  unfold infinity fractionSize at *
  omega

theorem largeMagnitude_bounds (hlow : Word.half ≤ n) (hhigh : n < Word.limit) :
    1086 * fractionSize ≤ largeMagnitude n ∧ largeMagnitude n ≤ 1087 * fractionSize := by
  have h := nearest_bounds hlow hhigh
  unfold largeMagnitude fractionSize at *
  omega

theorem toNat_bits_large (hlow : Word.half ≤ n) (hhigh : n < Word.limit) :
    (ofNat n).bits.toNat = largeMagnitude n := by
  have h := largeMagnitude_bounds hlow hhigh
  rw [ofNat_large hlow hhigh]
  apply UInt64.toNat_ofNat_of_lt'
  unfold fractionSize at h
  show _ < 18446744073709551616
  omega

theorem isNaN_large (hlow : Word.half ≤ n) (hhigh : n < Word.limit) :
    (ofNat n).isNaN = false := by
  have h := largeMagnitude_bounds hlow hhigh
  have hfield : (ofNat n).exponentField ≠ 2047 := by
    unfold exponentField
    rw [toNat_bits_large hlow hhigh]
    unfold fractionSize at *
    omega
  unfold isNaN
  simp [hfield]

theorem place_large (hlow : Word.half ≤ n) (hhigh : n < Word.limit) :
    (ofNat n).place = largeMagnitude n := by
  have h := largeMagnitude_bounds hlow hhigh
  have hsign : (ofNat n).isNegative = false := by
    unfold isNegative
    rw [toNat_bits_large hlow hhigh]
    unfold Word.half
    unfold fractionSize at h
    simp
    omega
  have hmagnitude : (ofNat n).magnitude = largeMagnitude n := by
    unfold magnitude
    rw [toNat_bits_large hlow hhigh]
    apply Nat.mod_eq_of_lt
    unfold Word.half
    unfold fractionSize at h
    omega
  unfold place
  rw [hsign, hmagnitude]
  rfl

/-! ## The order of large words -/

theorem compare?_large (hm : Word.half ≤ m) (hm' : m < Word.limit) (hn : Word.half ≤ n)
    (hn' : n < Word.limit) :
    compare? (ofNat m) (ofNat n) = some (compare (nearest m 2048) (nearest n 2048)) := by
  unfold compare?
  rw [isNaN_large hm hm', isNaN_large hn hn', place_large hm hm', place_large hn hn']
  have hlt : (largeMagnitude m : Int) < largeMagnitude n ↔ nearest m 2048 < nearest n 2048 := by
    unfold largeMagnitude
    omega
  have heq : (largeMagnitude m : Int) = largeMagnitude n ↔ nearest m 2048 = nearest n 2048 := by
    unfold largeMagnitude
    omega
  simp [compare, compareOfLessAndEq, hlt, heq]

end Warrant.Binary64
