-- Decimal numerals: the digits of a number, the number of some digits,
-- and the reading of a 64-bit word. What `digits` writes, `value` reads.
import Warrant.Word

namespace Warrant.Text

/-! ## Digits -/

abbrev Digit := Fin 10

namespace Digit

def toChar (d : Digit) : Char := Char.ofNat (48 + d.val)

def ofChar? (c : Char) : Option Digit :=
  if h : 48 ≤ c.toNat ∧ c.toNat < 58 then some ⟨c.toNat - 48, by omega⟩ else none

/-- The digit 0. -/
def zero : Digit := ⟨0, by decide⟩

theorem ofChar?_toChar (d : Digit) : ofChar? d.toChar = some d := by
  revert d; decide

/-- A digit is no character that does not read as one. -/
theorem toChar_ne {c : Char} (h : ofChar? c = none) (d : Digit) : d.toChar ≠ c := by
  rintro rfl
  rw [ofChar?_toChar] at h
  cases h

end Digit

namespace Decimal

/-- The digits at the start of a text, and what follows them. -/
def takeDigits : List Char → List Digit × List Char
  | [] => ([], [])
  | c :: r =>
    match Digit.ofChar? c with
    | some d => let (ds, rest) := takeDigits r; (d :: ds, rest)
    | none => ([], c :: r)

/-- The number that digits spell, most significant first. -/
def value (ds : List Digit) : Nat := ds.foldl (fun n d => 10 * n + d.val) 0

/-- The digits of a number, without leading zeros. -/
def digits (n : Nat) : List Digit :=
  if n < 10 then [Fin.ofNat 10 n] else digits (n / 10) ++ [Fin.ofNat 10 n]
termination_by n

def render (n : Nat) : List Char := (digits n).map Digit.toChar

/-- The numeral of a number, as a text. -/
def text (n : Nat) : String := String.ofList (render n)

theorem value_append (as : List Digit) (d : Digit) : value (as ++ [d]) = 10 * value as + d.val := by
  simp [value]

theorem value_digits (n : Nat) : value (digits n) = n := by
  induction n using digits.induct with
  | case1 n h =>
    rw [digits, if_pos h]
    simp [value, Fin.ofNat]
    omega
  | case2 n h ih =>
    rw [digits, if_neg h, value_append, ih]
    simp [Fin.ofNat]
    omega

theorem digits_ne_nil (n : Nat) : digits n ≠ [] := by
  rw [digits]
  split <;> simp

/-- Digits are taken whole, up to the first character that is none. -/
theorem takeDigits_append (ds : List Digit) {rest : List Char}
    (h : ∀ c r, rest = c :: r → Digit.ofChar? c = none) :
    takeDigits (ds.map Digit.toChar ++ rest) = (ds, rest) := by
  induction ds with
  | nil =>
    cases rest with
    | nil => rfl
    | cons c r => simp [takeDigits, h c r rfl]
  | cons d ds ih => simp [takeDigits, Digit.ofChar?_toChar, ih]

def dropPlus : List Char → List Char
  | '+' :: r => r
  | r => r

/-- A 64-bit word in decimal: digits, perhaps after a plus sign. Leading
zeros are fine. -/
def readWord? (cs : List Char) : Option UInt64 :=
  match takeDigits (dropPlus cs) with
  | ([], _) => none
  | (ds, []) => Word.ofNat? (value ds)
  | (_, _ :: _) => none

theorem takeDigits_render (n : Nat) : takeDigits (render n) = (digits n, []) := by
  have h : ∀ c r, ([] : List Char) = c :: r → Digit.ofChar? c = none := by simp
  simpa [render] using takeDigits_append (digits n) h

theorem dropPlus_render (n : Nat) : dropPlus (render n) = render n := by
  unfold dropPlus
  split
  · rename_i r h
    have taken := takeDigits_render n
    rw [h] at taken
    exact absurd (congrArg Prod.fst taken).symm (digits_ne_nil n)
  · rfl

/-- A word is read back from its numeral. -/
theorem readWord?_render (w : UInt64) : readWord? (render w.toNat) = some w := by
  rw [readWord?, dropPlus_render, takeDigits_render]
  have h := value_digits w.toNat
  cases hd : digits w.toNat with
  | nil => exact absurd hd (digits_ne_nil _)
  | cons d ds => rw [hd] at h; simpa [h] using Word.ofNat?_toNat w

end Decimal

end Warrant.Text
