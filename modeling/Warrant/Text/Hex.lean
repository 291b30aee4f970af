-- Hexadecimal digits, in small letters where there is a choice.

namespace Warrant.Text.Hex

/-- The digit of a number below 16. -/
def digit (n : Nat) : Char := if n < 10 then Char.ofNat (48 + n) else Char.ofNat (87 + n)

/-- The number of a digit, in small or capital letters. -/
def value? (c : Char) : Option Nat :=
  let n := c.toNat
  if 48 ≤ n ∧ n < 58 then some (n - 48)
  else if 97 ≤ n ∧ n < 103 then some (n - 87)
  else if 65 ≤ n ∧ n < 71 then some (n - 55)
  else none

theorem value?_digit {n : Nat} (h : n < 16) : value? (digit n) = some n := by
  have all : ∀ m : Fin 16, value? (digit m.val) = some m.val := by decide
  exact all ⟨n, h⟩

/-- The two digits of a byte. -/
def ofByte (b : UInt8) : List Char := [digit (b.toNat / 16), digit (b.toNat % 16)]

/-- The digits of a number, without leading zeros. -/
def render (n : Nat) : List Char :=
  if n < 16 then [digit n] else render (n / 16) ++ [digit (n % 16)]
termination_by n

/-- The bytes that pairs of digits spell. -/
def bytes? : List Char → Option (List UInt8)
  | [] => some []
  | a :: b :: r => do
    let n := (← value? a) * 16 + (← value? b)
    return UInt8.ofNat n :: (← bytes? r)
  | [_] => none

end Warrant.Text.Hex
