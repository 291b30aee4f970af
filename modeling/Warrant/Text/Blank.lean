-- The characters with the Unicode property White_Space, and texts without
-- them at the ends.

namespace Warrant.Text

/-- The White_Space property. -/
def isBlank (c : Char) : Bool :=
  let n := c.toNat
  (9 ≤ n && n ≤ 13) || n == 0x20 || n == 0x85 || n == 0xA0 || n == 0x1680 ||
    (0x2000 ≤ n && n ≤ 0x200A) || n == 0x2028 || n == 0x2029 || n == 0x202F ||
    n == 0x205F || n == 0x3000

/-- A text without the blanks at its start. -/
def dropBlanks (cs : List Char) : List Char := cs.dropWhile isBlank

/-- A text without the blanks at its end. -/
def dropTrailingBlanks (cs : List Char) : List Char := (cs.reverse.dropWhile isBlank).reverse

def trim (cs : List Char) : List Char := dropTrailingBlanks (dropBlanks cs)

theorem dropBlanks_of_not_blank {c : Char} (h : isBlank c = false) (r : List Char) :
    dropBlanks (c :: r) = c :: r := by
  simp [dropBlanks, h]

end Warrant.Text
