-- Texts as bytes. An ASCII character is one byte. Any other character is a
-- lead byte and up to three bytes of six bits each. The lead byte grows with
-- the character and tells how many bytes follow, so texts are in one order by
-- their characters and by their bytes.
import Warrant.Text.Utf8

namespace Warrant.Text

/-! ## ASCII -/

theorem utf8EncodeChar_ascii {c : Char} (h : c.toNat < 128) :
    String.utf8EncodeChar c = [c.toUInt8] := by
  have hc : c.val.toNat ≤ 127 := Nat.le_of_lt_succ h
  unfold String.utf8EncodeChar
  rw [if_pos hc]
  rfl

theorem Utf8.bytes_ofList (cs : List Char) :
    Utf8.bytes (String.ofList cs) = cs.flatMap String.utf8EncodeChar := by
  rw [bytes, String.toUTF8, String.toByteArray_ofList, List.utf8Encode, List.data_toByteArray]

/-- The bytes of a text without a character beyond ASCII. -/
theorem Utf8.bytes_ascii {cs : List Char} (h : ∀ c ∈ cs, c.toNat < 128) :
    Utf8.bytes (String.ofList cs) = cs.map Char.toUInt8 := by
  rw [Utf8.bytes_ofList]
  induction cs with
  | nil => rfl
  | cons c r ih =>
    have hc := h c List.mem_cons_self
    have hr := ih fun c' hc' => h c' (List.mem_cons_of_mem c hc')
    rw [List.flatMap_cons, utf8EncodeChar_ascii hc, hr, List.map_cons]
    rfl

/-- An ASCII character of a text is one of its bytes. -/
theorem Utf8.mem_bytes_ofList {cs : List Char} {c : Char} (hc : c ∈ cs) (h : c.toNat < 128) :
    c.toUInt8 ∈ Utf8.bytes (String.ofList cs) := by
  rw [Utf8.bytes_ofList, List.mem_flatMap]
  exact ⟨c, hc, by simp [utf8EncodeChar_ascii h]⟩

namespace Utf8

theorem bytes_eq (s : String) : bytes s = s.toList.flatMap String.utf8EncodeChar := by
  have h := bytes_ofList s.toList
  rwa [String.ofList_toList] at h

/-! ## One list before another -/

/-- The first list comes before the second, whatever follows each of them. -/
def Precedes (as bs : List UInt8) : Prop := ∀ x y, as ++ x < bs ++ y

theorem Precedes.append {as bs : List UInt8} (h : Precedes as bs) (x y : List UInt8) :
    Precedes (as ++ x) (bs ++ y) := by
  intro x' y'
  simpa using h (x ++ x') (y ++ y')

theorem Precedes.append_left {as bs : List UInt8} (h : Precedes as bs) (l : List UInt8) :
    Precedes (l ++ as) (l ++ bs) := by
  intro x y
  rw [List.append_assoc, List.append_assoc]
  exact List.append_left_lt (h x y)

theorem precedes_cons {m n : Nat} (h : m < n) (hn : n < 256) (as bs : List UInt8) :
    Precedes (UInt8.ofNat m :: as) (UInt8.ofNat n :: bs) := by
  intro x y
  rw [List.cons_append, List.cons_append, List.cons_lt_cons_iff]
  exact .inl ((UInt8.ofNat_lt_iff_lt (Nat.lt_trans h hn) hn).2 h)

/-! ## The bytes of a character -/

/-- A number without its last groups of six bits. -/
def shorten : Nat → Nat → Nat
  | 0, n => n
  | k + 1, n => shorten k (n / 64)

/-- The last groups of six bits of a number, each in a byte that goes on. -/
def continuation : Nat → Nat → List UInt8
  | 0, _ => []
  | k + 1, n => continuation k (n / 64) ++ [UInt8.ofNat (n % 64 + 128)]

theorem continuation_precedes (k : Nat) {m n : Nat} (h : m < n)
    (hlead : shorten k m = shorten k n) : Precedes (continuation k m) (continuation k n) := by
  induction k generalizing m n with
  | zero => exact absurd hlead (Nat.ne_of_lt h)
  | succ k ih =>
    unfold shorten at hlead
    unfold continuation
    by_cases hrest : m / 64 = n / 64
    · rw [hrest]
      exact (precedes_cons (by omega) (by omega) [] []).append_left _
    · have hlt : m / 64 < n / 64 := by omega
      exact (ih hlt hlead).append _ _

/-- A character, the number of bytes that follow its lead byte, and the lead
byte. -/
inductive Leads : Nat → Nat → Nat → Prop
  | one {n : Nat} : n < 0x80 → Leads n 0 n
  | two {n : Nat} : 0x80 ≤ n → n < 0x800 → Leads n 1 (n / 64 + 0xC0)
  | three {n : Nat} : 0x800 ≤ n → n < 0x10000 → Leads n 2 (n / 4096 + 0xE0)
  | four {n : Nat} : 0x10000 ≤ n → n < 0x110000 → Leads n 3 (n / 262144 + 0xF0)

theorem Leads.lt {n k lead : Nat} (h : Leads n k lead) : lead < 256 := by
  cases h <;> omega

/-- The lead byte grows with the character. If it does not, the same number of
bytes follow, and they tell the two characters apart. -/
theorem Leads.mono {m n k l a b : Nat} (h : Leads m k a) (h' : Leads n l b) (hlt : m < n) :
    a < b ∨ a = b ∧ k = l ∧ shorten k m = shorten k n := by
  cases h <;> cases h' <;> simp [shorten] <;> omega

theorem exists_leads (c : Char) : ∃ k lead, Leads c.toNat k lead ∧
    String.utf8EncodeChar c = UInt8.ofNat lead :: continuation k c.toNat := by
  have hc : c.toNat < 0x110000 := by
    rcases c.valid with h | ⟨_, h⟩
    · exact Nat.lt_trans h (by decide)
    · exact h
  have hval : c.val.toNat = c.toNat := rfl
  unfold String.utf8EncodeChar
  rw [hval]
  generalize c.toNat = n at hc
  dsimp only
  split
  · exact ⟨0, n, .one (by omega), rfl⟩
  · split
    · refine ⟨1, _, .two (by omega) (by omega), ?_⟩
      rw [Nat.mod_eq_of_lt (by omega : n / 64 < 32)]
      rfl
    · split
      · refine ⟨2, _, .three (by omega) (by omega), ?_⟩
        rw [Nat.mod_eq_of_lt (by omega : n / 4096 < 16)]
        rfl
      · refine ⟨3, _, .four (by omega) (by omega), ?_⟩
        rw [Nat.mod_eq_of_lt (by omega : n / 262144 < 8)]
        simp [continuation, Nat.div_div_eq_div_mul]

theorem char_precedes {c d : Char} (h : c < d) :
    Precedes (String.utf8EncodeChar c) (String.utf8EncodeChar d) := by
  obtain ⟨k, a, hc, hcode⟩ := exists_leads c
  obtain ⟨l, b, hd, hcode'⟩ := exists_leads d
  rw [hcode, hcode']
  rcases hc.mono hd h with hlt | ⟨rfl, rfl, hlead⟩
  · exact precedes_cons hlt hd.lt _ _
  · exact (continuation_precedes k h hlead).append_left [_]

/-! ## The order of texts -/

theorem bytes_lt {a b : String} (h : a < b) : bytes a < bytes b := by
  have hlist : a.toList < b.toList := h
  rw [bytes_eq, bytes_eq]
  generalize a.toList = cs, b.toList = ds at hlist
  induction hlist with
  | @nil d ds =>
    obtain ⟨k, lead, _, hcode⟩ := exists_leads d
    simp [hcode]
  | rel hlt =>
    rw [List.flatMap_cons, List.flatMap_cons]
    exact char_precedes hlt _ _
  | cons _ ih =>
    rw [List.flatMap_cons, List.flatMap_cons]
    exact List.append_left_lt ih

/-- The order of texts is the order of their bytes. -/
theorem bytes_lt_iff {a b : String} : bytes a < bytes b ↔ a < b := by
  refine ⟨fun h => ?_, bytes_lt⟩
  by_cases hlt : a < b
  · exact hlt
  · by_cases hgt : b < a
    · exact absurd (bytes_lt hgt) (List.lt_asymm h)
    · have heq : a = b := String.le_antisymm hgt hlt
      rw [heq] at h
      exact absurd h (List.lt_irrefl _)

end Utf8

end Warrant.Text
