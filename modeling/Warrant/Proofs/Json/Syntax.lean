-- A tree is read back from its text, if its literals are texts and its numbers
-- are integers. Each reader takes what its writer wrote, and leaves what
-- follows. A number ends at what closes it, and all else ends by itself.
--
-- Each call of the reader takes from the fuel, and no more than twice for each
-- character. So the fuel lasts to the end of the text.
import Warrant.Json.Syntax

namespace Warrant

open Warrant.Text

namespace Json

/-! ## Plain trees -/

/-- All literals are texts, and all numbers are integers. -/
inductive Plain : Json → Prop
  | null : Plain .null
  | bool (b : Bool) : Plain (.bool b)
  | int (n : Int) : Plain (.int n)
  | text (s : String) : Plain (.text s)
  | array {items : List Json} : (∀ j ∈ items, Plain j) → Plain (.array items)
  | object {members : List (Literal × Json)} : (∀ m ∈ members, ∃ key, m.1 = .ok key) →
      (∀ m ∈ members, Plain m.2) → Plain (.object members)

/-! ## Literals -/

/-- How a character stands in a literal: by its number if it is a control
character without an escape of its own. -/
def pieceOf (c : Char) : Piece :=
  if c.toNat < 0x20 ∧ c.toNat ∉ [8, 9, 10, 12, 13] then .unit c.toNat else .char c

theorem toChar_pieceOf (c : Char) : (pieceOf c).toChar = c := by
  unfold pieceOf
  split
  · exact Char.ofNat_toNat c
  · rfl

/-- An escape of one letter. -/
theorem readPieces_escape {e c : Char} (hu : e ≠ 'u') (he : escape? e = some c)
    (tail : List Char) :
    readPieces ('\\' :: e :: tail) = (readPieces tail).map fun (ps, rest) => (.char c :: ps, rest) := by
  rw [readPieces.eq_def]
  split
  · contradiction
  · rename_i heq
    exact absurd (List.cons.inj heq).1 (by decide)
  · rename_i heq
    exact absurd (List.cons.inj (List.cons.inj heq).2).1 hu
  · rename_i heq
    cases heq
    rw [he]
    cases readPieces tail <;> rfl
  · rename_i hno heq
    cases heq
    exact (hno e tail rfl rfl).elim

/-- A character by its number. -/
theorem readPieces_unit {n : Nat} (h : n < 256) (tail : List Char) :
    readPieces ('\\' :: 'u' :: '0' :: '0' :: Hex.digit (n / 16) :: Hex.digit (n % 16) :: tail) =
      (readPieces tail).map fun (ps, rest) => (.unit n :: ps, rest) := by
  have hzero : Hex.value? '0' = some 0 := by decide
  have hn : hexUnit? '0' '0' (Hex.digit (n / 16)) (Hex.digit (n % 16)) = some n := by
    simp only [hexUnit?, hzero, Hex.value?_digit (show n / 16 < 16 by omega),
      Hex.value?_digit (show n % 16 < 16 by omega), bind, Option.bind, pure]
    congr 1
    omega
  rw [readPieces, hn]
  cases readPieces tail <;> rfl

/-- A character that stands for itself. -/
theorem readPieces_char {c : Char} (hq : c ≠ '"') (hb : c ≠ '\\') (hc : 0x20 ≤ c.toNat)
    (tail : List Char) :
    readPieces (c :: tail) = (readPieces tail).map fun (ps, rest) => (.char c :: ps, rest) := by
  rw [readPieces.eq_def]
  split
  · contradiction
  · rename_i heq
    exact absurd (List.cons.inj heq).1 hq
  · rename_i heq
    exact absurd (List.cons.inj heq).1 hb
  · rename_i heq
    exact absurd (List.cons.inj heq).1 hb
  · rename_i heq
    cases heq
    rw [if_neg (by omega)]
    cases readPieces tail <;> rfl

theorem readPieces_renderChar (c : Char) (tail : List Char) :
    readPieces (renderChar c ++ tail) =
      (readPieces tail).map fun (ps, rest) => (pieceOf c :: ps, rest) := by
  have hself {n : Nat} (h : c.toNat = n) : c = Char.ofNat n := by rw [← h, Char.ofNat_toNat]
  unfold renderChar
  split
  · rename_i h
    subst h
    exact readPieces_escape (by decide) rfl tail
  split
  · rename_i h
    subst h
    exact readPieces_escape (by decide) rfl tail
  split
  · rename_i hq hb hc
    rw [pieceOf, if_neg (by omega)]
    exact readPieces_char hq hb hc tail
  split
  · rename_i h
    rw [hself h]
    exact readPieces_escape (by decide) rfl tail
  split
  · rename_i h
    rw [hself h]
    exact readPieces_escape (by decide) rfl tail
  split
  · rename_i h
    rw [hself h]
    exact readPieces_escape (by decide) rfl tail
  split
  · rename_i h
    rw [hself h]
    exact readPieces_escape (by decide) rfl tail
  split
  · rename_i h
    rw [hself h]
    exact readPieces_escape (by decide) rfl tail
  · rename_i hc h8 h9 h10 h12 h13
    rw [pieceOf, if_pos ⟨by omega, by simp [h8, h9, h10, h12, h13]⟩]
    exact readPieces_unit (by omega) tail

theorem readPieces_renderChars (cs tail : List Char) :
    readPieces (cs.flatMap renderChar ++ '"' :: tail) = some (cs.map pieceOf, tail) := by
  induction cs with
  | nil => rfl
  | cons c cs ih =>
    rw [List.flatMap_cons, List.append_assoc, readPieces_renderChar, ih]
    rfl

/-- A number that is no half of a pair stands for itself. -/
theorem joinSurrogates_unit {n : Nat} (h : n < 0xD800) (ps : List Piece) :
    joinSurrogates (.unit n :: ps) = (joinSurrogates ps).map (.unit n :: ·) := by
  have hhigh : isHighSurrogate n = false := by
    simp [isHighSurrogate]
    omega
  have hlow : isLowSurrogate n = false := by
    simp [isLowSurrogate]
    omega
  cases ps with
  | nil => simp [joinSurrogates, hhigh, hlow]
  | cons p ps => cases p <;> simp [joinSurrogates, hhigh, hlow]

theorem joinSurrogates_pieceOf (c : Char) (ps : List Piece) :
    joinSurrogates (pieceOf c :: ps) = (joinSurrogates ps).map (pieceOf c :: ·) := by
  by_cases h : c.toNat < 0x20 ∧ c.toNat ∉ [8, 9, 10, 12, 13]
  · rw [pieceOf, if_pos h]
    exact joinSurrogates_unit (by omega) ps
  · rw [pieceOf, if_neg h, joinSurrogates]

theorem joinSurrogates_pieces (cs : List Char) :
    joinSurrogates (cs.map pieceOf) = .ok (cs.map pieceOf) := by
  induction cs with
  | nil => rfl
  | cons c cs ih =>
    rw [List.map_cons, joinSurrogates_pieceOf, ih]
    rfl

theorem renderString_ok (s : String) (tail : List Char) :
    renderString (.ok s) ++ tail = '"' :: (s.toList.flatMap renderChar ++ '"' :: tail) := by
  simp [renderString]

/-- A text is read back from its literal. -/
theorem readString_renderChars (s : String) (tail : List Char) :
    readString spellText (s.toList.flatMap renderChar ++ '"' :: tail) = some (.ok s, tail) := by
  have hspell : spellText (s.toList.map pieceOf) = .ok s := by
    rw [spellText, joinSurrogates_pieces]
    simp [Except.map, Function.comp_def, toChar_pieceOf]
  simp only [readString, readPieces_renderChars, bind, Option.bind, hspell, pure]

/-! ## Numerals -/

theorem digits_of_pos {n : Nat} (h : 0 < n) :
    ∃ d ds, Decimal.digits n = d :: ds ∧ d.val ≠ 0 := by
  induction n using Decimal.digits.induct with
  | case1 n hn =>
    rw [Decimal.digits, if_pos hn]
    refine ⟨_, [], rfl, ?_⟩
    simp [Fin.ofNat]
    omega
  | case2 n hn ih =>
    obtain ⟨d, ds, hds, hd⟩ := ih (by omega)
    rw [Decimal.digits, if_neg hn, hds]
    exact ⟨d, _, rfl, hd⟩

/-- What follows a value: nothing, or a mark that closes it. -/
def Closes (rest : List Char) : Prop := ∀ c r, rest = c :: r → c ∈ [',', ']', '\x7d']

theorem closes_nil : Closes [] := by
  intro c r h
  cases h

theorem closes_cons {c : Char} (h : c ∈ [',', ']', '\x7d']) (r : List Char) : Closes (c :: r) := by
  intro c' r' h'
  cases h'
  exact h

theorem Closes.cases {rest : List Char} (h : Closes rest) :
    rest = [] ∨ ∃ r, rest = ',' :: r ∨ rest = ']' :: r ∨ rest = '\x7d' :: r := by
  cases rest with
  | nil => exact .inl rfl
  | cons c r =>
    have hc := h c r rfl
    simp only [List.mem_cons, List.not_mem_nil, or_false] at hc
    rcases hc with rfl | rfl | rfl
    · exact .inr ⟨r, .inl rfl⟩
    · exact .inr ⟨r, .inr (.inl rfl)⟩
    · exact .inr ⟨r, .inr (.inr rfl)⟩

/-- No digit follows. -/
theorem Closes.ofChar? {rest : List Char} (h : Closes rest) :
    ∀ c r, rest = c :: r → Digit.ofChar? c = none := by
  intro c r hr
  have hc := h c r hr
  simp only [List.mem_cons, List.not_mem_nil, or_false] at hc
  rcases hc with rfl | rfl | rfl
  · decide
  · decide
  · decide

namespace Numeral

/-- No number but zero starts with a zero. -/
theorem readWhole_digits (n : Nat) {rest : List Char} (h : Closes rest) :
    readWhole ((Decimal.digits n).map Digit.toChar ++ rest) = some (Decimal.digits n, rest) := by
  rw [readWhole, Decimal.takeDigits_append _ h.ofChar?]
  rcases Nat.eq_zero_or_pos n with rfl | hn
  · rw [Decimal.digits, if_pos (by decide)]
  · obtain ⟨d, ds, hds, hd⟩ := digits_of_pos hn
    rw [hds]
    cases ds with
    | nil => rfl
    | cons d' ds => exact if_neg hd

theorem readFraction_closes {rest : List Char} (h : Closes rest) :
    readFraction rest = some (none, rest) := by
  rcases h.cases with rfl | ⟨r, rfl | rfl | rfl⟩
  · rfl
  · rfl
  · rfl
  · rfl

theorem readExponent_closes {rest : List Char} (h : Closes rest) :
    readExponent rest = some (none, rest) := by
  rcases h.cases with rfl | ⟨r, rfl | rfl | rfl⟩
  · rfl
  · rfl
  · rfl
  · rfl

theorem render_ofInt (n : Int) :
    (ofInt n).render = renderSign (n < 0) ++ (Decimal.digits n.natAbs).map Digit.toChar := by
  simp [render, ofInt]

/-- An integer starts with its sign or with a digit. -/
theorem head_ofInt (n : Int) :
    ∃ c r, (ofInt n).render = c :: r ∧ (c = '-' ∨ ∃ d : Digit, c = d.toChar) := by
  rw [render_ofInt, renderSign]
  split
  · exact ⟨_, _, rfl, .inl rfl⟩
  · cases h : Decimal.digits n.natAbs with
    | nil => exact absurd h (Decimal.digits_ne_nil _)
    | cons d ds => exact ⟨_, _, rfl, .inr ⟨d, rfl⟩⟩

/-- An integer is read back up to what closes it. -/
theorem read_ofInt (n : Int) {rest : List Char} (h : Closes rest) :
    read ((ofInt n).render ++ rest) = some (ofInt n, rest) := by
  have hsign : read ((ofInt n).render ++ rest) =
      (readWhole ((Decimal.digits n.natAbs).map Digit.toChar ++ rest)).bind fun w =>
        (readFraction w.2).bind fun f =>
          (readExponent f.2).bind fun e => some (⟨n < 0, w.1, f.1, e.1⟩, e.2) := by
    rw [render_ofInt, renderSign]
    by_cases hn : n < 0
    · simp only [hn, decide_true, if_true, List.cons_append, List.nil_append]
      rfl
    · simp only [hn, decide_false, Bool.false_eq_true, if_false, List.nil_append]
      cases hds : Decimal.digits n.natAbs with
      | nil => exact absurd hds (Decimal.digits_ne_nil _)
      | cons d ds =>
        rw [read]
        · rfl
        · intro r heq
          exact Digit.toChar_ne (by decide) d (List.cons.inj heq).1
  rw [hsign, readWhole_digits _ h]
  simp only [readFraction_closes h, readExponent_closes h, Option.bind, ofInt]

/-- An integer that fits a word, with or without a sign, is the number of its
numeral. -/
theorem number?_ofInt {n : Int} (hlow : -(Word.half : Int) ≤ n) (hhigh : n < Word.limit) :
    (ofInt n).number? = some (.integer n) := by
  have hvalue : Decimal.value (ofInt n).whole = n.natAbs := Decimal.value_digits _
  have hnumber : (ofInt n).number? =
      if n < 0 then
        if 0 < n.natAbs ∧ n.natAbs ≤ Word.half then some (.integer (-(n.natAbs : Int)))
        else (ofInt n).real?.map .real
      else if n.natAbs < Word.limit then some (.integer n.natAbs)
      else (ofInt n).real?.map .real := by
    rw [← hvalue]
    by_cases hn : n < 0
    · simp [number?, ofInt, hn]
    · simp [number?, ofInt, hn]
  rw [hnumber]
  split
  · rw [if_pos (by omega), show -(n.natAbs : Int) = n by omega]
  · rw [if_pos (by omega), show (n.natAbs : Int) = n by omega]

theorem number?_toInt (n : Int64) : (ofInt n.toInt).number? = some (.integer n.toInt) := by
  have hlow : -(Word.half : Int) ≤ n.toInt := n.le_toInt
  have hhigh : n.toInt < Word.half := n.toInt_lt
  apply number?_ofInt hlow
  unfold Word.half at hhigh
  unfold Word.limit
  omega

end Numeral

/-! ## Trees -/

theorem isSpace_toChar (d : Digit) : isSpace d.toChar = false := by
  revert d; decide

theorem skipSpace_cons {c : Char} (h : isSpace c = false) (r : List Char) :
    skipSpace (c :: r) = c :: r := by
  simp [skipSpace, h]

/-- A value starts with a mark that no blank is, and that closes nothing. -/
theorem head_render {j : Json} (h : Plain j) :
    ∃ c r, j.render = c :: r ∧ isSpace c = false ∧ c ≠ ']' := by
  cases h with
  | null => exact ⟨_, _, rfl, by decide, by decide⟩
  | bool b => cases b <;> exact ⟨_, _, rfl, by decide, by decide⟩
  | int n =>
    obtain ⟨c, r, hr, hc⟩ := Numeral.head_ofInt n
    refine ⟨c, r, hr, ?_⟩
    rcases hc with rfl | ⟨d, rfl⟩
    · decide
    · exact ⟨isSpace_toChar d, Digit.toChar_ne (by decide) d⟩
  | text s => exact ⟨_, _, rfl, by decide, by decide⟩
  | array _ => exact ⟨_, _, rfl, by decide, by decide⟩
  | object _ _ => exact ⟨_, _, rfl, by decide, by decide⟩

/-- A value that starts like a number is one. -/
theorem readTree_number {c : Char} (hc : c = '-' ∨ ∃ d : Digit, c = d.toChar) (fuel : Nat)
    (r : List Char) :
    readTree spellText (fuel + 1) (c :: r) =
      (Numeral.read (c :: r)).map fun (n, r) => (.number n, r) := by
  have hstart : isSpace c = false ∧ c ∉ ['n', 't', 'f', '"', '[', '\x7b'] := by
    rcases hc with rfl | ⟨d, rfl⟩
    · decide
    · revert d; decide
  obtain ⟨hspace, hno⟩ := hstart
  simp only [List.mem_cons, List.not_mem_nil, or_false, not_or] at hno
  rw [readTree, skipSpace_cons hspace]
  split
  · rename_i heq
    exact absurd (List.cons.inj heq).1 hno.1
  · rename_i heq
    exact absurd (List.cons.inj heq).1 hno.2.1
  · rename_i heq
    exact absurd (List.cons.inj heq).1 hno.2.2.1
  · rename_i heq
    exact absurd (List.cons.inj heq).1 hno.2.2.2.1
  · rename_i heq
    exact absurd (List.cons.inj heq).1 hno.2.2.2.2.1
  · rename_i heq
    exact absurd (List.cons.inj heq).1 hno.2.2.2.2.2
  · rfl

/-- The reader takes the tree back, with two steps for each of its
characters, and leaves what closes it. -/
def ReadsBack (j : Json) : Prop :=
  ∀ fuel rest, 2 * j.render.length ≤ fuel → Closes rest →
    readTree spellText fuel (j.render ++ rest) = some (j, rest)

/-- Something is left of the fuel after one step. -/
theorem exists_succ {n fuel : Nat} (h : 2 * (n + 1) ≤ fuel) : ∃ m, fuel = m + 1 ∧ 2 * n < m :=
  ⟨fuel - 1, by omega, by omega⟩

/-! ### Items -/

theorem renderItems_first (x : Json) (xs : List Json) :
    renderItems true (x :: xs) = x.render ++ renderItems false xs := by
  simp [renderItems]

/-- The later items come after a comma. -/
theorem renderItems_later (x : Json) (xs : List Json) :
    renderItems false (x :: xs) = ',' :: renderItems true (x :: xs) := by
  simp [renderItems]

theorem readItems_last {x : Json} (h : ReadsBack x) {fuel : Nat}
    (hfuel : 2 * x.render.length ≤ fuel) (rest : List Char) :
    readItems spellText (fuel + 1) (x.render ++ ']' :: rest) = some ([x], rest) := by
  rw [readItems, h fuel _ hfuel (closes_cons (by decide) _)]
  rfl

theorem readItems_next {x : Json} (h : ReadsBack x) {fuel : Nat}
    (hfuel : 2 * x.render.length ≤ fuel) {tail rest : List Char} {xs : List Json}
    (htail : readItems spellText fuel tail = some (xs, rest)) :
    readItems spellText (fuel + 1) (x.render ++ ',' :: tail) = some (x :: xs, rest) := by
  rw [readItems, h fuel _ hfuel (closes_cons (by decide) _)]
  have hcomma : skipSpace (',' :: tail) = ',' :: tail := skipSpace_cons (by decide) _
  simp only [bind, Option.bind, hcomma, htail, pure]

theorem readItems_render (x : Json) (xs : List Json) (h : ∀ j ∈ x :: xs, ReadsBack j) :
    ∀ fuel rest, 2 * (renderItems true (x :: xs)).length ≤ fuel →
      readItems spellText fuel (renderItems true (x :: xs) ++ rest) = some (x :: xs, rest) := by
  induction xs generalizing x with
  | nil =>
    intro fuel rest hfuel
    rw [renderItems_first, List.append_assoc]
    rw [renderItems_first, List.length_append, renderItems, List.length_singleton] at hfuel
    obtain ⟨m, rfl, hm⟩ := exists_succ hfuel
    exact readItems_last (h x List.mem_cons_self) (by omega) rest
  | cons y ys ih =>
    intro fuel rest hfuel
    rw [renderItems_first, List.append_assoc, renderItems_later]
    rw [renderItems_first, List.length_append, renderItems_later, List.length_cons,
      ← Nat.add_assoc] at hfuel
    obtain ⟨m, rfl, hm⟩ := exists_succ hfuel
    apply readItems_next (h x List.mem_cons_self)
    · omega
    · apply ih y
      · intro j hj
        exact h j (List.mem_cons_of_mem x hj)
      · omega

/-! ### Members -/

theorem renderMembers_first (k : String) (x : Json) (ms : List (Literal × Json)) :
    renderMembers true ((.ok k, x) :: ms) =
      renderString (.ok k) ++ ':' :: (x.render ++ renderMembers false ms) := by
  simp [renderMembers]

/-- The later members come after a comma. -/
theorem renderMembers_later (m : Literal × Json) (ms : List (Literal × Json)) :
    renderMembers false (m :: ms) = ',' :: renderMembers true (m :: ms) := by
  simp [renderMembers]

theorem readMembers_quote (fuel : Nat) (r : List Char) :
    readMembers spellText (fuel + 1) ('"' :: r) = (do
      let (k, r) ← readString spellText r
      match skipSpace r with
      | ':' :: r =>
        let (x, r) ← readTree spellText fuel r
        match skipSpace r with
        | '\x7d' :: r => return ([(k, x)], r)
        | ',' :: r =>
          let (ms, r) ← readMembers spellText fuel r
          return ((k, x) :: ms, r)
        | _ => none
      | _ => none) := rfl

/-- The reader of a member goes on with the value behind its key. -/
theorem readMembers_key (k : String) (fuel : Nat) (cs : List Char) :
    readMembers spellText (fuel + 1) (renderString (.ok k) ++ ':' :: cs) = (do
      let (x, r) ← readTree spellText fuel cs
      match skipSpace r with
      | '\x7d' :: r => return ([(.ok k, x)], r)
      | ',' :: r =>
        let (ms, r) ← readMembers spellText fuel r
        return ((.ok k, x) :: ms, r)
      | _ => none) := by
  rw [renderString_ok, readMembers_quote, readString_renderChars]
  rfl

theorem readMembers_last (k : String) {x : Json} (h : ReadsBack x) {fuel : Nat}
    (hfuel : 2 * x.render.length ≤ fuel) (rest : List Char) :
    readMembers spellText (fuel + 1) (renderString (.ok k) ++ ':' :: (x.render ++ '\x7d' :: rest)) =
      some ([(.ok k, x)], rest) := by
  rw [readMembers_key, h fuel _ hfuel (closes_cons (by decide) _)]
  rfl

theorem readMembers_next (k : String) {x : Json} (h : ReadsBack x) {fuel : Nat}
    (hfuel : 2 * x.render.length ≤ fuel) {tail rest : List Char} {ms : List (Literal × Json)}
    (htail : readMembers spellText fuel tail = some (ms, rest)) :
    readMembers spellText (fuel + 1) (renderString (.ok k) ++ ':' :: (x.render ++ ',' :: tail)) =
      some ((.ok k, x) :: ms, rest) := by
  rw [readMembers_key, h fuel _ hfuel (closes_cons (by decide) _)]
  have hcomma : skipSpace (',' :: tail) = ',' :: tail := skipSpace_cons (by decide) _
  simp only [bind, Option.bind, hcomma, htail, pure]

theorem readMembers_render (m : Literal × Json) (ms : List (Literal × Json))
    (hkeys : ∀ m' ∈ m :: ms, ∃ key, m'.1 = .ok key) (h : ∀ m' ∈ m :: ms, ReadsBack m'.2) :
    ∀ fuel rest, 2 * (renderMembers true (m :: ms)).length ≤ fuel →
      readMembers spellText fuel (renderMembers true (m :: ms) ++ rest) = some (m :: ms, rest) := by
  induction ms generalizing m with
  | nil =>
    intro fuel rest hfuel
    obtain ⟨k, x⟩ := m
    obtain ⟨key, rfl⟩ : ∃ key, k = .ok key := hkeys _ List.mem_cons_self
    have hx : ReadsBack x := h _ List.mem_cons_self
    rw [renderMembers_first, List.length_append, List.length_cons, ← Nat.add_assoc] at hfuel
    obtain ⟨n, rfl, hn⟩ := exists_succ hfuel
    rw [List.length_append] at hn
    rw [renderMembers_first, List.append_assoc, List.cons_append, List.append_assoc]
    exact readMembers_last key hx (by omega) rest
  | cons m' ms ih =>
    intro fuel rest hfuel
    obtain ⟨k, x⟩ := m
    obtain ⟨key, rfl⟩ : ∃ key, k = .ok key := hkeys _ List.mem_cons_self
    have hx : ReadsBack x := h _ List.mem_cons_self
    rw [renderMembers_first, List.length_append, List.length_cons, ← Nat.add_assoc] at hfuel
    obtain ⟨n, rfl, hn⟩ := exists_succ hfuel
    rw [List.length_append, renderMembers_later, List.length_cons] at hn
    rw [renderMembers_first, List.append_assoc, List.cons_append, List.append_assoc,
      renderMembers_later]
    apply readMembers_next key hx (by omega)
    apply ih m'
    · intro m'' hm
      exact hkeys m'' (List.mem_cons_of_mem _ hm)
    · intro m'' hm
      exact h m'' (List.mem_cons_of_mem _ hm)
    · omega

/-! ### Values -/

theorem readTree_quote (fuel : Nat) (r : List Char) :
    readTree spellText (fuel + 1) ('"' :: r) =
      (readString spellText r).map fun (s, r) => (.string s, r) := rfl

theorem readTree_bracket (fuel : Nat) (r : List Char) :
    readTree spellText (fuel + 1) ('[' :: r) =
      match skipSpace r with
      | ']' :: r => some (.array [], r)
      | r => (readItems spellText fuel r).map fun (items, r) => (.array items, r) := rfl

theorem readTree_brace (fuel : Nat) (r : List Char) :
    readTree spellText (fuel + 1) ('\x7b' :: r) =
      match skipSpace r with
      | '\x7d' :: r => some (.object [], r)
      | r => (readMembers spellText fuel r).map fun (members, r) => (.object members, r) := rfl

/-- An array that does not close at once. -/
theorem readTree_array {fuel : Nat} {c : Char} {r rest : List Char} {items : List Json}
    (hspace : isSpace c = false) (hc : c ≠ ']')
    (h : readItems spellText fuel (c :: r) = some (items, rest)) :
    readTree spellText (fuel + 1) ('[' :: c :: r) = some (.array items, rest) := by
  rw [readTree_bracket, skipSpace_cons hspace]
  split
  · rename_i heq
    exact absurd (List.cons.inj heq).1 hc
  · rw [h]
    rfl

/-- An object that does not close at once. -/
theorem readTree_object {fuel : Nat} {r rest : List Char} {members : List (Literal × Json)}
    (h : readMembers spellText fuel ('"' :: r) = some (members, rest)) :
    readTree spellText (fuel + 1) ('\x7b' :: '"' :: r) = some (.object members, rest) := by
  rw [readTree_brace, skipSpace_cons (show isSpace '"' = false by decide)]
  split
  · rename_i heq
    exact absurd (List.cons.inj heq).1 (by decide)
  · rw [h]
    rfl

/-- Every tree of texts and integers is read back. -/
theorem readTree_render {j : Json} (h : Plain j) : ReadsBack j := by
  induction h with
  | null =>
    intro fuel rest hfuel _
    obtain ⟨m, rfl, _⟩ := exists_succ hfuel
    rfl
  | bool b =>
    intro fuel rest hfuel _
    cases b
    · obtain ⟨m, rfl, _⟩ := exists_succ hfuel
      rfl
    · obtain ⟨m, rfl, _⟩ := exists_succ hfuel
      rfl
  | int n =>
    intro fuel rest hfuel hrest
    obtain ⟨c, r, hr, hc⟩ := Numeral.head_ofInt n
    have hback := Numeral.read_ofInt n hrest
    rw [int, render] at hfuel ⊢
    rw [hr] at hfuel hback ⊢
    obtain ⟨m, rfl, _⟩ := exists_succ hfuel
    rw [List.cons_append, readTree_number hc, ← List.cons_append, hback]
    rfl
  | text s =>
    intro fuel rest hfuel _
    rw [text, render, renderString] at hfuel
    obtain ⟨m, rfl, _⟩ := exists_succ hfuel
    rw [text, render, renderString_ok, readTree_quote, readString_renderChars]
    rfl
  | @array items hitems ih =>
    intro fuel rest hfuel _
    rw [render, List.length_cons] at hfuel
    obtain ⟨m, rfl, hm⟩ := exists_succ hfuel
    cases items with
    | nil => rfl
    | cons x xs =>
      have hread := readItems_render x xs ih m rest (by omega)
      obtain ⟨c, r, hr, hspace, hc⟩ := head_render (hitems x List.mem_cons_self)
      rw [renderItems_first, hr, List.cons_append, List.cons_append] at hread
      rw [render, renderItems_first, hr]
      exact readTree_array hspace hc hread
  | @object members hkeys _ ih =>
    intro fuel rest hfuel _
    rw [render, List.length_cons] at hfuel
    obtain ⟨m, rfl, hm⟩ := exists_succ hfuel
    cases members with
    | nil => rfl
    | cons e ms =>
      have hread := readMembers_render e ms hkeys ih m rest (by omega)
      obtain ⟨k, x⟩ := e
      obtain ⟨key, rfl⟩ : ∃ key, k = .ok key := hkeys _ List.mem_cons_self
      rw [render]
      exact readTree_object hread

/-- A tree of texts and integers is read back from its text. -/
theorem read?_write {j : Json} (h : Plain j) : read? j.write.toList = some j := by
  have hread := readTree_render h (2 * j.render.length + 2) [] (by omega) closes_nil
  rw [List.append_nil] at hread
  rw [read?, write, String.toList_ofList, readWhole, hread]
  rfl

end Json

end Warrant
