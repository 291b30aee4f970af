-- Base64 is read back. The writer turns bytes into numbers of six bits, and
-- each number into a symbol; the reader goes the same way back, group by
-- group. What the reader accepts is made of symbols only.
import Warrant.Proofs.Sequence
import Warrant.Proofs.Text.Utf8
import Warrant.Text.Base64Url

namespace Warrant.Text

namespace Base64Url

/-! ## Symbols -/

/-- The byte of a symbol. -/
def symbolByte (n : Nat) : UInt8 := (symbol n).toUInt8

theorem sextet?_symbolByte {n : Nat} (h : n < 64) : sextet? (symbolByte n) = some n := by
  have all : ∀ m : Fin 64, sextet? (symbolByte m.val) = some m.val := by decide
  exact all ⟨n, h⟩

theorem symbolByte_ne_pad {n : Nat} (h : n < 64) : symbolByte n ≠ pad := by
  have all : ∀ m : Fin 64, symbolByte m.val ≠ pad := by decide
  exact all ⟨n, h⟩

theorem symbol_ascii {n : Nat} (h : n < 64) : (symbol n).toNat < 128 := by
  have all : ∀ m : Fin 64, (symbol m.val).toNat < 128 := by decide
  exact all ⟨n, h⟩

theorem symbol_ne_dot {n : Nat} (h : n < 64) : symbol n ≠ '.' := by
  have all : ∀ m : Fin 64, symbol m.val ≠ '.' := by decide
  exact all ⟨n, h⟩

/-! ## Numbers of six bits -/

/-- The numbers that the symbols of some bytes stand for. -/
def sextets : List UInt8 → List Nat
  | a :: b :: c :: r =>
    a.toNat / 4 :: (a.toNat % 4 * 16 + b.toNat / 16) :: (b.toNat % 16 * 4 + c.toNat / 64) ::
      c.toNat % 64 :: sextets r
  | [a, b] => [a.toNat / 4, a.toNat % 4 * 16 + b.toNat / 16, b.toNat % 16 * 4]
  | [a] => [a.toNat / 4, a.toNat % 4 * 16]
  | [] => []

theorem encode_eq (bytes : List UInt8) : encode bytes = (sextets bytes).map symbol := by
  induction bytes using sextets.induct with
  | case1 a b c r ih => simp only [encode, sextets, ih, List.map_cons]
  | case2 a b => rfl
  | case3 a => rfl
  | case4 => rfl

theorem sextets_lt (bytes : List UInt8) : ∀ n ∈ sextets bytes, n < 64 := by
  induction bytes using sextets.induct with
  | case1 a b c r ih =>
    intro n hn
    have ha := a.toNat_lt
    have hb := b.toNat_lt
    have hc := c.toNat_lt
    simp only [sextets, List.mem_cons] at hn
    rcases hn with rfl | rfl | rfl | rfl | hn
    · omega
    · omega
    · omega
    · omega
    · exact ih n hn
  | case2 a b =>
    intro n hn
    have ha := a.toNat_lt
    have hb := b.toNat_lt
    simp only [sextets, List.mem_cons, List.not_mem_nil, or_false] at hn
    omega
  | case3 a =>
    intro n hn
    have ha := a.toNat_lt
    simp only [sextets, List.mem_cons, List.not_mem_nil, or_false] at hn
    omega
  | case4 =>
    intro n hn
    cases hn

/-- No dot stands in base64. -/
theorem dot_not_mem_encode (bytes : List UInt8) : '.' ∉ encode bytes := by
  rw [encode_eq]
  intro h
  obtain ⟨n, hn, hdot⟩ := List.mem_map.1 h
  exact symbol_ne_dot (sextets_lt bytes n hn) hdot

theorem bytes_encode (bytes : List UInt8) :
    Utf8.bytes (String.ofList (encode bytes)) = (sextets bytes).map symbolByte := by
  rw [encode_eq, Utf8.bytes_ascii]
  · rw [List.map_map]
    rfl
  · intro c hc
    obtain ⟨n, hn, rfl⟩ := List.mem_map.1 hc
    exact symbol_ascii (sextets_lt bytes n hn)

/-! ## Groups -/

theorem readSymbol_symbolByte {n : Nat} (h : n < 64) (offset : Nat) :
    readSymbol offset (symbolByte n) = .ok n := by
  rw [readSymbol, sextet?_symbolByte h]

theorem readLastSymbols_symbols {ns : List Nat} (h : ∀ n ∈ ns, n < 64) (start i : Nat) :
    readLastSymbols start i (ns.map symbolByte) = .ok (ns.map fun n => (symbolByte n, n), 0) := by
  induction ns generalizing i with
  | nil => rfl
  | cons n r ih =>
    have hn := h n List.mem_cons_self
    have hr := ih (fun m hm => h m (List.mem_cons_of_mem n hm)) (i + 1)
    rw [List.map_cons, readLastSymbols, if_neg (symbolByte_ne_pad hn), readSymbol_symbolByte hn, hr]
    rfl

theorem ofNat_eq {n : Nat} {a : UInt8} (h : n = a.toNat) : UInt8.ofNat n = a := by
  rw [h, UInt8.ofNat_toNat]

/-- A first byte has six bits of one symbol and two of the next. -/
theorem first_byte {a : UInt8} {n : Nat} (h : n / 16 = a.toNat % 4) :
    UInt8.ofNat (a.toNat / 4 * 4 + n / 16) = a := by
  apply ofNat_eq
  omega

/-- A second byte has four bits of each of two symbols. -/
theorem second_byte {b : UInt8} {m n : Nat} (hm : m % 16 = b.toNat / 16)
    (hn : n / 4 = b.toNat % 16) : UInt8.ofNat (m % 16 * 16 + n / 4) = b := by
  apply ofNat_eq
  omega

/-- A third byte has two bits of one symbol and six of the last. -/
theorem third_byte {c : UInt8} {m : Nat} (h : m % 4 = c.toNat / 64) :
    UInt8.ofNat (m % 4 * 64 + c.toNat % 64) = c := by
  apply ofNat_eq
  omega

theorem decodeLast_one (a : UInt8) (start : Nat) :
    decodeLast start ((sextets [a]).map symbolByte) = .ok [a] := by
  rw [decodeLast, readLastSymbols_symbols (sextets_lt [a])]
  simp only [sextets, List.map_cons, List.map_nil, bind, Except.bind]
  rw [if_pos (by omega), first_byte]
  · rfl
  · omega

theorem decodeLast_two (a b : UInt8) (start : Nat) :
    decodeLast start ((sextets [a, b]).map symbolByte) = .ok [a, b] := by
  have hb := b.toNat_lt
  rw [decodeLast, readLastSymbols_symbols (sextets_lt [a, b])]
  simp only [sextets, List.map_cons, List.map_nil, bind, Except.bind]
  rw [if_pos (by omega), first_byte, second_byte]
  · rfl
  · omega
  · omega
  · omega

theorem decodeLast_three (a b c : UInt8) (start : Nat) :
    decodeLast start ((sextets [a, b, c]).map symbolByte) = .ok [a, b, c] := by
  have hb := b.toNat_lt
  have hc := c.toNat_lt
  rw [decodeLast, readLastSymbols_symbols (sextets_lt [a, b, c])]
  simp only [sextets, List.map_cons, List.map_nil, bind, Except.bind]
  rw [first_byte, second_byte, third_byte]
  · rfl
  · omega
  · omega
  · omega
  · omega

theorem sextets_ne_nil (a : UInt8) (r : List UInt8) : sextets (a :: r) ≠ [] := by
  match r with
  | [] => simp [sextets]
  | [_] => simp [sextets]
  | _ :: _ :: _ => simp [sextets]

theorem decodeGroups_sextets (bytes : List UInt8) (start : Nat) :
    decodeGroups start ((sextets bytes).map symbolByte) = .ok bytes := by
  induction bytes using sextets.induct generalizing start with
  | case1 a b c r ih =>
    cases r with
    | nil => exact decodeLast_three a b c start
    | cons e r =>
      have hlt := sextets_lt (a :: b :: c :: e :: r)
      have hb := b.toNat_lt
      have hc := c.toNat_lt
      have hrest := ih (start + 4)
      rw [sextets] at hlt ⊢
      simp only [List.mem_cons, forall_eq_or_imp] at hlt
      obtain ⟨h1, h2, h3, h4, _⟩ := hlt
      cases hes : sextets (e :: r) with
      | nil => exact absurd hes (sextets_ne_nil e r)
      | cons n ns =>
        rw [hes, List.map_cons] at hrest
        simp only [List.map_cons, decodeGroups, readSymbol_symbolByte h1, readSymbol_symbolByte h2,
          readSymbol_symbolByte h3, readSymbol_symbolByte h4, hrest, bind, Except.bind]
        rw [first_byte, second_byte, third_byte]
        · rfl
        · omega
        · omega
        · omega
        · omega
  | case2 a b => exact decodeLast_two a b start
  | case3 a => exact decodeLast_one a start
  | case4 => rfl

/-- Bytes are read back from their base64. -/
theorem decode_encode (bytes : List UInt8) :
    decode (Utf8.bytes (String.ofList (encode bytes))) = .ok bytes := by
  rw [bytes_encode, decode]
  split
  · rename_i h
    rw [List.getLast?_eq_none_iff, List.map_eq_nil_iff] at h
    cases bytes with
    | nil => rfl
    | cons a r => exact absurd h (sextets_ne_nil a r)
  · rename_i b h
    obtain ⟨n, hn, rfl⟩ := List.mem_map.1 (List.mem_of_getLast? h)
    have hsymbol := sextet?_symbolByte (sextets_lt bytes n hn)
    rw [hsymbol, if_neg (by simp)]
    exact decodeGroups_sextets bytes 0

/-! ## Texts that are read -/

/-- The byte is a symbol. -/
def IsSymbol (b : UInt8) : Prop := (sextet? b).isSome

theorem isSymbol_of_readSymbol {offset : Nat} {b : UInt8} {n : Nat}
    (h : readSymbol offset b = .ok n) : IsSymbol b := by
  unfold readSymbol at h
  split at h
  · rename_i hb
    simp [IsSymbol, hb]
  · cases h

/-- A last group without padding has symbols only. -/
theorem isSymbol_of_readLastSymbols {start i : Nat} {group : List UInt8}
    {read : List (UInt8 × Nat)} (h : readLastSymbols start i group = .ok (read, 0)) :
    ∀ b ∈ group, IsSymbol b := by
  induction group generalizing i read with
  | nil => simp
  | cons b r ih =>
    unfold readLastSymbols at h
    split at h
    · split at h
      · cases h
      · split at h
        · simp at h
        · cases h
    · obtain ⟨n, hn, h⟩ := ok_of_bind h
      obtain ⟨⟨ns, pads⟩, hr, h⟩ := ok_of_bind h
      cases h
      rw [List.forall_mem_cons]
      exact ⟨isSymbol_of_readSymbol hn, ih hr⟩

/-- A group without symbols is empty: padding does not stand alone. -/
theorem eq_nil_of_readLastSymbols {start : Nat} {group : List UInt8} {pads : Nat}
    (h : readLastSymbols start 0 group = .ok ([], pads)) : group = [] := by
  cases group with
  | nil => rfl
  | cons b r =>
    unfold readLastSymbols at h
    split at h
    · simp at h
    · obtain ⟨n, _, h⟩ := ok_of_bind h
      obtain ⟨⟨ns, _⟩, _, h⟩ := ok_of_bind h
      cases h

theorem isSymbol_of_decodeLast {start : Nat} {group bytes : List UInt8}
    (h : decodeLast start group = .ok bytes) : ∀ b ∈ group, IsSymbol b := by
  unfold decodeLast at h
  obtain ⟨read, hr, h⟩ := ok_of_bind h
  split at h
  · rw [eq_nil_of_readLastSymbols hr]
    simp
  · cases h
  · cases h
  · exact isSymbol_of_readLastSymbols hr
  · exact isSymbol_of_readLastSymbols hr
  · exact isSymbol_of_readLastSymbols hr

theorem isSymbol_of_decodeGroups {start : Nat} {text bytes : List UInt8}
    (h : decodeGroups start text = .ok bytes) : ∀ b ∈ text, IsSymbol b := by
  induction start, text using decodeGroups.induct generalizing bytes with
  | case1 start a b c d e r ih =>
    unfold decodeGroups at h
    obtain ⟨_, ha, h⟩ := ok_of_bind h
    obtain ⟨_, hb, h⟩ := ok_of_bind h
    obtain ⟨_, hc, h⟩ := ok_of_bind h
    obtain ⟨_, hd, h⟩ := ok_of_bind h
    obtain ⟨rest, hr, _⟩ := ok_of_bind h
    rw [List.forall_mem_cons, List.forall_mem_cons, List.forall_mem_cons, List.forall_mem_cons]
    exact ⟨isSymbol_of_readSymbol ha, isSymbol_of_readSymbol hb, isSymbol_of_readSymbol hc,
      isSymbol_of_readSymbol hd, ih hr⟩
  | case2 start group hshort =>
    unfold decodeGroups at h
    split at h
    · exact absurd rfl (hshort _ _ _ _ _ _)
    · exact isSymbol_of_decodeLast h

theorem isSymbol_of_decode {text bytes : List UInt8} (h : decode text = .ok bytes) :
    ∀ b ∈ text, IsSymbol b := by
  unfold decode at h
  split at h
  · rename_i hnil
    rw [List.getLast?_eq_none_iff.1 hnil]
    simp
  · split at h
    · cases h
    · exact isSymbol_of_decodeGroups h

/-- An ASCII character that is no symbol is not in a text that is read. -/
theorem not_mem_of_decode {part : List Char} {bytes : List UInt8}
    (h : decode (Utf8.bytes (String.ofList part)) = .ok bytes) {c : Char} (hc : c.toNat < 128)
    (hno : sextet? c.toUInt8 = none) : c ∉ part := by
  intro hm
  have hsymbol : IsSymbol c.toUInt8 := isSymbol_of_decode h _ (Utf8.mem_bytes_ofList hm hc)
  simp [IsSymbol, hno] at hsymbol

end Base64Url

end Warrant.Text
