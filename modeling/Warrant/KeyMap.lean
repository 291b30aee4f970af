-- Finite maps as lists of entries in key order. The order of the keys is
-- strict, so a map has one list only, and two maps with the same entries
-- are equal. Each operation has one law: what it does to a lookup.

namespace Warrant

universe u v w

/-! ## Keys -/

/-- Keys in a strict linear order that can be tested. -/
class KeyOrder (κ : Type u) where
  decEq : DecidableEq κ
  before : κ → κ → Bool
  irrefl : ∀ a, before a a = false
  trans : ∀ {a b c}, before a b = true → before b c = true → before a c = true
  total : ∀ {a b}, before a b = false → before b a = false → a = b

instance (priority := low) {κ : Type u} [KeyOrder κ] : DecidableEq κ := KeyOrder.decEq

/-- Texts are in the order of their characters, which is also the order of
their UTF-8 bytes. -/
instance : KeyOrder String where
  decEq := inferInstance
  before a b := decide (a < b)
  irrefl a := by simp
  trans h1 h2 := by simp only [decide_eq_true_eq] at *; exact String.lt_trans h1 h2
  total h1 h2 := by
    simp only [decide_eq_false_iff_not] at *
    exact String.le_antisymm h2 h1

instance : KeyOrder UInt64 where
  decEq := inferInstance
  before a b := decide (a.toNat < b.toNat)
  irrefl a := by simp
  trans h1 h2 := by simp only [decide_eq_true_eq] at *; omega
  total h1 h2 := by
    simp only [decide_eq_false_iff_not] at *
    exact UInt64.toNat_inj.1 (by omega)

section

variable {κ : Type u} {α : Type v} {β : Type w} [KeyOrder κ]

/-! ## Entry lists -/

namespace Entries

/-- Each key comes before every later key. -/
def Ordered (l : List (κ × α)) : Prop :=
  l.Pairwise fun a b => KeyOrder.before a.1 b.1 = true

/-- The value of the first entry with the key. -/
def get? (k : κ) : List (κ × α) → Option α
  | [] => none
  | (k', v) :: r => if k = k' then some v else get? k r

/-- Puts an entry at its place. The old entry of the key goes. -/
def insert (k : κ) (v : α) : List (κ × α) → List (κ × α)
  | [] => [(k, v)]
  | (k', v') :: r =>
    if KeyOrder.before k k' then (k, v) :: (k', v') :: r
    else if k = k' then (k, v) :: r
    else (k', v') :: insert k v r

/-- The entries of a list in key order. Of two entries with one key the
later one stays. -/
def ofList (l : List (κ × α)) : List (κ × α) :=
  l.foldl (fun m e => insert e.1 e.2 m) []

theorem before_ne {a b : κ} (h : KeyOrder.before a b = true) : a ≠ b := by
  rintro rfl
  simp [KeyOrder.irrefl] at h

theorem insert_first {k : κ} {v : α} {l : List (κ × α)} {e : κ × α}
    (h : e ∈ insert k v l) : e = (k, v) ∨ e ∈ l := by
  induction l with
  | nil => simpa [insert] using h
  | cons e' r ih =>
    obtain ⟨k', v'⟩ := e'
    simp only [insert] at h
    split at h
    · simpa using h
    · split at h
      · rcases List.mem_cons.1 h with h | h
        · exact .inl h
        · exact .inr (List.mem_cons_of_mem _ h)
      · rcases List.mem_cons.1 h with h | h
        · exact .inr (h ▸ List.mem_cons_self)
        · rcases ih h with h | h
          · exact .inl h
          · exact .inr (List.mem_cons_of_mem _ h)

theorem ordered_insert {k : κ} {v : α} {l : List (κ × α)} (h : Ordered l) :
    Ordered (insert k v l) := by
  induction l with
  | nil => simp [insert, Ordered]
  | cons e' r ih =>
    obtain ⟨k', v'⟩ := e'
    obtain ⟨hk, hr⟩ := List.pairwise_cons.1 h
    simp only [insert]
    split
    · rename_i hb
      refine List.pairwise_cons.2 ⟨fun e he => ?_, h⟩
      rcases List.mem_cons.1 he with rfl | he
      · exact hb
      · exact KeyOrder.trans hb (hk e he)
    · split
      · rename_i heq
        exact List.pairwise_cons.2 ⟨fun e he => heq ▸ hk e he, hr⟩
      · rename_i hb hne
        refine List.pairwise_cons.2 ⟨fun e he => ?_, ih hr⟩
        rcases insert_first he with rfl | he
        · cases hlt : KeyOrder.before k' k with
          | true => rfl
          | false =>
            exact absurd (KeyOrder.total (Bool.not_eq_true _ ▸ hb) hlt) hne
        · exact hk e he

theorem ordered_ofList (l : List (κ × α)) : Ordered (ofList l) := by
  suffices h : ∀ (l m : List (κ × α)), Ordered m →
      Ordered (l.foldl (fun m e => insert e.1 e.2 m) m) from h l [] List.Pairwise.nil
  intro l
  induction l with
  | nil => exact fun _ h => h
  | cons e r ih => exact fun m h => ih _ (ordered_insert h)

/-- Each entry is one of the list. -/
theorem mem_of_mem_ofList {l : List (κ × α)} {e : κ × α} (h : e ∈ ofList l) : e ∈ l := by
  suffices hall : ∀ (l m : List (κ × α)),
      e ∈ l.foldl (fun m e => insert e.1 e.2 m) m → e ∈ m ∨ e ∈ l by
    simpa using hall l [] h
  intro l
  induction l with
  | nil => exact fun m hm => .inl hm
  | cons e' r ih =>
    intro m hm
    rcases ih _ hm with hm | hm
    · rcases insert_first hm with rfl | hm
      · exact .inr List.mem_cons_self
      · exact .inl hm
    · exact .inr (List.mem_cons_of_mem e' hm)

theorem get?_insert (k k' : κ) (v : α) (l : List (κ × α)) :
    get? k' (insert k v l) = if k' = k then some v else get? k' l := by
  induction l with
  | nil => simp [insert, get?]
  | cons e r ih =>
    obtain ⟨k₁, v₁⟩ := e
    simp only [insert]
    split
    · simp [get?]
    · split
      · rename_i h
        subst h
        simp only [get?]
        split <;> rfl
      · rename_i hne
        simp only [get?, ih]
        split
        · rename_i h1
          rw [if_neg]
          rintro rfl
          exact hne h1
        · rfl

theorem get?_eq_none {k : κ} {l : List (κ × α)} (h : ∀ e ∈ l, e.1 ≠ k) : get? k l = none := by
  induction l with
  | nil => rfl
  | cons e r ih =>
    obtain ⟨k', v⟩ := e
    simp only [get?]
    rw [if_neg fun h' => h _ List.mem_cons_self h'.symm]
    exact ih fun e he => h e (List.mem_cons_of_mem _ he)

theorem get?_eq_some_of_mem {k : κ} {v : α} {l : List (κ × α)} (h : Ordered l)
    (hm : (k, v) ∈ l) : get? k l = some v := by
  induction l with
  | nil => simp at hm
  | cons e r ih =>
    obtain ⟨k', v'⟩ := e
    obtain ⟨hk, hr⟩ := List.pairwise_cons.1 h
    rcases List.mem_cons.1 hm with h' | h'
    · obtain ⟨rfl, rfl⟩ := Prod.mk.inj h'
      simp [get?]
    · simp only [get?]
      rw [if_neg fun h'' => before_ne (hk _ h') h''.symm]
      exact ih hr h'

theorem mem_of_get? {k : κ} {v : α} {l : List (κ × α)} (h : get? k l = some v) :
    (k, v) ∈ l := by
  induction l with
  | nil => simp [get?] at h
  | cons e r ih =>
    obtain ⟨k', v'⟩ := e
    simp only [get?] at h
    split at h
    · rename_i heq
      cases heq
      cases h
      exact List.mem_cons_self
    · exact List.mem_cons_of_mem _ (ih h)

/-- The list is known when all its lookups are. -/
theorem ext {l m : List (κ × α)} (hl : Ordered l) (hm : Ordered m)
    (h : ∀ k, get? k l = get? k m) : l = m := by
  have mem_iff : ∀ e, e ∈ l ↔ e ∈ m := fun e =>
    ⟨fun he => mem_of_get? ((h e.1).symm.trans (get?_eq_some_of_mem hl he)),
      fun he => mem_of_get? ((h e.1).trans (get?_eq_some_of_mem hm he))⟩
  induction l generalizing m with
  | nil =>
    cases m with
    | nil => rfl
    | cons e r => exact absurd ((mem_iff e).2 List.mem_cons_self) (by simp)
  | cons a l ih =>
    cases m with
    | nil => exact absurd ((mem_iff a).1 List.mem_cons_self) (by simp)
    | cons b m =>
      obtain ⟨ha, hl'⟩ := List.pairwise_cons.1 hl
      obtain ⟨hb, hm'⟩ := List.pairwise_cons.1 hm
      have hab : a = b := by
        rcases List.mem_cons.1 ((mem_iff a).1 List.mem_cons_self) with h1 | h1
        · exact h1
        · rcases List.mem_cons.1 ((mem_iff b).2 List.mem_cons_self) with h2 | h2
          · exact h2.symm
          · exact absurd rfl (before_ne (KeyOrder.trans (ha b h2) (hb a h1)))
      subst hab
      have tail_iff : ∀ e, e ∈ l ↔ e ∈ m := by
        intro e
        constructor
        · intro he
          rcases List.mem_cons.1 ((mem_iff e).1 (List.mem_cons_of_mem _ he)) with h1 | h1
          · exact absurd (congrArg Prod.fst h1.symm) (before_ne (ha e he))
          · exact h1
        · intro he
          rcases List.mem_cons.1 ((mem_iff e).2 (List.mem_cons_of_mem _ he)) with h1 | h1
          · exact absurd (congrArg Prod.fst h1.symm) (before_ne (hb e he))
          · exact h1
      rw [ih hl' hm' (fun k => ?_) tail_iff]
      have hk := h k
      obtain ⟨ka, va⟩ := a
      by_cases hka : k = ka
      · subst hka
        rw [get?_eq_none fun e he => (before_ne (ha e he)).symm,
          get?_eq_none fun e he => (before_ne (hb e he)).symm]
      · simpa [get?, hka] using hk

/-- A new key makes one entry more. -/
theorem length_insert {k : κ} {l : List (κ × α)} (h : get? k l = none) (v : α) :
    (insert k v l).length = l.length + 1 := by
  induction l with
  | nil => rfl
  | cons e r ih =>
    obtain ⟨k', v'⟩ := e
    simp only [get?] at h
    simp only [insert]
    split at h
    · cases h
    · split
      · rfl
      · rw [List.length_cons, ih h, List.length_cons]

/-- A key has one entry only. -/
theorem length_filter_ne {k : κ} {v : α} {l : List (κ × α)} (hl : Ordered l)
    (h : get? k l = some v) : (l.filter fun e => decide (e.1 ≠ k)).length + 1 = l.length := by
  induction l with
  | nil => cases h
  | cons e r ih =>
    obtain ⟨k', v'⟩ := e
    obtain ⟨hk, hr⟩ := List.pairwise_cons.1 hl
    simp only [get?] at h
    split at h
    · rename_i he
      have hall : ∀ e ∈ r, decide (e.1 ≠ k) = true := by
        intro e hm
        exact decide_eq_true fun h' => before_ne (hk e hm) (he.symm.trans h'.symm)
      rw [List.filter_cons, if_neg (by simp [he]), List.filter_eq_self.2 hall, List.length_cons]
    · rename_i hne
      rw [List.filter_cons, if_pos (by simp [Ne.symm hne]), List.length_cons, List.length_cons,
        ih hr h]

/-- An entry goes behind all that come before it. -/
theorem insert_last {k : κ} {l : List (κ × α)} (h : ∀ e ∈ l, KeyOrder.before e.1 k = true)
    (v : α) : insert k v l = l ++ [(k, v)] := by
  induction l with
  | nil => rfl
  | cons e r ih =>
    have he := h e List.mem_cons_self
    have hb : KeyOrder.before k e.1 = false := by
      cases hb : KeyOrder.before k e.1 with
      | false => rfl
      | true =>
        have hk := KeyOrder.trans hb he
        rw [KeyOrder.irrefl] at hk
        exact hk.symm
    have hr := ih fun e' he' => h e' (List.mem_cons_of_mem e he')
    rw [insert, if_neg (by simp [hb]), if_neg (before_ne he).symm, hr]
    rfl

/-- A list in key order stays as it is. -/
theorem ofList_of_ordered {l : List (κ × α)} (h : Ordered l) : ofList l = l := by
  suffices hall : ∀ m, Ordered (m ++ l) →
      l.foldl (fun m e => insert e.1 e.2 m) m = m ++ l from hall [] h
  clear h
  induction l with
  | nil =>
    intro m _
    simp
  | cons e r ih =>
    intro m h
    obtain ⟨_, _, hm⟩ := List.pairwise_append.1 h
    have hlast : insert e.1 e.2 m = m ++ [e] :=
      insert_last (fun e' he' => hm e' he' e List.mem_cons_self) e.2
    rw [List.foldl_cons, hlast, ih (m ++ [e]) (by simpa using h)]
    simp

/-- No key stands twice. -/
theorem nodup_keys {l : List (κ × α)} (h : Ordered l) : (l.map Prod.fst).Nodup :=
  List.pairwise_map.2 (h.imp before_ne)

/-- If no key stands twice, each entry makes the list one longer. -/
theorem length_ofList {l : List (κ × α)} (h : (l.map Prod.fst).Nodup) :
    (ofList l).length = l.length := by
  suffices hall : ∀ m : List (κ × α), (∀ e ∈ l, get? e.1 m = none) →
      (l.foldl (fun m e => insert e.1 e.2 m) m).length = m.length + l.length by
    simpa [ofList] using hall [] fun _ _ => rfl
  induction l with
  | nil => exact fun _ _ => rfl
  | cons e r ih =>
    intro m hm
    obtain ⟨he, hr⟩ := List.nodup_cons.1 h
    have hstep : ∀ e' ∈ r, get? e'.1 (insert e.1 e.2 m) = none := by
      intro e' he'
      have hne : e'.1 ≠ e.1 := fun heq => he (heq ▸ List.mem_map_of_mem he')
      rw [get?_insert, if_neg hne]
      exact hm e' (List.mem_cons_of_mem e he')
    rw [List.foldl_cons, ih hr _ hstep, length_insert (hm e List.mem_cons_self), List.length_cons]
    omega

end Entries

/-! ## Maps -/

/-- A finite map. -/
structure KeyMap (κ : Type u) [KeyOrder κ] (α : Type v) where
  entries : List (κ × α)
  ordered : Entries.Ordered entries

namespace KeyMap

instance [DecidableEq α] : DecidableEq (KeyMap κ α) := fun a b =>
  if h : a.entries = b.entries then
    isTrue (by cases a; cases b; cases h; rfl)
  else isFalse fun e => h (congrArg entries e)

def empty : KeyMap κ α := ⟨[], List.Pairwise.nil⟩

instance : Inhabited (KeyMap κ α) := ⟨empty⟩

def get? (m : KeyMap κ α) (k : κ) : Option α := Entries.get? k m.entries

def contains (m : KeyMap κ α) (k : κ) : Bool := (m.get? k).isSome

/-- Adds an entry, in place of the one that the key had. -/
def insert (m : KeyMap κ α) (k : κ) (v : α) : KeyMap κ α :=
  ⟨Entries.insert k v m.entries, Entries.ordered_insert m.ordered⟩

/-- Keeps the entries that pass the test. -/
def filter (m : KeyMap κ α) (p : κ → α → Bool) : KeyMap κ α :=
  ⟨m.entries.filter fun e => p e.1 e.2, m.ordered.filter _⟩

def erase (m : KeyMap κ α) (k : κ) : KeyMap κ α := m.filter fun k' _ => decide (k' ≠ k)

/-- Changes the values and no key. -/
def map (f : α → β) (m : KeyMap κ α) : KeyMap κ β :=
  ⟨m.entries.map fun e => (e.1, f e.2), by
    rw [Entries.Ordered, List.pairwise_map]
    exact m.ordered⟩

/-- The map of a list of entries. Of two entries with one key the later
one counts. -/
def ofList (l : List (κ × α)) : KeyMap κ α := ⟨Entries.ofList l, Entries.ordered_ofList l⟩

def size (m : KeyMap κ α) : Nat := m.entries.length

def keys (m : KeyMap κ α) : List κ := m.entries.map Prod.fst

def values (m : KeyMap κ α) : List α := m.entries.map Prod.snd

/-- Maps that give the same answers are the same map. -/
theorem ext {m n : KeyMap κ α} (h : ∀ k, m.get? k = n.get? k) : m = n := by
  cases m with | mk l hl =>
  cases n with | mk l' hl' =>
  obtain rfl : l = l' := Entries.ext hl hl' h
  rfl

theorem eq_empty {m : KeyMap κ α} (h : m.entries.isEmpty = true) : m = empty := by
  cases m with | mk l hl =>
  obtain rfl : l = [] := List.isEmpty_iff.1 h
  rfl

@[simp] theorem get?_empty (k : κ) : (empty : KeyMap κ α).get? k = none := rfl

theorem get?_insert (m : KeyMap κ α) (k k' : κ) (v : α) :
    (m.insert k v).get? k' = if k' = k then some v else m.get? k' :=
  Entries.get?_insert k k' v m.entries

theorem mem_entries_iff (m : KeyMap κ α) (k : κ) (v : α) :
    (k, v) ∈ m.entries ↔ m.get? k = some v :=
  ⟨Entries.get?_eq_some_of_mem m.ordered, Entries.mem_of_get?⟩

theorem get?_filter (m : KeyMap κ α) (p : κ → α → Bool) (k : κ) :
    (m.filter p).get? k = (m.get? k).filter (p k) := by
  refine Option.ext fun v => ?_
  rw [← mem_entries_iff, Option.filter_eq_some_iff, ← mem_entries_iff]
  simp [filter]

theorem get?_erase (m : KeyMap κ α) (k k' : κ) :
    (m.erase k).get? k' = if k' = k then none else m.get? k' := by
  rw [erase, get?_filter]
  split
  · rename_i h
    cases m.get? k' <;> simp [h]
  · rename_i h
    cases m.get? k' <;> simp [h]

theorem get?_erase_eq_some_iff {m : KeyMap κ α} {k k' : κ} {v : α} :
    (m.erase k).get? k' = some v ↔ k' ≠ k ∧ m.get? k' = some v := by
  rw [get?_erase]
  split <;> simp_all

theorem get?_filter_eq_some_iff {m : KeyMap κ α} {p : κ → α → Bool} {k : κ} {v : α} :
    (m.filter p).get? k = some v ↔ m.get? k = some v ∧ p k v = true := by
  rw [get?_filter, Option.filter_eq_some_iff]

theorem size_insert {m : KeyMap κ α} {k : κ} (h : m.get? k = none) (v : α) :
    (m.insert k v).size = m.size + 1 :=
  Entries.length_insert h v

theorem size_erase {m : KeyMap κ α} {k : κ} {v : α} (h : m.get? k = some v) :
    (m.erase k).size + 1 = m.size :=
  Entries.length_filter_ne m.ordered h

theorem size_filter_le (m : KeyMap κ α) (p : κ → α → Bool) : (m.filter p).size ≤ m.size :=
  List.length_filter_le ..

/-- An entry passes the test or its opposite. -/
theorem size_filter_add_size_filter_not (m : KeyMap κ α) (p : κ → α → Bool) :
    (m.filter p).size + (m.filter fun k v => !p k v).size = m.size := by
  have h := List.length_eq_countP_add_countP (fun e : κ × α => p e.1 e.2) (l := m.entries)
  simpa [size, filter, List.countP_eq_length_filter] using h.symm

/-- A list of entries gives for a key the value of its last entry. -/
theorem get?_ofList (l : List (κ × α)) (k : κ) :
    (ofList l).get? k = (l.reverse.find? fun e => decide (e.1 = k)).map Prod.snd := by
  suffices h : ∀ m, Entries.get? k (l.foldl (fun m e => Entries.insert e.1 e.2 m) m) =
      ((l.reverse.find? fun e => decide (e.1 = k)).map Prod.snd).or (Entries.get? k m) by
    show Entries.get? k (Entries.ofList l) = _
    rw [Entries.ofList, h []]
    simp [Entries.get?]
  induction l with
  | nil => intro m; simp
  | cons e r ih =>
    intro m
    rw [List.foldl_cons, ih, Entries.get?_insert, List.reverse_cons, List.find?_append]
    by_cases h : k = e.1
    · subst h
      cases r.reverse.find? fun e' => decide (e'.1 = e.1) <;> simp
    · cases r.reverse.find? fun e' => decide (e'.1 = k) <;> simp [h, Ne.symm h]

/-- If no key stands twice, the order of the entries is of no account. -/
theorem get?_ofList_eq_some_iff {l : List (κ × α)} (h : (l.map Prod.fst).Nodup) {k : κ} {v : α} :
    (ofList l).get? k = some v ↔ (k, v) ∈ l := by
  constructor
  · intro hget
    exact Entries.mem_of_mem_ofList (Entries.mem_of_get? hget)
  · intro hm
    obtain ⟨earlier, later, rfl⟩ := List.append_of_mem hm
    rw [List.map_append, List.map_cons, List.nodup_append] at h
    have hlater : later.reverse.find? (fun e => decide (e.1 = k)) = none := by
      rw [List.find?_eq_none]
      intro e he hk
      have hkey : e.1 ∈ later.map Prod.fst := List.mem_map_of_mem (List.mem_reverse.1 he)
      rw [of_decide_eq_true hk] at hkey
      exact (List.nodup_cons.1 h.2.1).1 hkey
    simp [get?_ofList, List.find?_append, hlater]

theorem size_ofList {l : List (κ × α)} (h : (l.map Prod.fst).Nodup) :
    (ofList l).size = l.length := Entries.length_ofList h

/-- If no key stands twice, the order of the list is of no account. -/
theorem ofList_of_perm_nodup {l l' : List (κ × α)} (h : (l.map Prod.fst).Nodup)
    (hp : l.Perm l') : ofList l = ofList l' := by
  have h' : (l'.map Prod.fst).Nodup := (hp.map Prod.fst).nodup_iff.1 h
  apply ext
  intro k
  apply Option.ext
  intro v
  rw [get?_ofList_eq_some_iff h, get?_ofList_eq_some_iff h', hp.mem_iff]

theorem ofList_entries (m : KeyMap κ α) : ofList m.entries = m := by
  cases m with
  | mk l ordered =>
    unfold ofList
    congr
    exact Entries.ofList_of_ordered ordered

theorem nodup_keys (m : KeyMap κ α) : m.keys.Nodup := Entries.nodup_keys m.ordered

theorem get?_map (f : α → β) (m : KeyMap κ α) (k : κ) :
    (m.map f).get? k = (m.get? k).map f := by
  show Entries.get? k (m.entries.map _) = (Entries.get? k m.entries).map f
  generalize m.entries = l
  induction l with
  | nil => rfl
  | cons e r ih =>
    simp only [List.map_cons, Entries.get?]
    split
    · rfl
    · exact ih

end KeyMap

/-! ## Sets of keys -/

/-- A finite set, as a map without values. -/
abbrev KeySet (κ : Type u) [KeyOrder κ] := KeyMap κ Unit

namespace KeySet

def ofList (l : List κ) : KeySet κ := KeyMap.ofList (l.map fun k => (k, ()))

/-- The members in order. -/
def toList (s : KeySet κ) : List κ := s.keys

theorem mem_toList {s : KeySet κ} {k : κ} : k ∈ toList s ↔ s.contains k = true := by
  rw [KeyMap.contains, Option.isSome_iff_exists]
  simp only [← KeyMap.mem_entries_iff]
  simp [toList, KeyMap.keys]

theorem contains_ofList {l : List κ} {k : κ} : (ofList l).contains k = true ↔ k ∈ l := by
  rw [KeyMap.contains, ofList, KeyMap.get?_ofList]
  simp [← List.map_reverse, List.find?_map]

theorem mem_toList_ofList {l : List κ} {k : κ} : k ∈ toList (ofList l) ↔ k ∈ l :=
  mem_toList.trans contains_ofList

/-- A set is known by its members in any order. -/
theorem ofList_of_perm {l : List κ} {s : KeySet κ} (h : l.Perm (toList s)) : ofList l = s := by
  have hentries : (toList s).map (fun k => (k, ())) = s.entries := by
    rw [toList, KeyMap.keys, List.map_map]
    exact List.map_id s.entries
  have hperm : s.entries.Perm (l.map fun k => (k, ())) := by
    rw [← hentries]
    exact (h.map _).symm
  unfold ofList
  rw [← KeyMap.ofList_of_perm_nodup s.nodup_keys hperm, KeyMap.ofList_entries]

end KeySet

end

end Warrant
