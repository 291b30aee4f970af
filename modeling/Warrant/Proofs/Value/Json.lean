-- What the JSON text of a value keeps. The text has no tags, so a string that
-- reads as an instant comes back as one, and a number that is not finite
-- comes back as null. All else comes back as it was.
--
-- Finite floating point numbers are left out: their text is that of a number
-- near them, and the words here say nothing about it.
import Warrant.Proofs.Instant.Text
import Warrant.Proofs.Json.Syntax
import Warrant.Value.Json

namespace Warrant.Value

/-! ## The parts of a value -/

/-- The first value is the second one, or stands in it, however deep. -/
inductive Part : Value → Value → Prop
  | self (v : Value) : Part v v
  | item {w v : Value} {items : List Value} : v ∈ items → Part w v → Part w (.list items)
  | entry {w : Value} {e : String × Value} {entries : List (String × Value)} :
      e ∈ entries → Part w e.2 → Part w (.map entries)

@[simp] theorem part_list_iff {w : Value} {items : List Value} :
    Part w (.list items) ↔ w = .list items ∨ ∃ v ∈ items, Part w v := by
  constructor
  · intro h
    cases h with
    | self => exact .inl rfl
    | item hv h => exact .inr ⟨_, hv, h⟩
  · rintro (rfl | ⟨v, hv, h⟩)
    · exact .self _
    · exact .item hv h

@[simp] theorem part_map_iff {w : Value} {entries : List (String × Value)} :
    Part w (.map entries) ↔ w = .map entries ∨ ∃ e ∈ entries, Part w e.2 := by
  constructor
  · intro h
    cases h with
    | self => exact .inl rfl
    | entry he h => exact .inr ⟨_, he, h⟩
  · rintro (rfl | ⟨e, he, h⟩)
    · exact .self _
    · exact .entry he h

/-- A text or a number is its only part. -/
theorem part_leaf_iff {w v : Value} (hlist : ∀ items, v ≠ .list items)
    (hmap : ∀ entries, v ≠ .map entries) : Part w v ↔ w = v := by
  constructor
  · intro h
    cases h with
    | self => rfl
    | item _ _ => exact absurd rfl (hlist _)
    | entry _ _ => exact absurd rfl (hmap _)
  · rintro rfl
    exact .self _

/-- What holds of a list if it holds of its items, and of a map if it holds of
its values, holds of every value. -/
@[elab_as_elim]
theorem onParts {motive : Value → Prop} (null : motive .null) (bool : ∀ b, motive (.bool b))
    (int : ∀ n, motive (.int n)) (float : ∀ x, motive (.float x)) (time : ∀ t, motive (.time t))
    (text : ∀ s, motive (.text s))
    (list : ∀ items, (∀ v ∈ items, motive v) → motive (.list items))
    (map : ∀ entries, (∀ e ∈ entries, motive e.2) → motive (.map entries)) (v : Value) :
    motive v := by
  apply @Value.rec motive (fun items => ∀ v ∈ items, motive v)
    (fun entries => ∀ e ∈ entries, motive e.2) (fun e => motive e.2) null bool int float time text
    list map
  · intro v hv
    cases hv
  · intro v items hv hitems w hw
    rcases List.mem_cons.1 hw with rfl | hw
    · exact hv
    · exact hitems w hw
  · intro e he
    cases he
  · intro e entries he hentries e' he'
    rcases List.mem_cons.1 he' with rfl | he'
    · exact he
    · exact hentries e' he'
  · intro k v hv
    exact hv

mutual

/-- How deep lists and maps stand in each other. -/
def depth : Value → Nat
  | .list items => depthOfItems items + 1
  | .map entries => depthOfEntries entries + 1
  | _ => 0

def depthOfItems : List Value → Nat
  | [] => 0
  | v :: r => max v.depth (depthOfItems r)

def depthOfEntries : List (String × Value) → Nat
  | [] => 0
  | (_, v) :: r => max v.depth (depthOfEntries r)

end

theorem depth_le_depthOfItems {v : Value} {items : List Value} (h : v ∈ items) :
    v.depth ≤ depthOfItems items := by
  induction items with
  | nil => cases h
  | cons w r ih =>
    rw [depthOfItems]
    rcases List.mem_cons.1 h with rfl | h
    · exact Nat.le_max_left _ _
    · exact Nat.le_trans (ih h) (Nat.le_max_right _ _)

theorem depth_le_depthOfEntries {e : String × Value} {entries : List (String × Value)}
    (h : e ∈ entries) : e.2.depth ≤ depthOfEntries entries := by
  induction entries with
  | nil => cases h
  | cons w r ih =>
    rw [depthOfEntries]
    rcases List.mem_cons.1 h with rfl | h
    · exact Nat.le_max_left _ _
    · exact Nat.le_trans (ih h) (Nat.le_max_right _ _)

/-! ## What is kept -/

mutual

/-- The value that comes back: null for a number that is not finite, and an
instant for a text that reads as one. -/
def norm : Value → Value
  | .null => .null
  | .bool b => .bool b
  | .int n => .int n
  | .float x => if x.isFinite then .float x else .null
  | .time t => .time t
  | .text s => ofString s
  | .list items => .list (normItems items)
  | .map entries => .map (normEntries entries)

def normItems : List Value → List Value
  | [] => []
  | v :: r => v.norm :: normItems r

def normEntries : List (String × Value) → List (String × Value)
  | [] => []
  | (k, v) :: r => (k, v.norm) :: normEntries r

end

theorem normItems_eq_map (items : List Value) : normItems items = items.map norm := by
  induction items with
  | nil => rfl
  | cons v r ih => rw [normItems, ih, List.map_cons]

theorem normEntries_eq_map (entries : List (String × Value)) :
    normEntries entries = entries.map fun e => (e.1, e.2.norm) := by
  induction entries with
  | nil => rfl
  | cons e r ih => rw [normEntries, ih, List.map_cons]

theorem ofString_of_read? {s : String} {t : Instant} (h : Instant.read? s = some t) :
    ofString s = .time t := by
  rw [ofString, h]

theorem ofString_of_none {s : String} (h : Instant.read? s = none) : ofString s = .text s := by
  rw [ofString, h]

/-- A value that came back once comes back again as it is. -/
theorem norm_norm (v : Value) : v.norm.norm = v.norm := by
  induction v using onParts with
  | null => rfl
  | bool b => rfl
  | int n => rfl
  | float x =>
    rw [norm]
    split
    · rename_i h
      rw [norm, if_pos h]
    · rfl
  | time t => rfl
  | text s =>
    rw [norm]
    cases h : Instant.read? s with
    | none => rw [ofString_of_none h, norm, ofString_of_none h]
    | some t => rw [ofString_of_read? h, norm]
  | list items ih =>
    simp only [norm, normItems_eq_map, List.map_map, Function.comp_def]
    rw [List.map_congr_left ih]
  | map entries ih =>
    simp only [norm, normEntries_eq_map, List.map_map, Function.comp_def]
    rw [List.map_congr_left]
    intro e he
    rw [ih e he]

theorem map_eq_self_iff {α : Type} {f : α → α} {l : List α} :
    l.map f = l ↔ ∀ a ∈ l, f a = a := by
  simpa using List.map_inj_left (f := f) (g := id)

/-- What the reader does not take for something else. A list or a map stands
for itself, whatever it holds. -/
def Steady : Value → Prop
  | .float x => x.isFinite = true
  | .text s => Instant.read? s = none
  | _ => True

theorem norm_float_eq_iff (x : Binary64) : (float x).norm = .float x ↔ x.isFinite = true := by
  rw [norm]
  by_cases h : x.isFinite = true
  · simp [h]
  · simp [h]

theorem norm_text_eq_iff (s : String) : (text s).norm = .text s ↔ Instant.read? s = none := by
  rw [norm]
  cases h : Instant.read? s with
  | none => simp [ofString_of_none h]
  | some t => simp [ofString_of_read? h]

theorem forall_part_leaf {v : Value} (hlist : ∀ items, v ≠ .list items)
    (hmap : ∀ entries, v ≠ .map entries) : (∀ w, Part w v → w.Steady) ↔ v.Steady := by
  simp only [part_leaf_iff hlist hmap, forall_eq]

/-- A value is kept if all its parts are steady. -/
theorem norm_eq_self_iff_steady (v : Value) : v.norm = v ↔ ∀ w, Part w v → w.Steady := by
  induction v using onParts with
  | null =>
    rw [forall_part_leaf (by simp) (by simp)]
    simp [norm, Steady]
  | bool b =>
    rw [forall_part_leaf (by simp) (by simp)]
    simp [norm, Steady]
  | int n =>
    rw [forall_part_leaf (by simp) (by simp)]
    simp [norm, Steady]
  | float x =>
    rw [forall_part_leaf (by simp) (by simp)]
    exact norm_float_eq_iff x
  | time t =>
    rw [forall_part_leaf (by simp) (by simp)]
    simp [norm, Steady]
  | text s =>
    rw [forall_part_leaf (by simp) (by simp)]
    exact norm_text_eq_iff s
  | list items ih =>
    rw [norm, normItems_eq_map, list.injEq, map_eq_self_iff]
    constructor
    · intro h w hw
      rcases part_list_iff.1 hw with rfl | ⟨v, hv, hw⟩
      · trivial
      · exact (ih v hv).1 (h v hv) w hw
    · intro h v hv
      apply (ih v hv).2
      intro w hw
      exact h w (.item hv hw)
  | map entries ih =>
    rw [norm, normEntries_eq_map, map.injEq, map_eq_self_iff]
    constructor
    · intro h w hw
      rcases part_map_iff.1 hw with rfl | ⟨e, he, hw⟩
      · trivial
      · exact (ih e he).1 (congrArg Prod.snd (h e he)) w hw
    · intro h e he
      have hnorm : e.2.norm = e.2 := by
        apply (ih e he).2
        intro w hw
        exact h w (.entry he hw)
      rw [hnorm]

/-- A value is kept if all its numbers are finite, and none of its texts reads
as an instant. -/
theorem norm_eq_self_iff (v : Value) :
    v.norm = v ↔ (∀ x, Part (.float x) v → x.isFinite = true) ∧
      ∀ s, Part (.text s) v → Instant.read? s = none := by
  rw [norm_eq_self_iff_steady]
  constructor
  · intro h
    constructor
    · intro x hx
      exact h _ hx
    · intro s hs
      exact h _ hs
  · rintro ⟨hfloats, htexts⟩ w hw
    cases w with
    | float x => exact hfloats x hw
    | text s => exact htexts s hw
    | _ => trivial

/-! ## Writing and reading -/

/-- What has an exact text: each map has each of its keys once, each instant a
date, and no number is a finite floating point number. -/
structure Writable (v : Value) : Prop where
  maps : ∀ entries, Part (.map entries) v → Entries.Ordered entries
  times : ∀ t, Part (.time t) v → t.InCalendar
  floats : ∀ x, Part (.float x) v → x.isFinite = false

theorem Writable.item {v : Value} {items : List Value} (h : Writable (.list items))
    (hv : v ∈ items) : Writable v where
  maps entries hw := h.maps entries (.item hv hw)
  times t hw := h.times t (.item hv hw)
  floats x hw := h.floats x (.item hv hw)

theorem Writable.entry {e : String × Value} {entries : List (String × Value)}
    (h : Writable (.map entries)) (he : e ∈ entries) : Writable e.2 where
  maps entries hw := h.maps entries (.entry he hw)
  times t hw := h.times t (.entry he hw)
  floats x hw := h.floats x (.entry he hw)

theorem itemsJson_eq_map (items : List Value) : itemsJson items = items.map toJson := by
  induction items with
  | nil => rfl
  | cons v r ih => rw [itemsJson, ih, List.map_cons]

theorem entriesJson_eq_map (entries : List (String × Value)) :
    entriesJson entries = entries.map fun e => (.ok e.1, e.2.toJson) := by
  induction entries with
  | nil => rfl
  | cons e r ih => rw [entriesJson, ih, List.map_cons]

/-- The tree of a value holds texts and integers only. -/
theorem plain_toJson {v : Value} (h : Writable v) : v.toJson.Plain := by
  induction v using onParts with
  | null => exact .null
  | bool b => exact .bool b
  | int n => exact .int n.toInt
  | float x =>
    have hx := h.floats x (.self _)
    rw [toJson, floatJson, hx]
    exact .null
  | time t => exact .text t.write
  | text s => exact .text s
  | list items ih =>
    rw [toJson, itemsJson_eq_map]
    apply Json.Plain.array
    intro j hj
    obtain ⟨v, hv, rfl⟩ := List.mem_map.1 hj
    exact ih v hv (h.item hv)
  | map entries ih =>
    rw [toJson, entriesJson_eq_map]
    apply Json.Plain.object
    · intro m hm
      obtain ⟨e, _, rfl⟩ := List.mem_map.1 hm
      exact ⟨e.1, rfl⟩
    · intro m hm
      obtain ⟨e, he, rfl⟩ := List.mem_map.1 hm
      exact ih e he (h.entry he)

theorem ofNumber_toInt (n : Int64) : ofNumber (.integer n.toInt) = .int n := by
  rw [ofNumber, Word.signed?_toInt]

theorem ofItems?_map {levels : Nat} {items : List Value}
    (h : ∀ v ∈ items, ofJson? levels v.toJson = some v.norm) :
    ofItems? levels (itemsJson items) = some (normItems items) := by
  induction items with
  | nil => rfl
  | cons v r ih =>
    have hr : ofItems? levels (itemsJson r) = some (normItems r) := by
      apply ih
      intro w hw
      exact h w (List.mem_cons_of_mem v hw)
    rw [itemsJson, ofItems?, h v List.mem_cons_self, hr]
    rfl

theorem ofMembers?_map {levels : Nat} {entries : List (String × Value)}
    (h : ∀ e ∈ entries, ofJson? levels e.2.toJson = some e.2.norm) :
    ofMembers? levels (entriesJson entries) = some (normEntries entries) := by
  induction entries with
  | nil => rfl
  | cons e r ih =>
    obtain ⟨k, v⟩ := e
    have hv : ofJson? levels v.toJson = some v.norm := h (k, v) List.mem_cons_self
    have hr : ofMembers? levels (entriesJson r) = some (normEntries r) := by
      apply ih
      intro e he
      exact h e (List.mem_cons_of_mem _ he)
    rw [entriesJson, ofMembers?, hv, hr]
    rfl

theorem ordered_normEntries {entries : List (String × Value)} (h : Entries.Ordered entries) :
    Entries.Ordered (normEntries entries) := by
  rw [normEntries_eq_map, Entries.Ordered, List.pairwise_map]
  exact h

/-- The tree of a value has the value that comes back, if there are levels
enough. -/
theorem ofJson?_toJson {v : Value} (h : Writable v) {levels : Nat} (hdepth : v.depth ≤ levels) :
    ofJson? levels v.toJson = some v.norm := by
  induction v using onParts generalizing levels with
  | null => rw [toJson, ofJson?, norm]
  | bool b => rw [toJson, ofJson?, norm]
  | int n =>
    rw [toJson, Json.int, ofJson?, Json.Numeral.number?_toInt, Option.map_some, ofNumber_toInt, norm]
  | float x =>
    have hx := h.floats x (.self _)
    rw [toJson, floatJson, norm, hx]
    rfl
  | time t =>
    have ht := Instant.read?_write (h.times t (.self _))
    rw [toJson, Json.text, ofJson?, norm]
    exact congrArg some (ofString_of_read? ht)
  | text s =>
    rw [toJson, Json.text, ofJson?, norm]
    rfl
  | list items ih =>
    rw [depth] at hdepth
    obtain ⟨n, rfl⟩ : ∃ n, levels = n + 1 := ⟨levels - 1, by omega⟩
    have hitems : ofItems? n (itemsJson items) = some (normItems items) := by
      apply ofItems?_map
      intro v hv
      have hle := depth_le_depthOfItems hv
      exact ih v hv (h.item hv) (by omega)
    rw [toJson, ofJson?, hitems, norm]
    rfl
  | map entries ih =>
    rw [depth] at hdepth
    obtain ⟨n, rfl⟩ : ∃ n, levels = n + 1 := ⟨levels - 1, by omega⟩
    have hmembers : ofMembers? n (entriesJson entries) = some (normEntries entries) := by
      apply ofMembers?_map
      intro e he
      have hle := depth_le_depthOfEntries he
      exact ih e he (h.entry he) (by omega)
    have hordered := ordered_normEntries (h.maps entries (.self _))
    rw [toJson, ofJson?, hmembers, norm, Option.map_some, Entries.ofList_of_ordered hordered]

/-- What comes back as it was. It has no floating point number at all, and none
of its texts reads as an instant. -/
structure Faithful (v : Value) : Prop where
  maps : ∀ entries, Part (.map entries) v → Entries.Ordered entries
  times : ∀ t, Part (.time t) v → t.InCalendar
  floats : ∀ x, ¬Part (.float x) v
  texts : ∀ s, Part (.text s) v → Instant.read? s = none

theorem Faithful.writable {v : Value} (h : Faithful v) : Writable v where
  maps := h.maps
  times := h.times
  floats x hx := absurd hx (h.floats x)

theorem Faithful.norm_eq {v : Value} (h : Faithful v) : v.norm = v := by
  rw [norm_eq_self_iff]
  constructor
  · intro x hx
    exact absurd hx (h.floats x)
  · exact h.texts

/-- What such a value is like by itself, whatever its parts are. -/
def Exact : Value → Prop
  | .map entries => Entries.Ordered entries
  | .time t => t.InCalendar
  | .float _ => False
  | .text s => Instant.read? s = none
  | _ => True

theorem faithful_iff {v : Value} : Faithful v ↔ ∀ w, Part w v → w.Exact := by
  constructor
  · intro h w hw
    cases w with
    | map entries => exact h.maps entries hw
    | time t => exact h.times t hw
    | float x => exact h.floats x hw
    | text s => exact h.texts s hw
    | _ => trivial
  · intro h
    exact ⟨fun _ => h _, fun _ => h _, fun _ => h _, fun _ => h _⟩

/-- A list is faithful item by item. -/
theorem faithful_list {items : List Value} (h : ∀ v ∈ items, Faithful v) :
    Faithful (.list items) := by
  rw [faithful_iff]
  intro w hw
  rcases part_list_iff.1 hw with rfl | ⟨v, hv, hw⟩
  · trivial
  · exact faithful_iff.1 (h v hv) w hw

/-- And so is a map in key order. -/
theorem faithful_map {entries : List (String × Value)} (hordered : Entries.Ordered entries)
    (h : ∀ e ∈ entries, Faithful e.2) : Faithful (.map entries) := by
  rw [faithful_iff]
  intro w hw
  rcases part_map_iff.1 hw with rfl | ⟨e, he, hw⟩
  · exact hordered
  · exact faithful_iff.1 (h e he) w hw

theorem faithful_leaf {v : Value} (hlist : ∀ items, v ≠ .list items)
    (hmap : ∀ entries, v ≠ .map entries) (h : v.Exact) : Faithful v := by
  rw [faithful_iff]
  intro w hw
  rw [(part_leaf_iff hlist hmap).1 hw]
  exact h

theorem faithful_int (n : Int64) : Faithful (.int n) := faithful_leaf (by simp) (by simp) trivial

theorem faithful_time {t : Instant} (h : t.InCalendar) : Faithful (.time t) :=
  faithful_leaf (by simp) (by simp) h

theorem faithful_text {s : String} (h : Instant.read? s = none) : Faithful (.text s) :=
  faithful_leaf (by simp) (by simp) h

theorem faithful_empty : Faithful (.ofMap .empty) := by
  apply faithful_map KeyMap.empty.ordered
  intro e he
  cases he

end Warrant.Value
