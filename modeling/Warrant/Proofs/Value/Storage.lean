-- Values that are stored and loaded. A map may be written in any order, and the
-- reader finds the same map in each of them. So a value comes back as what its
-- text keeps of it, in whatever order it is written. What was read from a text
-- is kept by the reader, so it stays as it is however often it is stored and
-- loaded.
import Mathlib.Data.List.Nodup
import Mathlib.Data.List.Perm.Basic
import Warrant.Proofs.Json.Storage
import Warrant.Proofs.Value.Reading

namespace Warrant

namespace Value

variable {levels : Nat}

/-! ## Items and entries -/

theorem ofItems?_eq_mapM (js : List Json) : ofItems? levels js = js.mapM (ofJson? levels) := by
  induction js with
  | nil => rfl
  | cons j r ih => rw [ofItems?, ih, List.mapM_cons]

/-- The entry of a member. -/
def member? (levels : Nat) (m : Json.Literal × Json) : Option (String × Value) := do
  let k ← m.1.toOption
  let v ← ofJson? levels m.2
  return (k, v)

theorem ofMembers?_eq_mapM (members : List (Json.Literal × Json)) :
    ofMembers? levels members = members.mapM (member? levels) := by
  induction members with
  | nil => rfl
  | cons m r ih =>
    rw [ofMembers?, ih, List.mapM_cons, member?]
    simp only [bind_assoc, pure_bind]

theorem member?_eq_some_iff {m : Json.Literal × Json} {e : String × Value} :
    member? levels m = some e ↔ m.1 = .ok e.1 ∧ ofJson? levels m.2 = some e.2 := by
  obtain ⟨l, j⟩ := m
  obtain ⟨k, v⟩ := e
  cases l with
  | error stop => simp [member?, Except.toOption]
  | ok s => cases h : ofJson? levels j <;> simp [member?, Except.toOption, h]

theorem keys_of_members {ms : List (Json.Literal × Json)} {entries : List (String × Value)}
    (h : List.Forall₂ (fun m e => member? levels m = some e) ms entries) :
    ms.map Prod.fst = (entries.map Prod.fst).map .ok := by
  induction h with
  | nil => rfl
  | cons hm _ ih => simp [(member?_eq_some_iff.1 hm).1, ih]

/-! ## Equality -/

theorem eq_of_sameItems {as bs : List Value}
    (h : ∀ a ∈ as, ∀ b, a.same b = true → a = b) (hsame : sameItems as bs = true) : as = bs := by
  induction as generalizing bs with
  | nil =>
    cases bs with
    | nil => rfl
    | cons b s => simp [sameItems] at hsame
  | cons a r ih =>
    cases bs with
    | nil => simp [sameItems] at hsame
    | cons b s =>
      rw [sameItems, Bool.and_eq_true] at hsame
      have hhead := h a List.mem_cons_self b hsame.1
      have htail := ih (fun c hc => h c (List.mem_cons_of_mem a hc)) hsame.2
      rw [hhead, htail]

theorem eq_of_sameEntries {as bs : List (String × Value)}
    (h : ∀ e ∈ as, ∀ b, e.2.same b = true → e.2 = b) (hsame : sameEntries as bs = true) :
    as = bs := by
  induction as generalizing bs with
  | nil =>
    cases bs with
    | nil => rfl
    | cons b s => simp [sameEntries] at hsame
  | cons e r ih =>
    cases bs with
    | nil => simp [sameEntries] at hsame
    | cons f s =>
      obtain ⟨k, a⟩ := e
      obtain ⟨l, b⟩ := f
      simp only [sameEntries, Bool.and_eq_true, beq_iff_eq] at hsame
      obtain ⟨⟨rfl, hvalue⟩, hrest⟩ := hsame
      have hhead : a = b := h (k, a) List.mem_cons_self b hvalue
      have htail := ih (fun e he => h e (List.mem_cons_of_mem (k, a) he)) hrest
      rw [hhead, htail]

/-- Without floating point numbers, values are the same only if they are equal. -/
theorem eq_of_same {v w : Value} (hfloats : ∀ x, ¬Part (.float x) v) (h : v.same w = true) :
    v = w := by
  induction v using onParts generalizing w with
  | float x => exact absurd (.self _) (hfloats x)
  | list items ih =>
    cases w with
    | list others =>
      congr
      apply eq_of_sameItems _ h
      intro v hv w
      exact ih v hv fun x hx => hfloats x (.item hv hx)
    | _ => simp [same] at h
  | map entries ih =>
    cases w with
    | map others =>
      congr
      apply eq_of_sameEntries _ h
      intro e he w
      exact ih e he fun x hx => hfloats x (.entry he hx)
    | _ => simp [same] at h
  | _ =>
    cases w with
    | _ => simp_all [same]

/-! ## Trees in any order -/

/-- The members of an object may stand in any order. -/
theorem ofMembers?_of_perm {ms ns : List (Json.Literal × Json)} (hnodup : (ms.map Prod.fst).Nodup)
    (hperm : ms.Perm ns) {entries : List (String × Value)}
    (h : ofMembers? levels ms = some entries) :
    ∃ own, ofMembers? levels ns = some own ∧ Entries.ofList own = Entries.ofList entries := by
  rw [ofMembers?_eq_mapM, mapM_eq_some_iff] at h
  obtain ⟨own, hown, hsame⟩ := List.perm_comp_forall₂ hperm.symm h
  have hkeys : (entries.map Prod.fst).Nodup := by
    rw [keys_of_members h] at hnodup
    exact List.Nodup.of_map _ hnodup
  refine ⟨own, ?_, ?_⟩
  · rw [ofMembers?_eq_mapM, mapM_eq_some_iff]
    exact hown
  · exact congrArg KeyMap.entries (KeyMap.ofList_of_perm_nodup hkeys hsame.symm).symm

theorem ofJson?_of_reordered {j k : Json} (h : j.Reordered k) {v : Value}
    (hj : ofJson? levels j = some v) : ofJson? levels k = some v := by
  -- An array or an object takes a level, so what is below it is read with other levels.
  induction h generalizing levels v with
  | refl _ => exact hj
  | trans _ _ ih ih' => exact ih' (ih hj)
  | members hnodup hperm =>
    cases levels with
    | zero => cases hj
    | succ n =>
      obtain ⟨entries, hentries, rfl⟩ := Option.map_eq_some_iff.1 hj
      obtain ⟨own, hown, hsame⟩ := ofMembers?_of_perm hnodup hperm hentries
      rw [ofJson?, hown, Option.map_some, hsame]
  | item before after _ ih =>
    cases levels with
    | zero => cases hj
    | succ n =>
      obtain ⟨items, hitems, rfl⟩ := Option.map_eq_some_iff.1 hj
      rw [ofItems?_eq_mapM, mapM_eq_some_iff] at hitems
      have hreplaced := mapM_eq_some_iff.2 (forall₂_replace (fun _ h => ih h) hitems)
      rw [ofJson?, ofItems?_eq_mapM, hreplaced, Option.map_some]
  | @member a b key before after _ ih =>
    cases levels with
    | zero => cases hj
    | succ n =>
      obtain ⟨entries, hentries, rfl⟩ := Option.map_eq_some_iff.1 hj
      rw [ofMembers?_eq_mapM, mapM_eq_some_iff] at hentries
      have hmember : ∀ e, member? n (key, a) = some e → member? n (key, b) = some e := by
        intro e he
        rw [member?_eq_some_iff] at he ⊢
        exact ⟨he.1, ih he.2⟩
      have hreplaced := mapM_eq_some_iff.2 (forall₂_replace hmember hentries)
      rw [ofJson?, ofMembers?_eq_mapM, hreplaced, Option.map_some]

/-! ## Stored values -/

/-- A tree that the value is stored as, with its maps in any order. -/
def Form (v : Value) (j : Json) : Prop := v.toJson.Reordered j

/-- The reader finds in each form what is kept of the value. -/
theorem keeps_norm {v : Value} (h : Writable v) (hdepth : v.depth ≤ levels) {j : Json}
    (hj : v.Form j) : Json.Keeps (ofJson? levels) v.norm j where
  plain := hj.plain (plain_toJson h)
  found := ofJson?_of_reordered hj (ofJson?_toJson h hdepth)

theorem keeps_form {v : Value} (h : Faithful v) (hdepth : v.depth ≤ levels) {j : Json}
    (hj : v.Form j) : Json.Keeps (ofJson? levels) v j := by
  have hkeeps := keeps_norm h.writable hdepth hj
  rwa [h.norm_eq] at hkeeps

/-- A value that keeps its kinds is read from each of its forms. -/
theorem read?_form {v : Value} (h : Faithful v) (hdepth : v.depth ≤ maxLevels) {j : Json}
    (hj : v.Form j) : read? j.write = some v :=
  (keeps_form h hdepth hj).read_write

/-- The text of a value is read back as what is kept of the value, in whatever
order its maps are written: a number that is not finite comes back as null, and a
text that reads as an instant comes back as the instant. That is all that is
lost, and it is lost at once. -/
theorem a_written_value_reads_back_as_its_norm (v : Value) (h : Writable v) (hdepth : v.depth ≤ 127) :
    v.Form v.toJson ∧ (∀ j, v.Form j → read? j.write = some v.norm) ∧ v.norm.norm = v.norm ∧
      ∀ j, v.Form j → (read? j.write = some v ↔
        (∀ x, Part (.float x) v → x.isFinite = true) ∧
          ∀ s, Part (.text s) v → Instant.read? s = none) := by
  have hread : ∀ j, v.Form j → read? j.write = some v.norm := by
    intro j hj
    exact (keeps_norm h hdepth hj).read_write
  refine ⟨.refl _, hread, norm_norm v, ?_⟩
  intro j hj
  rw [hread j hj, Option.some_inj]
  exact norm_eq_self_iff v

/-- A note with an instant in a text, and a rate that is no number. -/
def note : Value :=
  .map [("due", .text "2024-01-15T10:30:00Z"), ("rate", .float ⟨0x7FF8000000000000⟩),
    ("tags", .list [.int (-3), .text "later"])]

theorem writable_note : Writable note := by
  constructor
  · intro entries h
    obtain rfl : entries = _ := by
      simpa [note, part_leaf_iff] using h
    unfold Entries.Ordered
    decide
  · intro t h
    simp [note, part_leaf_iff] at h
  · intro x h
    obtain rfl : x = ⟨0x7FF8000000000000⟩ := by
      simpa [note, part_leaf_iff] using h
    decide

/-- The same note with its members the other way round. -/
def noteBackwards : Json :=
  .ofFields [("tags", .array [.int (-3), .text "later"]), ("rate", .null),
    ("due", .text "2024-01-15T10:30:00Z")]

theorem form_noteBackwards : note.Form noteBackwards := by
  apply Json.Reordered.members
  · decide
  · exact (List.reverse_perm _).symm

theorem a_note_reads_back_with_its_instant :
    Writable note ∧ note.depth ≤ 127 ∧ ∀ j ∈ [note.toJson, noteBackwards],
      note.Form j ∧ read? j.write = some (.map [("due", .time ⟨1705314600, 0⟩), ("rate", .null),
        ("tags", .list [.int (-3), .text "later"])]) := by
  have hdepth : note.depth ≤ 127 := by decide +kernel
  obtain ⟨hform, hread, _⟩ := a_written_value_reads_back_as_its_norm note writable_note hdepth
  refine ⟨writable_note, hdepth, ?_⟩
  simp only [List.forall_mem_cons]
  exact ⟨⟨hform, hread _ hform⟩, ⟨form_noteBackwards, hread _ form_noteBackwards⟩, by simp⟩

/-! ## Loaded values -/

theorem texts_of_read? {text : String} {v : Value} (h : read? text = some v) (s : String)
    (hs : Part (.text s) v) : Instant.read? s = none := by
  obtain ⟨j, _, hj⟩ := Option.bind_eq_some_iff.1 h
  exact texts_of_ofJson? hj s hs

/-- A value that was read stays as it is. -/
theorem stable_of_read? {text : String} {v : Value} (h : read? text = some v)
    (hfloats : ∀ x, ¬Part (.float x) v) : Json.Stable Form read? v := by
  obtain ⟨j, _, hj⟩ := Option.bind_eq_some_iff.1 h
  apply Json.stable_of_read
  intro k hk
  exact read?_form (faithful_of_ofJson? hj hfloats) (depth_le_of_ofJson? hj) hk

theorem ofNumber_ne_ofMap (n : Json.Number) (m : Attributes) : ofNumber n ≠ .ofMap m := by
  unfold ofNumber ofMap
  split
  · split
    · simp
    · simp
  · simp

theorem ofString_ne_ofMap (s : String) (m : Attributes) : ofString s ≠ .ofMap m := by
  unfold ofString ofMap
  split
  · simp
  · simp

/-- Only an object is read as a map. -/
theorem attributes?_of_ofJson? {j : Json} {m : Attributes}
    (h : ofJson? (levels + 1) j = some (.ofMap m)) : attributes? (levels + 1) j = some m := by
  cases j with
  | object members =>
    obtain ⟨entries, hentries, hmap⟩ := Option.map_eq_some_iff.1 h
    rw [attributes?, Nat.add_sub_cancel, hentries, Option.map_some]
    cases m with
    | mk own ordered =>
      cases hmap
      rfl
  | number n =>
    obtain ⟨x, _, hx⟩ := Option.map_eq_some_iff.1 h
    exact absurd hx (ofNumber_ne_ofMap x m)
  | string l =>
    obtain ⟨s, _, hs⟩ := Option.map_eq_some_iff.1 h
    exact absurd hs (ofString_ne_ofMap s m)
  | array js =>
    obtain ⟨items, _, hlist⟩ := Option.map_eq_some_iff.1 h
    cases hlist
  | _ => cases h

/-- Attributes are read as a map is. -/
theorem readAttributes?_eq_some_iff {text : String} {m : Attributes} :
    readAttributes? text = some m ↔ read? text = some (.ofMap m) := by
  constructor
  · intro h
    obtain ⟨j, hj, hm⟩ := Option.bind_eq_some_iff.1 h
    unfold read?
    rw [hj]
    exact ofJson?_of_attributes? hm
  · intro h
    obtain ⟨j, hj, hm⟩ := Option.bind_eq_some_iff.1 h
    unfold readAttributes?
    rw [hj]
    exact attributes?_of_ofJson? hm

/-- A tree that attributes are stored as. -/
def AttributesForm (m : Attributes) (j : Json) : Prop := (attributesJson m).Reordered j

theorem keeps_attributesForm {m : Attributes} (h : Faithful (.ofMap m))
    (hdepth : (ofMap m).depth ≤ levels + 1) {j : Json} (hj : AttributesForm m j) :
    Json.Keeps (attributes? (levels + 1)) m j := by
  have hkeeps : Json.Keeps (ofJson? (levels + 1)) (.ofMap m) j := keeps_form h hdepth hj
  exact ⟨hkeeps.plain, attributes?_of_ofJson? hkeeps.found⟩

theorem stable_of_readAttributes? {text : String} {m : Attributes}
    (h : readAttributes? text = some m) (hfloats : ∀ x, ¬Part (.float x) (.ofMap m)) :
    Json.Stable AttributesForm readAttributes? m := by
  have hstable := stable_of_read? (readAttributes?_eq_some_iff.1 h) hfloats
  apply Json.stable_of_read
  intro j hj
  exact readAttributes?_eq_some_iff.2 (hstable.read j hj)

end Value

end Warrant
