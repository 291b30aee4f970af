-- Records are read back. What is written with its known fields is read with
-- all of them, and so are the lists and the numbers in them.
import Warrant.Json.Record
import Warrant.Proofs.Json.Syntax
import Warrant.Proofs.Sequence

namespace Warrant.Json

/-! ## Objects -/

theorem members?_ofFields (fields : List (String × Json)) :
    (ofFields fields).members? = some fields := by
  unfold ofFields members?
  dsimp only
  induction fields with
  | nil => rfl
  | cons f r ih =>
    rw [List.map_cons, List.mapM_cons, ih]
    rfl

/-- A record with known names only is read with all its fields. -/
theorem fields?_ofFields {fields : List (String × Json)} {names : List String}
    (hnodup : names.Nodup) (h : (fields.map Prod.fst).Sublist names) :
    (ofFields fields).fields? names = some fields := by
  have hknown : fields.filter (fun f => names.contains f.1) = fields := by
    rw [List.filter_eq_self]
    intro f hf
    have hname : f.1 ∈ names := h.subset (List.mem_map_of_mem hf)
    simpa using hname
  have hmembers := members?_ofFields fields
  unfold ofFields at hmembers ⊢
  simp only [fields?, hmembers, bind, Option.bind, hknown]
  rw [if_pos (hnodup.sublist h)]

theorem plain_ofFields {fields : List (String × Json)} (h : ∀ f ∈ fields, f.2.Plain) :
    (ofFields fields).Plain := by
  apply Plain.object
  · intro m hm
    obtain ⟨f, _, rfl⟩ := List.mem_map.1 hm
    exact ⟨f.1, rfl⟩
  · intro m hm
    obtain ⟨f, hf, rfl⟩ := List.mem_map.1 hm
    exact h f hf

/-- A field that is there and can be read goes on to the reader of the rest. -/
theorem bind_field {α β : Type} {fields : List (String × Json)} {name : String} {j : Json}
    {value? : Json → Option α} {a : α} (hj : fields.lookup name = some j) (ha : value? j = some a)
    (rest : α → Option β) : (fields.lookup name >>= fun j => value? j >>= rest) = rest a := by
  rw [hj, Option.bind_eq_bind, Option.bind_some, ha, Option.bind_eq_bind, Option.bind_some]

/-- So does a field that may be left out, if it is there. -/
theorem bind_fieldOr {α β : Type} {fields : List (String × Json)} {name : String} {j : Json}
    {value? : Json → Option α} {a : α} (hj : fields.lookup name = some j) (ha : value? j = some a)
    (default : α) (rest : α → Option β) :
    (fieldOr default value? (fields.lookup name) >>= rest) = rest a := by
  rw [hj, fieldOr, ha, Option.bind_eq_bind, Option.bind_some]

/-- What is read from the text of a plain tree is what is read from the tree. -/
theorem bind_read?_write {α : Type} {j : Json} (h : j.Plain) (value? : Json → Option α) :
    (read? j.write.toList >>= value?) = value? j := by
  rw [read?_write h, Option.bind_eq_bind, Option.bind_some]

/-- Each item of a list that may be left out was read. -/
theorem item_of_fieldOr {α : Type} {item? : Json → Option α} {field : Option Json} {as : List α}
    (h : fieldOr [] (list? item?) field = some as) {a : α} (ha : a ∈ as) :
    ∃ j, item? j = some a := by
  cases field with
  | none =>
    cases h
    cases ha
  | some j =>
    obtain ⟨js, _, hjs⟩ := Option.bind_eq_some_iff.1 h
    exact mem_of_mapM hjs ha

/-! ## Texts, lists and numbers -/

theorem text?_text (s : String) : (text s).text? = some s := rfl

theorem texts?_texts (l : List String) : (texts l).texts? = some l := by
  unfold texts? list? texts items?
  simp only [bind, Option.bind]
  induction l with
  | nil => rfl
  | cons s r ih =>
    rw [List.map_cons, List.mapM_cons, ih]
    rfl

theorem plain_texts (l : List String) : (texts l).Plain := by
  apply Plain.array
  intro j hj
  obtain ⟨s, _, rfl⟩ := List.mem_map.1 hj
  exact .text s

theorem int64?_int (n : Int64) : (int n.toInt).int64? = some n := by
  unfold int64? integer? int
  dsimp only
  rw [Numeral.number?_toInt]
  exact Word.signed?_toInt n

theorem int32?_int (n : Int32) : (int n.toInt).int32? = some n := by
  have hlow : -(Word.half : Int) ≤ n.toInt := by
    have hn := n.le_toInt
    unfold Word.half
    omega
  have hhigh : n.toInt < Word.limit := by
    have hn := n.toInt_lt
    unfold Word.limit
    omega
  unfold int32? integer? int
  dsimp only
  rw [Numeral.number?_ofInt hlow hhigh]
  exact Word.short?_toInt n

theorem word?_int (n : UInt64) : (int n.toNat).word? = some n := by
  have hn : n.toNat < Word.limit := n.toNat_lt
  have hnumber : (Numeral.ofInt n.toNat).number? = some (.integer n.toNat) := by
    apply Numeral.number?_ofInt
    · omega
    · omega
  unfold word? integer? int
  dsimp only
  rw [hnumber]
  exact Word.ofNat?_toNat n

end Warrant.Json
