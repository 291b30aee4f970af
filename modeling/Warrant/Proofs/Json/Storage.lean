-- Records that are stored as texts and loaded again. A map has no order of its
-- own, so a writer may put the members of an object in any order, and do it
-- another way each time. A key stands once in each object that it writes.
import Mathlib.Logic.Relation
import Warrant.Proofs.Json.Record

namespace Warrant.Json

/-! ## Order of members -/

/-- The same tree up to the order of members, however deep. The members of an
object may change places if no key stands twice. -/
inductive Reordered : Json → Json → Prop
  | refl (j : Json) : Reordered j j
  | trans {a b c : Json} : Reordered a b → Reordered b c → Reordered a c
  | members {ms ns : List (Literal × Json)} : (ms.map Prod.fst).Nodup → ms.Perm ns →
      Reordered (.object ms) (.object ns)
  | item {a b : Json} (before after : List Json) : Reordered a b →
      Reordered (.array (before ++ a :: after)) (.array (before ++ b :: after))
  | member {a b : Json} (key : Literal) (before after : List (Literal × Json)) : Reordered a b →
      Reordered (.object (before ++ (key, a) :: after)) (.object (before ++ (key, b) :: after))

namespace Reordered

variable {a b : Json}

theorem symm (h : Reordered a b) : Reordered b a := by
  induction h with
  | refl j => exact .refl j
  | trans _ _ ih ih' => exact .trans ih' ih
  | members hnodup hperm =>
    exact .members ((hperm.map Prod.fst).nodup_iff.1 hnodup) hperm.symm
  | item before after _ ih => exact .item before after ih
  | member key before after _ ih => exact .member key before after ih

/-- A plain tree is plain in any order. -/
theorem plain (h : Reordered a b) (hplain : a.Plain) : b.Plain := by
  induction h with
  | refl _ => exact hplain
  | trans _ _ ih ih' => exact ih' (ih hplain)
  | members _ hperm =>
    cases hplain with
    | object hkeys hvalues =>
      apply Plain.object
      · intro m hm
        exact hkeys m (hperm.mem_iff.2 hm)
      · intro m hm
        exact hvalues m (hperm.mem_iff.2 hm)
  | item before after _ ih =>
    cases hplain with
    | array hitems =>
      apply Plain.array
      simp only [List.forall_mem_append, List.forall_mem_cons] at hitems ⊢
      exact ⟨hitems.1, ih hitems.2.1, hitems.2.2⟩
  | member key before after _ ih =>
    cases hplain with
    | object hkeys hvalues =>
      simp only [List.forall_mem_append, List.forall_mem_cons] at hkeys hvalues
      apply Plain.object
      · simp only [List.forall_mem_append, List.forall_mem_cons]
        exact hkeys
      · simp only [List.forall_mem_append, List.forall_mem_cons]
        exact ⟨hvalues.1, ih hvalues.2.1, hvalues.2.2⟩

end Reordered

/-! ## Storing and loading -/

section

variable {α : Type} {value? : Json → Option α} {Form : α → Json → Prop} {read? : String → Option α}
  {a b : α}

/-- The tree can be written, and the reader finds the record in it. -/
structure Keeps (value? : Json → Option α) (a : α) (j : Json) : Prop where
  plain : j.Plain
  found : value? j = some a

theorem Keeps.read_write {j : Json} (h : Keeps value? a j) :
    (Json.read? j.write.toList >>= value?) = some a := by
  rw [bind_read?_write h.plain, h.found]

/-- A list is kept item by item. -/
theorem keeps_array {as : List α} {js : List Json} (hforms : List.Forall₂ Form as js)
    (h : ∀ a ∈ as, ∀ j, Form a j → Keeps value? a j) : Keeps (list? value?) as (.array js) := by
  have hall : List.Forall₂ (Keeps value?) as js := by
    have hboth := (List.forall₂_and_left as js).2 ⟨h, hforms⟩
    exact hboth.imp fun a j hj => hj.1 j hj.2
  clear h hforms
  constructor
  · apply Plain.array
    induction hall with
    | nil => simp
    | cons hj _ ih => exact List.forall_mem_cons.2 ⟨hj.plain, ih⟩
  · show js.mapM value? = some as
    rw [mapM_eq_some_iff]
    exact hall.flip.imp fun _ _ hj => hj.found

/-- The first record is stored in one of its forms, and the second one is loaded
from this text. -/
def Reloads (Form : α → Json → Prop) (read? : String → Option α) (a b : α) : Prop :=
  ∃ j, Form a j ∧ read? j.write = some b

/-- Each form of the record is read as the record, so the record stays as it is,
however often it is stored and loaded. -/
structure Stable (Form : α → Json → Prop) (read? : String → Option α) (a : α) : Prop where
  read : ∀ j, Form a j → read? j.write = some a
  steady : ∀ b, Relation.ReflTransGen (Reloads Form read?) a b → b = a

theorem stable_of_read (h : ∀ j, Form a j → read? j.write = some a) : Stable Form read? a where
  read := h
  steady b hab := by
    induction hab with
    | refl => rfl
    | tail _ hlast ih =>
      obtain ⟨j, hform, hread⟩ := hlast
      rw [ih] at hform
      exact Option.some.inj (hread.symm.trans (h j hform))

end

end Warrant.Json
