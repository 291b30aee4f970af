-- What a JSON tree must look like to be a record, a list or a scalar. A
-- record is an object with known names, or an array of its fields in
-- order. An object may have other members, and they may hold anything; a
-- known name stands once.
import Warrant.Json.Syntax

namespace Warrant.Json

def text? : Json → Option String
  | .string s => s.toOption
  | _ => none

def items? : Json → Option (List Json)
  | .array items => some items
  | _ => none

/-- A list of which the reader knows each item. -/
def list? {α : Type} (item? : Json → Option α) (j : Json) : Option (List α) := do
  (← j.items?).mapM item?

def texts? (j : Json) : Option (List String) := j.list? text?

/-- A tree or null. -/
def orNull? {α : Type} (value? : Json → Option α) : Json → Option (Option α)
  | .null => some none
  | j => (value? j).map some

def integer? : Json → Option Int
  | .number n =>
    match n.number? with
    | some (.integer i) => some i
    | _ => none
  | _ => none

def word? (j : Json) : Option UInt64 := j.integer?.bind Word.ofInt?

def int64? (j : Json) : Option Int64 := j.integer?.bind Word.signed?

def int32? (j : Json) : Option Int32 := j.integer?.bind Word.short?

/-- The members of an object, if all keys are texts. -/
def members? : Json → Option (List (String × Json))
  | .object members => members.mapM fun (k, j) => k.toOption.map (·, j)
  | _ => none

/-- The known fields of a record. -/
def fields? (names : List String) : Json → Option (List (String × Json))
  | .array items => if items.length ≤ names.length then some (names.zip items) else none
  | j => do
    let known := (← j.members?).filter fun m => names.contains m.1
    if (known.map Prod.fst).Nodup then some known else none

theorem lookup_filter_contains {names : List String} {name : String} (h : name ∈ names)
    (members : List (String × Json)) :
    (members.filter fun m => names.contains m.1).lookup name = members.lookup name := by
  induction members with
  | nil => rfl
  | cons m r ih =>
    obtain ⟨key, j⟩ := m
    rw [List.filter_cons]
    by_cases hk : name = key
    · subst hk
      rw [if_pos (by simpa using h), List.lookup_cons, List.lookup_cons, beq_self_eq_true]
    · have hb : (name == key) = false := by simpa using hk
      split
      · rw [List.lookup_cons, List.lookup_cons, hb, ih]
      · rw [List.lookup_cons, hb, ih]

/-- A known field of an object is its member. -/
theorem lookup_of_fields? {names : List String} {own : List (Literal × Json)}
    {fields : List (String × Json)} (h : (object own).fields? names = some fields) :
    ∃ members, (object own).members? = some members ∧
      ∀ name ∈ names, fields.lookup name = members.lookup name := by
  obtain ⟨members, hm, h⟩ := Option.bind_eq_some_iff.1 h
  dsimp only at h
  split at h
  · cases h
    exact ⟨members, hm, fun name hn => lookup_filter_contains hn members⟩
  · cases h

/-- A field that may be left out. -/
def fieldOr {α : Type} (default : α) (value? : Json → Option α) : Option Json → Option α
  | some j => value? j
  | none => some default

/-- One of several names, as a text or as the only key of an object. -/
def name? : Json → Option String
  | .string s => s.toOption
  | .object [(.ok k, .null)] => some k
  | _ => none

theorem name?_of_text? {j : Json} {s : String} (h : j.text? = some s) : j.name? = some s := by
  cases j with
  | string _ => exact h
  | _ => cases h

end Warrant.Json
