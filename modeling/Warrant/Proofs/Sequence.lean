-- Steps that may fail, one after the other. A sequence gives a value where
-- each of its steps does, and fails where one of them fails.
import Mathlib.Data.List.Forall2

namespace Warrant

variable {ε ε' α β : Type} {x : Except ε α} {f : α → Except ε β}

/-- Where a sequence of two steps gives a value, the first one gave one to the
second. -/
theorem ok_of_bind {b : β} (h : (x >>= f) = .ok b) : ∃ a, x = .ok a ∧ f a = .ok b := by
  cases x with
  | error e => cases h
  | ok a => exact ⟨a, rfl, h⟩

/-- Where a sequence of two steps fails, the first one fails, or it gave a value
to the second. -/
theorem error_of_bind {e : ε} (h : (x >>= f) = .error e) :
    x = .error e ∨ ∃ a, x = .ok a ∧ f a = .error e := by
  cases x with
  | error e' =>
    cases h
    exact .inl rfl
  | ok a => exact .inr ⟨a, rfl, h⟩

/-! Errors and values under other names. -/

theorem ok_of_mapError {g : ε → ε'} {a : α} (h : x.mapError g = .ok a) : x = .ok a := by
  cases x with
  | error e => cases h
  | ok a' =>
    cases h
    rfl

theorem error_of_mapError {g : ε → ε'} {e' : ε'} (h : x.mapError g = .error e') :
    ∃ e, x = .error e ∧ e' = g e := by
  cases x with
  | error e =>
    cases h
    exact ⟨e, rfl, rfl⟩
  | ok a => cases h

theorem error_of_map {g : α → β} {e : ε} (h : x.map g = .error e) : x = .error e := by
  cases x with
  | error e' =>
    cases h
    rfl
  | ok a => cases h

/-! The same step for each item of a list. -/

theorem mapM_eq_some_iff {g : α → Option β} {as : List α} {bs : List β} :
    as.mapM g = some bs ↔ List.Forall₂ (fun a b => g a = some b) as bs := by
  induction as generalizing bs with
  | nil => simp [eq_comm]
  | cons a r ih =>
    rw [List.mapM_cons]
    constructor
    · intro h
      obtain ⟨b, hb, h⟩ := Option.bind_eq_some_iff.1 h
      obtain ⟨s, hs, h⟩ := Option.bind_eq_some_iff.1 h
      cases h
      exact .cons hb (ih.1 hs)
    · intro h
      cases h with
      | cons hb hs =>
        rw [hb, ih.2 hs]
        rfl

theorem mem_of_mapM {g : α → Option β} {as : List α} {bs : List β} (h : as.mapM g = some bs)
    {b : β} (hb : b ∈ bs) : ∃ a, g a = some b := by
  rw [mapM_eq_some_iff] at h
  induction h with
  | nil => cases hb
  | @cons a b' _ _ ha _ ih =>
    rcases List.mem_cons.1 hb with rfl | hb
    · exact ⟨a, ha⟩
    · exact ih hb

/-- An item may go for another one of which the same is true. -/
theorem forall₂_replace {R : α → β → Prop} {a a' : α} (h : ∀ b, R a b → R a' b)
    {before after : List α} {bs : List β} (hall : List.Forall₂ R (before ++ a :: after) bs) :
    List.Forall₂ R (before ++ a' :: after) bs := by
  induction before generalizing bs with
  | nil =>
    cases hall with
    | cons ha hafter => exact .cons (h _ ha) hafter
  | cons x r ih =>
    cases hall with
    | cons hx hrest => exact .cons hx (ih hrest)

end Warrant
