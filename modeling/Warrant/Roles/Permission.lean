-- Permissions: an action on a resource. A permission with a wildcard grants
-- a family of permissions, and granting is a partial order.
import Warrant.KeyMap
import Warrant.Wildcard

namespace Warrant

structure Permission where
  resource : String
  action : String
deriving DecidableEq, Repr

namespace Permission

/-- The permission covers an action on a resource. -/
def grants (p : Permission) (resource action : String) : Bool :=
  covers p.resource resource && covers p.action action

theorem grants_iff {p : Permission} {resource action : String} :
    p.grants resource action = true ↔
      covers p.resource resource = true ∧ covers p.action action = true := by
  simp [grants]

/-- A permission grants itself. -/
theorem grants_self (p : Permission) : p.grants p.resource p.action = true := by
  simp [grants_iff, covers_refl]

theorem grants_trans {p q : Permission} {resource action : String}
    (hq : p.grants q.resource q.action = true) (h : q.grants resource action = true) :
    p.grants resource action = true := by
  rw [grants_iff] at *
  exact ⟨covers_trans hq.1 h.1, covers_trans hq.2 h.2⟩

theorem grants_antisymm {p q : Permission} (hq : p.grants q.resource q.action = true)
    (hp : q.grants p.resource p.action = true) : p = q := by
  rw [grants_iff] at *
  cases p
  cases q
  rw [mk.injEq]
  exact ⟨covers_antisymm hq.1 hp.1, covers_antisymm hq.2 hp.2⟩

/-! ## Order

By resource, and by action for one resource. -/

def before (p q : Permission) : Bool :=
  KeyOrder.before p.resource q.resource ||
    (p.resource == q.resource && KeyOrder.before p.action q.action)

theorem before_iff {p q : Permission} :
    before p q = true ↔
      p.resource < q.resource ∨ (p.resource = q.resource ∧ p.action < q.action) := by
  simp [before, KeyOrder.before]

instance : KeyOrder Permission where
  decEq := inferInstance
  before := before
  irrefl p := by
    rw [← Bool.not_eq_true, before_iff]
    simp
  trans {p q r} h1 h2 := by
    rw [before_iff] at *
    rcases h1 with h1 | ⟨e1, h1⟩ <;> rcases h2 with h2 | ⟨e2, h2⟩
    · exact .inl (String.lt_trans h1 h2)
    · exact .inl (e2 ▸ h1)
    · exact .inl (e1 ▸ h2)
    · exact .inr ⟨e1.trans e2, String.lt_trans h1 h2⟩
  total {p q} h1 h2 := by
    rw [← Bool.not_eq_true, before_iff] at *
    obtain ⟨r1, a1⟩ := p
    obtain ⟨r2, a2⟩ := q
    simp only [not_or, not_and] at h1 h2
    obtain rfl : r1 = r2 := String.le_antisymm h2.1 h1.1
    obtain rfl : a1 = a2 := String.le_antisymm (h2.2 rfl) (h1.2 rfl)
    rfl

end Permission

end Warrant
