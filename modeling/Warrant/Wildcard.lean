-- The mark that stands for everything, and patterns that may be this mark.

namespace Warrant

/-- The mark that stands for any resource, action, attribute or value. -/
def wildcard : String := "*"

/-- A pattern covers a name if it is the name or the wildcard. -/
def covers (pattern name : String) : Bool := pattern == wildcard || pattern == name

theorem covers_iff {pattern name : String} :
    covers pattern name = true ↔ pattern = wildcard ∨ pattern = name := by
  simp [covers]

theorem covers_refl (name : String) : covers name name = true := by simp [covers]

theorem covers_of_wildcard (name : String) : covers wildcard name = true := by simp [covers]

/-- Only the wildcard covers the wildcard. -/
theorem covers_wildcard_iff {pattern : String} :
    covers pattern wildcard = true ↔ pattern = wildcard := by
  simp [covers]

theorem covers_trans {a b c : String} (hab : covers a b = true) (hbc : covers b c = true) :
    covers a c = true := by
  rw [covers_iff] at *
  rcases hab with h | rfl
  · exact .inl h
  · exact hbc

theorem covers_antisymm {a b : String} (hab : covers a b = true) (hba : covers b a = true) :
    a = b := by
  rw [covers_iff] at *
  rcases hab with ha | h
  · rcases hba with hb | h
    · rw [ha, hb]
    · exact h.symm
  · exact h

end Warrant
