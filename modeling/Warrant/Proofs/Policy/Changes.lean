-- What one change of the policies does to decisions. The policies in force
-- stand by falling priority, so a new one goes behind all that have its priority
-- or a higher one, and before all the others. It decides what it applies to and
-- none of the former did. All else stays with whoever decided it before.
--
-- A removal takes all policies of an id, also those that stood there before an
-- addition. So it undoes an addition only where the id was new.
import Warrant.Proofs.Policy.History

namespace Warrant

namespace PolicyStore

variable {l : List Policy} {p q : Policy} {s : PolicyStore} {subject resource : Attributes}
  {action id : String}

/-! ## The place of a new policy -/

theorem ranked_after (changes : List PolicyChange) : Ranked (after changes).policies := by
  rw [policies_after]
  exact ranked_mergeSort _

/-- A new policy parts a ranked list in two. It is outranked by none of the
second part. -/
theorem exists_place_eq (p : Policy) (hl : Ranked l) :
    ∃ higher lower, l = higher ++ lower ∧ place p l = higher ++ p :: lower ∧
      (∀ q ∈ higher, p.priority.toInt ≤ q.priority.toInt) ∧
      ∀ q ∈ lower, q.priority.toInt < p.priority.toInt := by
  induction l with
  | nil => exact ⟨[], [], rfl, rfl, by simp, by simp⟩
  | cons a r ih =>
    obtain ⟨ha, hr⟩ := List.pairwise_cons.1 hl
    unfold place
    split
    · rename_i hlt
      refine ⟨[], a :: r, rfl, rfl, by simp, fun q hq => ?_⟩
      rcases List.mem_cons.1 hq with rfl | hq
      · exact hlt
      · have hqa := outranks_iff.1 (ha q hq)
        omega
    · rename_i hle
      obtain ⟨higher, lower, rfl, hplace, hhigher, hlower⟩ := ih hr
      refine ⟨a :: higher, lower, rfl, by rw [hplace]; rfl, fun q hq => ?_, hlower⟩
      rcases List.mem_cons.1 hq with rfl | hq
      · omega
      · exact hhigher q hq

/-- The policy would decide the request if it were added: it applies, and what
applies already has a lower priority. -/
def Prevails (s : PolicyStore) (subject resource : Attributes) (action : String) (p : Policy) :
    Prop :=
  p.applies subject resource action = true ∧
    ∀ q ∈ s.policies, p.priority.toInt ≤ q.priority.toInt →
      q.applies subject resource action = false

theorem find?_add_of_prevails (hs : Ranked s.policies) (h : s.Prevails subject resource action p) :
    (s.add p).policies.find? (·.applies subject resource action) = some p := by
  obtain ⟨higher, lower, hpolicies, hplace, hhigher, _⟩ := exists_place_eq p hs
  have hnone : higher.find? (·.applies subject resource action) = none := by
    rw [List.find?_eq_none]
    intro q hq
    rw [h.2 q (by simp [hpolicies, hq]) (hhigher q hq)]
    exact Bool.false_ne_true
  unfold add
  simp [hplace, List.find?_append, hnone, h.1]

theorem find?_add_of_not_prevails (hs : Ranked s.policies)
    (h : ¬s.Prevails subject resource action p) :
    (s.add p).policies.find? (·.applies subject resource action) =
      s.policies.find? (·.applies subject resource action) := by
  obtain ⟨higher, lower, hpolicies, hplace, _, hlower⟩ := exists_place_eq p hs
  unfold add
  rw [hplace, hpolicies, List.find?_append, List.find?_append]
  cases hfirst : higher.find? (·.applies subject resource action) with
  | some q => simp
  | none =>
    -- none before the new policy applies, so this one does not either
    have hp : p.applies subject resource action = false := by
      rw [← Bool.not_eq_true]
      intro ha
      refine h ⟨ha, fun q hq hle => ?_⟩
      rw [hpolicies] at hq
      rcases List.mem_append.1 hq with hq | hq
      · simpa using List.find?_eq_none.1 hfirst q hq
      · have hlt := hlower q hq
        omega
    simp [hp]

/-! ## Decisions after an addition -/

theorem decide_congr {s s' : PolicyStore}
    (h : s'.policies.find? (·.applies subject resource action) =
      s.policies.find? (·.applies subject resource action)) :
    s'.decide subject resource action = s.decide subject resource action := by
  unfold decide
  rw [h]

theorem decide_add_of_prevails (hs : Ranked s.policies)
    (h : s.Prevails subject resource action p) :
    (s.add p).decide subject resource action = ⟨p.allows, some p⟩ := by
  unfold decide
  rw [find?_add_of_prevails hs h]

theorem decide_add_of_not_prevails (hs : Ranked s.policies)
    (h : ¬s.Prevails subject resource action p) :
    (s.add p).decide subject resource action = s.decide subject resource action :=
  decide_congr (find?_add_of_not_prevails hs h)

/-- The answer after an addition is the one before, or the one of the new
policy. -/
theorem allowed_add (hs : Ranked s.policies) (p : Policy) :
    ((s.add p).decide subject resource action).allowed =
        (s.decide subject resource action).allowed ∨
      ((s.add p).decide subject resource action).allowed = p.allows := by
  by_cases h : s.Prevails subject resource action p
  · rw [decide_add_of_prevails hs h]
    exact .inr rfl
  · rw [decide_add_of_not_prevails hs h]
    exact .inl rfl

/-! ## Decisions after a removal -/

/-- The policy that made the decision. -/
theorem policy_decide :
    (s.decide subject resource action).policy =
      s.policies.find? (·.applies subject resource action) := by
  unfold decide
  cases s.policies.find? (·.applies subject resource action) <;> rfl

theorem find?_remove_of_kept
    (h : ∀ q, s.policies.find? (·.applies subject resource action) = some q → q.id ≠ id) :
    (s.remove id).policies.find? (·.applies subject resource action) =
      s.policies.find? (·.applies subject resource action) := by
  unfold remove
  cases hfirst : s.policies.find? (·.applies subject resource action) with
  | none =>
    rw [List.find?_eq_none] at hfirst ⊢
    intro q hq
    exact hfirst q (List.mem_filter.1 hq).1
  | some q =>
    have hid := h q hfirst
    obtain ⟨ha, earlier, later, hpolicies, hearlier⟩ := List.find?_eq_some_iff_append.1 hfirst
    refine List.find?_eq_some_iff_append.2 ⟨ha, earlier.filter (·.id != id),
      later.filter (·.id != id), by simp [hpolicies, hid], ?_⟩
    intro q' hq'
    exact hearlier q' (List.mem_filter.1 hq').1

/-- Nothing that was removed decides. -/
theorem id_ne_of_find?_remove
    (h : (s.remove id).policies.find? (·.applies subject resource action) = some q) :
    q.id ≠ id := by
  have hq := List.mem_of_find?_eq_some h
  unfold remove at hq
  simpa using (List.mem_filter.1 hq).2

theorem decide_remove_eq_iff :
    (s.remove id).decide subject resource action = s.decide subject resource action ↔
      ∀ q, (s.decide subject resource action).policy = some q → q.id ≠ id := by
  constructor
  · intro h q hq
    rw [← h, policy_decide] at hq
    exact id_ne_of_find?_remove hq
  · intro h
    apply decide_congr
    apply find?_remove_of_kept
    intro q hq
    exact h q (policy_decide.trans hq)

/-! ## An addition taken back -/

/-- After the removal it is as if the policy had never been added. -/
theorem remove_add (hs : Ranked s.policies) (p : Policy) :
    (s.add p).remove p.id = s.remove p.id := by
  obtain ⟨higher, lower, hpolicies, hplace, _⟩ := exists_place_eq p hs
  unfold add remove
  rw [hplace, hpolicies]
  simp

theorem remove_eq_self_iff : s.remove id = s ↔ ∀ q ∈ s.policies, q.id ≠ id := by
  obtain ⟨l⟩ := s
  unfold remove
  simp

/-! ## The law -/

/-- A policy that is added decides the requests that it applies to, where no
policy of its priority or a higher one applies. All other decisions stay as they
were. A removal changes a decision exactly if it takes the policy that made it.
A removal of the added policy restores the policies exactly if none had its id
before. So a policy that denies allows nothing new, and one that allows denies
nothing new. -/
theorem a_new_policy_decides_where_it_prevails (changes : List PolicyChange) :
    (∀ p subject resource action,
      (p.applies subject resource action = true ∧
          (∀ q ∈ (after changes).policies, p.priority.toInt ≤ q.priority.toInt →
            q.applies subject resource action = false) →
        ((after changes).add p).decide subject resource action =
          ⟨p.effect == .allow, some p⟩) ∧
      (¬(p.applies subject resource action = true ∧
          ∀ q ∈ (after changes).policies, p.priority.toInt ≤ q.priority.toInt →
            q.applies subject resource action = false) →
        ((after changes).add p).decide subject resource action =
          (after changes).decide subject resource action)) ∧
    (∀ id subject resource action,
      ((after changes).remove id).decide subject resource action =
          (after changes).decide subject resource action ↔
        ∀ q, ((after changes).decide subject resource action).policy = some q → q.id ≠ id) ∧
    (∀ p, ((after changes).add p).remove p.id = after changes ↔
      ∀ q ∈ (after changes).policies, q.id ≠ p.id) ∧
    (∀ p subject resource action, p.effect = .deny →
      ((after changes).decide subject resource action).allowed = false →
        (((after changes).add p).decide subject resource action).allowed = false) ∧
    ∀ p subject resource action, p.effect = .allow →
      ((after changes).decide subject resource action).allowed = true →
        (((after changes).add p).decide subject resource action).allowed = true := by
  have hs := ranked_after changes
  refine ⟨fun p subject resource action => ⟨decide_add_of_prevails hs,
    decide_add_of_not_prevails hs⟩, fun _ _ _ _ => decide_remove_eq_iff, ?_, ?_, ?_⟩
  · intro p
    rw [remove_add hs p, remove_eq_self_iff]
  · intro p subject resource action heffect hdenied
    have hp : p.allows = false := by simp [Policy.allows, heffect]
    rcases allowed_add hs p with h | h
    · rw [h, hdenied]
    · rw [h, hp]
  · intro p subject resource action heffect hallowed
    have hp : p.allows = true := by simp [Policy.allows, heffect]
    rcases allowed_add hs p with h | h
    · rw [h, hallowed]
    · rw [h, hp]

end PolicyStore

end Warrant
