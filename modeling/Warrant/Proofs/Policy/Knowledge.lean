-- What more knowledge does to decisions. Whatever a policy asks for, it asks for
-- an attribute that is there: no requirement and no operator, also none of those
-- that say "not", is met by an attribute that is missing. So a policy that
-- matches still matches when more attributes are known.
--
-- Where all policies allow, more knowledge allows more. A loader that finds
-- nobody is one that knows nothing but the id, so it grants nothing in error.
import Warrant.Proofs.Authority.Influence
import Warrant.Proofs.Policy.Combined

namespace Warrant

variable {known more known' more' : Attributes} {action : String}

/-! ## More attributes -/

/-- The first attributes have all that the second ones have. -/
def Attributes.Extends (more known : Attributes) : Prop :=
  ∀ key v, known.get? key = some v → more.get? key = some v

namespace Attributes

theorem extends_empty (more : Attributes) : more.Extends .empty := by
  intro key v h
  simp at h

theorem Extends.insert (h : more.Extends known) (key : String) (v : Value) :
    Attributes.Extends (more.insert key v) (known.insert key v) := by
  intro key' v' hget
  rw [KeyMap.get?_insert] at hget ⊢
  by_cases hkey : key' = key
  · rw [if_pos hkey] at hget ⊢
    exact hget
  · rw [if_neg hkey] at hget ⊢
    exact h key' v' hget

/-- Where more is known of each side, more is known of both. -/
theorem Extends.combine (hs : more.Extends known) (hr : more'.Extends known') :
    Attributes.Extends (combine more more') (combine known known') := by
  intro path v hget
  rw [get?_combine_eq_some_iff] at hget ⊢
  rcases hget with ⟨key, hpath, hget⟩ | ⟨key, hpath, hget⟩
  · exact .inl ⟨key, hpath, hs key v hget⟩
  · exact .inr ⟨key, hpath, hr key v hget⟩

end Attributes

/-! ## Policies -/

theorem Requirement.met_of_extends {r : Requirement} (h : more.Extends known)
    (hmet : r.met known = true) : r.met more = true := by
  unfold Requirement.met at hmet ⊢
  by_cases hkey : r.key = wildcard
  · rw [if_pos hkey]
  · rw [if_neg hkey] at hmet ⊢
    cases hget : known.get? r.key with
    | none => simp [hget] at hmet
    | some v =>
      rw [hget] at hmet
      rw [h r.key v hget]
      exact hmet

/-- No operator holds of a missing attribute, and all of them look at the value
alone. -/
theorem Condition.holds_of_extends {c : Condition} (h : more.Extends known)
    (hholds : c.holds known = true) : c.holds more = true := by
  unfold Condition.holds at hholds ⊢
  cases hget : known.get? c.path with
  | none => simp [hget] at hholds
  | some v =>
    rw [hget] at hholds
    rw [h c.path v hget]
    exact hholds

theorem Policy.applies_iff {p : Policy} {subject resource : Attributes} :
    p.applies subject resource action = true ↔
      p.matchesAction action = true ∧ (∀ r ∈ p.subjects, r.met subject = true) ∧
        (∀ r ∈ p.resources, r.met resource = true) ∧
        ∀ c ∈ p.conditions, c.holds (combine subject resource) = true := by
  unfold Policy.applies
  simp [and_assoc]

theorem Policy.applies_of_extends {p : Policy} (hs : more.Extends known)
    (hr : more'.Extends known') (h : p.applies known known' action = true) :
    p.applies more more' action = true := by
  obtain ⟨haction, hsubjects, hresources, hconditions⟩ := Policy.applies_iff.1 h
  refine Policy.applies_iff.2 ⟨haction, ?_, ?_, ?_⟩
  · intro r hmem
    exact Requirement.met_of_extends hs (hsubjects r hmem)
  · intro r hmem
    exact Requirement.met_of_extends hr (hresources r hmem)
  · intro c hmem
    exact Condition.holds_of_extends (hs.combine hr) (hconditions c hmem)

/-! ## Policies that all allow -/

namespace PolicyStore

variable {s : PolicyStore} {subject resource : Attributes}

/-- No policy denies. -/
def OnlyAllows (s : PolicyStore) : Prop := ∀ p ∈ s.policies, p.effect = .allow

theorem check_eq_ok_iff :
    s.check subject resource action = .ok () ↔
      (s.decide subject resource action).allowed = true := by
  unfold check
  rcases s.decide subject resource action with ⟨allowed, policy⟩
  cases allowed <;> simp

/-- If no policy denies, one that matches is enough. -/
theorem OnlyAllows.allowed_iff (hs : s.OnlyAllows) :
    (s.decide subject resource action).allowed = true ↔
      ∃ p ∈ s.policies, p.applies subject resource action = true := by
  unfold decide
  cases hfirst : s.policies.find? (·.applies subject resource action) with
  | none =>
    rw [List.find?_eq_none] at hfirst
    simpa using hfirst
  | some p =>
    have hp := List.mem_of_find?_eq_some hfirst
    have ha := List.find?_some hfirst
    simp only [Policy.allows, hs p hp]
    exact ⟨fun _ => ⟨p, hp, ha⟩, fun _ => rfl⟩

theorem OnlyAllows.allowed_of_extends (hs : s.OnlyAllows) (hsubject : more.Extends known)
    (hresource : more'.Extends known')
    (h : (s.decide known known' action).allowed = true) :
    (s.decide more more' action).allowed = true := by
  obtain ⟨p, hp, ha⟩ := hs.allowed_iff.1 h
  exact hs.allowed_iff.2 ⟨p, hp, Policy.applies_of_extends hsubject hresource ha⟩

theorem OnlyAllows.check_of_extends (hs : s.OnlyAllows) (hsubject : more.Extends known)
    (hresource : more'.Extends known') (h : s.check known known' action = .ok ()) :
    s.check more more' action = .ok () := by
  rw [check_eq_ok_iff] at h ⊢
  exact hs.allowed_of_extends hsubject hresource h

/-- What is granted to a user of whom only the id is known is granted whatever
is loaded. -/
theorem OnlyAllows.check_loaded (hs : s.OnlyAllows) {id : Value} (found : Option User)
    (h : s.check (KeyMap.empty.insert "id" id) resource action = .ok ()) :
    s.check ((loaded found).insert "id" id) resource action = .ok () := by
  apply hs.check_of_extends _ _ h
  · exact (Attributes.extends_empty (loaded found)).insert "id" id
  · exact fun _ _ hget => hget

end PolicyStore

/-! ## The law -/

/-- A policy that matches still matches when more is known of the subject or of
the resource. So where all policies allow, nothing that is granted is lost by
knowing more. And what a user is granted while the loader finds nobody, the user
is granted with any other loader, whatever this one finds and whatever else it
does. -/
theorem more_knowledge_grants_no_less {m : Type → Type} [Monad m] [LawfulMonad m] :
    (∀ (p : Policy) (action : String) (known more known' more' : Attributes),
      more.Extends known → more'.Extends known' →
        p.applies known known' action = true → p.applies more more' action = true) ∧
    ∀ store : PolicyStore, (∀ p ∈ store.policies, p.effect = .allow) →
      (∀ (action : String) (known more known' more' : Attributes),
        more.Extends known → more'.Extends known' →
          ((store.decide known known' action).allowed = true →
            (store.decide more more' action).allowed = true) ∧
          (store.check known known' action = .ok () → store.check more more' action = .ok ())) ∧
      ∀ a : Authority, a.permissions = some (.policies store) →
        ∀ (user : UserId) (resource action : String) (attributes : Attributes)
          (nobody : Option (Loader m)), FindsNobody user nobody →
            ∃ answer, a.check nobody user resource action attributes = pure answer ∧
              (answer = .ok () → ∀ loader : Option (Loader m),
                a.check loader user resource action attributes =
                  (fun _ => .ok ()) <$> loadUser loader user) := by
  refine ⟨fun p action known more known' more' hs hr h => p.applies_of_extends hs hr h, ?_⟩
  intro store hallow
  have honly : store.OnlyAllows := hallow
  refine ⟨fun action known more known' more' hs hr =>
    ⟨honly.allowed_of_extends hs hr, honly.check_of_extends hs hr⟩, ?_⟩
  intro a ha user resource action attributes nobody hnobody
  refine ⟨store.check (KeyMap.empty.insert "id" (.ofWord user)) attributes action, ?_, ?_⟩
  · rw [Authority.check_policies ha, hnobody.loadUser, map_pure]
    rfl
  · intro hanswer loader
    rw [Authority.check_policies ha]
    congr 1
    funext found
    exact honly.check_loaded found hanswer

/-- Everybody but user 8 may enter the lounge. Its floor is compared with a text,
to which every number counts as equal. -/
def lounge : PolicyStore :=
  ⟨[⟨"lounge", "Lounge", [⟨"id", .text "*"⟩], [⟨"*", .null⟩], KeySet.ofList ["enter"], .allow,
    [⟨"subject.id", .ne, .int 8⟩, ⟨"resource.floor", .le, .text "top"⟩], 0⟩]⟩

/-- A loader that knows in which department a user works. -/
def directory : Loader Id := fun user =>
  .ok ⟨user, "Someone", [], KeyMap.empty.insert "department" (.text "sales")⟩

/-- User 7 may enter the lounge unknown, and so when known. -/
theorem the_lounge_is_open_to_known_users :
    let a : Authority := ⟨.oauth (.new {}), some (.policies lounge)⟩
    let floor : Attributes := KeyMap.empty.insert "floor" (.int 3)
    (∀ p ∈ lounge.policies, p.effect = .allow) ∧
      FindsNobody 7 (none : Option (Loader Id)) ∧
      (a.check none 7 "lounge" "enter" floor : Id _) = .ok () ∧
      (a.check (some directory) 7 "lounge" "enter" floor : Id _) = .ok () := by
  intro a floor
  have hallow : ∀ p ∈ lounge.policies, p.effect = .allow := by simp [lounge]
  have hnobody : (a.check none 7 "lounge" "enter" floor : Id _) = .ok () := rfl
  obtain ⟨answer, hanswer, hgrants⟩ := ((more_knowledge_grants_no_less (m := Id)).2 lounge hallow).2
    a rfl 7 "lounge" "enter" floor none .missing
  refine ⟨hallow, .missing, hnobody, ?_⟩
  exact hgrants (hanswer.symm.trans hnobody) (some directory)

end Warrant
