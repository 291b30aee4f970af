-- What a wildcard means. A request with a wildcard stands for all requests
-- that it covers: it is granted where all of these are, and nowhere else. So
-- whoever asks for the wildcard itself is asked to hold one.
--
-- The permissions of a user name finitely many resources and actions. A name
-- that none of them has is granted by a wildcard only, and there is always
-- such a name.
import Mathlib.Data.Fintype.EquivFin
import Mathlib.Order.Defs.Unbundled
import Warrant.Roles.Registry

namespace Warrant

/-- The first permission grants the second one. -/
def Permission.Covers (p q : Permission) : Prop := p.grants q.resource q.action = true

theorem Permission.covers_isPartialOrder : IsPartialOrder Permission Permission.Covers where
  refl := grants_self
  trans _ _ _ hq h := grants_trans hq h
  antisymm _ _ hq hp := grants_antisymm hq hp

/-- Besides finitely many names there is one more, and it is no wildcard. -/
theorem exists_new_name (names : List String) : ∃ name, name ≠ wildcard ∧ name ∉ names := by
  obtain ⟨name, h⟩ := Infinite.exists_notMem_finset (wildcard :: names).toFinset
  rw [List.mem_toFinset, List.mem_cons, not_or] at h
  exact ⟨name, h⟩

namespace RoleRegistry

variable {g : RoleRegistry} {user : UserId} {resource action : String}

/-! ## Held permissions -/

/-- A role of the user has the permission. -/
def Holds (g : RoleRegistry) (user : UserId) (p : Permission) : Prop :=
  (g.permissionsOf user).contains p = true

theorem holds_iff {p : Permission} :
    g.Holds user p ↔ ∃ role ∈ g.activeRoles user, role.permissions.contains p = true := by
  unfold Holds permissionsOf
  simp [KeySet.contains_ofList, KeySet.mem_toList]

/-- A request is granted by one of the permissions that are held. -/
theorem allows_iff_holds :
    g.allows user resource action = true ↔
      ∃ p, g.Holds user p ∧ p.grants resource action = true := by
  unfold allows
  simp only [List.any_eq_true, Role.grants_iff, holds_iff]
  constructor
  · rintro ⟨role, hrole, p, hp, hgrants⟩
    exact ⟨p, ⟨role, hrole, hp⟩, hgrants⟩
  · rintro ⟨p, ⟨role, hrole, hp⟩, hgrants⟩
    exact ⟨role, hrole, p, hp, hgrants⟩

/-- What a granted permission grants is granted as well. -/
theorem allows_of_covers {p q : Permission} (h : g.allows user p.resource p.action = true)
    (hq : p.Covers q) : g.allows user q.resource q.action = true := by
  rw [allows_iff_holds] at *
  obtain ⟨held, hheld, hgrants⟩ := h
  exact ⟨held, hheld, Permission.grants_trans hgrants hq⟩

theorem allows_of_holds {p : Permission} (h : g.Holds user p) :
    g.allows user p.resource p.action = true :=
  allows_iff_holds.2 ⟨p, h, p.grants_self⟩

/-! ## Requests for the wildcard -/

/-- A request for every resource takes a permission for every resource. -/
theorem allows_wildcard_resource_iff :
    g.allows user wildcard action = true ↔
      ∃ p, g.Holds user p ∧ p.resource = wildcard ∧ covers p.action action = true := by
  simp only [allows_iff_holds, Permission.grants_iff, covers_wildcard_iff]

theorem allows_wildcard_action_iff :
    g.allows user resource wildcard = true ↔
      ∃ p, g.Holds user p ∧ covers p.resource resource = true ∧ p.action = wildcard := by
  simp only [allows_iff_holds, Permission.grants_iff, covers_wildcard_iff]

/-! ## Names in the place of a wildcard -/

/-- The name stands for the pattern, beside these names: it is the pattern, or
a new name in the place of the wildcard. -/
def StandsFor (names : List String) (name pattern : String) : Prop :=
  name = pattern ∨ pattern = wildcard ∧ name ∉ names

/-- Each pattern has a name that stands for it, is covered by it, and is no
wildcard. -/
theorem exists_standsFor (names : List String) (pattern : String) :
    ∃ name, StandsFor names name pattern ∧ covers pattern name = true ∧ name ≠ wildcard := by
  by_cases h : pattern = wildcard
  · obtain ⟨name, hne, hnew⟩ := exists_new_name names
    exact ⟨name, .inr ⟨h, hnew⟩, by rw [h, covers_of_wildcard], hne⟩
  · exact ⟨pattern, .inl rfl, covers_refl pattern, h⟩

/-- One of the names that covers the stand-in covers the pattern. -/
theorem covers_of_standsFor {names : List String} {name pattern held : String}
    (h : StandsFor names name pattern) (hheld : held ∈ names) (hcovers : covers held name = true) :
    covers held pattern = true := by
  rcases h with rfl | ⟨rfl, hnew⟩
  · exact hcovers
  · rcases covers_iff.1 hcovers with hw | rfl
    · rw [hw, covers_of_wildcard]
    · exact absurd hheld hnew

/-- A request is granted if each request without a wildcard is that it
covers. -/
theorem allows_of_forall_covered
    (h : ∀ q : Permission, (Permission.mk resource action).Covers q → q.resource ≠ wildcard →
      q.action ≠ wildcard → g.allows user q.resource q.action = true) :
    g.allows user resource action = true := by
  let held := KeySet.toList (g.permissionsOf user)
  -- one request is enough, if it has new names in the place of the wildcards
  obtain ⟨r, hr, hresource, hr0⟩ := exists_standsFor (held.map (·.resource)) resource
  obtain ⟨a, ha, haction, ha0⟩ := exists_standsFor (held.map (·.action)) action
  have hgranted := h ⟨r, a⟩ (Permission.grants_iff.2 ⟨hresource, haction⟩) hr0 ha0
  rw [allows_iff_holds] at *
  obtain ⟨p, hp, hgrants⟩ := hgranted
  rw [Permission.grants_iff] at hgrants
  have hmem : p ∈ held := KeySet.mem_toList.2 hp
  refine ⟨p, hp, Permission.grants_iff.2 ⟨?_, ?_⟩⟩
  · exact covers_of_standsFor hr (List.mem_map_of_mem hmem) hgrants.1
  · exact covers_of_standsFor ha (List.mem_map_of_mem hmem) hgrants.2

/-! ## The law -/

/-- A request for the wildcard is granted exactly if all requests are that it
stands for, and it is enough to look at those without a wildcard. It takes a
wildcard that the user holds. Granting is a partial order, and what a user may
do is closed under it. -/
theorem a_wildcard_stands_for_every_name (g : RoleRegistry) (user : UserId) :
    (∀ action, g.allows user wildcard action = true ↔
      ∀ resource, g.allows user resource action = true) ∧
    (∀ resource, g.allows user resource wildcard = true ↔
      ∀ action, g.allows user resource action = true) ∧
    (g.allows user wildcard wildcard = true ↔
      ∀ resource action, g.allows user resource action = true) ∧
    (∀ p : Permission, g.allows user p.resource p.action = true ↔
      ∀ q : Permission, p.Covers q → q.resource ≠ wildcard → q.action ≠ wildcard →
        g.allows user q.resource q.action = true) ∧
    IsPartialOrder Permission Permission.Covers ∧
    (∀ p q : Permission, g.Holds user p ∨ g.allows user p.resource p.action = true →
      p.Covers q → g.allows user q.resource q.action = true) ∧
    (∀ action, g.allows user wildcard action = true ↔
      ∃ p, g.Holds user p ∧ p.resource = wildcard ∧ covers p.action action = true) ∧
    ∀ resource, g.allows user resource wildcard = true ↔
      ∃ p, g.Holds user p ∧ covers p.resource resource = true ∧ p.action = wildcard := by
  refine ⟨fun action => ⟨fun h resource => ?_, fun h => h wildcard⟩,
    fun resource => ⟨fun h action => ?_, fun h => h wildcard⟩,
    ⟨fun h resource action => ?_, fun h => h wildcard wildcard⟩,
    fun p => ⟨fun h q hq _ _ => allows_of_covers h hq, allows_of_forall_covered⟩,
    Permission.covers_isPartialOrder, ?_, fun _ => allows_wildcard_resource_iff,
    fun _ => allows_wildcard_action_iff⟩
  · exact allows_of_covers (p := ⟨wildcard, action⟩) (q := ⟨resource, action⟩) h
      (Permission.grants_iff.2 ⟨covers_of_wildcard resource, covers_refl action⟩)
  · exact allows_of_covers (p := ⟨resource, wildcard⟩) (q := ⟨resource, action⟩) h
      (Permission.grants_iff.2 ⟨covers_refl resource, covers_of_wildcard action⟩)
  · exact allows_of_covers (p := ⟨wildcard, wildcard⟩) (q := ⟨resource, action⟩) h
      (Permission.grants_iff.2 ⟨covers_of_wildcard resource, covers_of_wildcard action⟩)
  · intro p q hp hq
    rcases hp with hp | hp
    · exact allows_of_covers (allows_of_holds hp) hq
    · exact allows_of_covers hp hq

end RoleRegistry

end Warrant
