-- The queries of a registry agree. One goes through the names of a user and
-- stops at the first role that grants a request. Another gathers the
-- permissions of all the roles first. A name that means no role adds nothing to
-- either, and a permission that several roles have is gathered once.
--
-- So all the queries can be answered from the permissions that a user holds,
-- and who asks for these very permissions gets them all.
import Warrant.Proofs.Roles.Wildcards

namespace Warrant

namespace RoleRegistry

variable {g : RoleRegistry} {user : UserId} {resource action : String}

/-! ## Permissions by name -/

theorem mem_activeRoles {role : Role} :
    role ∈ g.activeRoles user ↔ ∃ name ∈ g.rolesOf user, g.role? name = some role := by
  simp [activeRoles]

/-- A permission is held by a name that means a role with it. -/
theorem holds_iff_by_name {p : Permission} :
    g.Holds user p ↔ ∃ name ∈ g.rolesOf user, ∃ role, g.role? name = some role ∧
      role.permissions.contains p = true := by
  rw [holds_iff]
  constructor
  · rintro ⟨role, hrole, hp⟩
    obtain ⟨name, hname, hmeans⟩ := mem_activeRoles.1 hrole
    exact ⟨name, hname, role, hmeans, hp⟩
  · rintro ⟨name, hname, role, hmeans, hp⟩
    exact ⟨role, mem_activeRoles.2 ⟨name, hname, hmeans⟩, hp⟩

theorem nodup_permissionsOf (g : RoleRegistry) (user : UserId) :
    (KeySet.toList (g.permissionsOf user)).Nodup := KeyMap.nodup_keys _

/-! ## Answers from the permissions -/

/-- One of the permissions that the user holds grants the request. -/
def Granted (g : RoleRegistry) (user : UserId) (resource action : String) : Prop :=
  ∃ p ∈ KeySet.toList (g.permissionsOf user), p.grants resource action = true

theorem allows_iff_granted :
    g.allows user resource action = true ↔ g.Granted user resource action := by
  unfold Granted
  simp only [allows_iff_holds, Holds, KeySet.mem_toList]

theorem allowsAny_iff_granted {wanted : List Permission} :
    g.allowsAny user wanted = true ↔ ∃ p ∈ wanted, g.Granted user p.resource p.action := by
  unfold allowsAny
  simp only [List.any_eq_true, allows_iff_granted]

theorem allowsAll_iff_granted {wanted : List Permission} :
    g.allowsAll user wanted = true ↔ ∀ p ∈ wanted, g.Granted user p.resource p.action := by
  unfold allowsAll
  simp only [List.all_eq_true, allows_iff_granted]

theorem check_of_granted (h : g.Granted user resource action) :
    g.check user resource action = .ok () := by
  unfold check
  rw [if_pos (allows_iff_granted.2 h)]

theorem check_of_not_granted (h : ¬g.Granted user resource action) :
    g.check user resource action = .error (.permissionDenied user resource action) := by
  unfold check
  rw [if_neg fun hallowed => h (allows_iff_granted.1 hallowed)]

/-- Held permissions are granted, wildcards as requests too. -/
theorem allowsAll_of_held {wanted : List Permission} (h : ∀ p ∈ wanted, g.Holds user p) :
    g.allowsAll user wanted = true := by
  unfold allowsAll
  rw [List.all_eq_true]
  intro p hp
  exact allows_of_holds (h p hp)

/-! ## The law -/

/-- A user holds what the roles have that the user's names mean, each permission
once. A request is granted exactly if one of these permissions grants it, and
is refused with the user, the resource and the action otherwise. Of a list of
requests any is granted, or all are, by the same permissions. The permissions
that a user holds are all granted to the user, in whatever order they are asked
for. -/
theorem every_query_is_answered_by_the_permissions (g : RoleRegistry) (user : UserId) :
    (∀ p, p ∈ KeySet.toList (g.permissionsOf user) ↔
      ∃ name ∈ g.rolesOf user, ∃ role, g.role? name = some role ∧
        role.permissions.contains p = true) ∧
    (KeySet.toList (g.permissionsOf user)).Nodup ∧
    (∀ resource action, g.allows user resource action = true ↔
      ∃ p ∈ KeySet.toList (g.permissionsOf user), p.grants resource action = true) ∧
    (∀ resource action,
      ((∃ p ∈ KeySet.toList (g.permissionsOf user), p.grants resource action = true) →
        g.check user resource action = .ok ()) ∧
      ((∀ p ∈ KeySet.toList (g.permissionsOf user), p.grants resource action = false) →
        g.check user resource action = .error (.permissionDenied user resource action))) ∧
    (∀ wanted, g.allowsAny user wanted = true ↔
      ∃ p ∈ wanted, ∃ held ∈ KeySet.toList (g.permissionsOf user),
        held.grants p.resource p.action = true) ∧
    (∀ wanted, g.allowsAll user wanted = true ↔
      ∀ p ∈ wanted, ∃ held ∈ KeySet.toList (g.permissionsOf user),
        held.grants p.resource p.action = true) ∧
    (∀ wanted, (∀ p ∈ wanted, p ∈ KeySet.toList (g.permissionsOf user)) →
      g.allowsAll user wanted = true) ∧
    g.allowsAll user (KeySet.toList (g.permissionsOf user)) = true := by
  have hheld : ∀ p, p ∈ KeySet.toList (g.permissionsOf user) → g.Holds user p :=
    fun p hp => KeySet.mem_toList.1 hp
  refine ⟨fun p => KeySet.mem_toList.trans holds_iff_by_name, nodup_permissionsOf g user,
    fun _ _ => allows_iff_granted, fun resource action => ⟨check_of_granted, fun hnone => ?_⟩,
    fun _ => allowsAny_iff_granted, fun _ => allowsAll_iff_granted,
    fun wanted hwanted => allowsAll_of_held fun p hp => hheld p (hwanted p hp),
    allowsAll_of_held hheld⟩
  apply check_of_not_granted
  rintro ⟨p, hp, hgrants⟩
  rw [hnone p hp] at hgrants
  cases hgrants

end RoleRegistry

end Warrant
