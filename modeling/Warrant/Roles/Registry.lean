-- Roles and who has them. A role is a set of permissions under a name. A
-- user has a list of role names. A role that is deleted keeps its place in
-- these lists, and counts again when a role of this name is added.
import Warrant.Refusal
import Warrant.Roles.Permission

namespace Warrant

structure Role where
  name : String
  permissions : KeySet Permission
deriving DecidableEq

def Role.grants (r : Role) (resource action : String) : Bool :=
  (KeySet.toList r.permissions).any (·.grants resource action)

theorem Role.grants_iff {r : Role} {resource action : String} :
    r.grants resource action = true ↔
      ∃ p : Permission, r.permissions.contains p = true ∧ p.grants resource action = true := by
  simp [Role.grants, KeySet.mem_toList]

structure RoleRegistry where
  roles : KeyMap String (KeySet Permission)
  assignments : KeyMap UserId (List String)

namespace RoleRegistry

def empty : RoleRegistry := ⟨.empty, .empty⟩

/-! ## Roles -/

/-- Adds a role, in place of the one of this name. -/
def add (g : RoleRegistry) (name : String) (permissions : List Permission) : RoleRegistry :=
  { g with roles := g.roles.insert name (KeySet.ofList permissions) }

def delete (g : RoleRegistry) (name : String) : RoleRegistry :=
  { g with roles := g.roles.erase name }

def role? (g : RoleRegistry) (name : String) : Option Role :=
  (g.roles.get? name).map (⟨name, ·⟩)

/-- The roles in the order of their names. -/
def list (g : RoleRegistry) : List Role := g.roles.entries.map fun e => ⟨e.1, e.2⟩

theorem role?_add (g : RoleRegistry) (name : String) (permissions : List Permission)
    (other : String) :
    (g.add name permissions).role? other =
      if other = name then some ⟨name, KeySet.ofList permissions⟩ else g.role? other := by
  simp only [role?, add, KeyMap.get?_insert]
  split
  · rename_i h; rw [h]; rfl
  · rfl

theorem role?_delete (g : RoleRegistry) (name other : String) :
    (g.delete name).role? other = if other = name then none else g.role? other := by
  simp only [role?, delete, KeyMap.get?_erase]
  split <;> rfl

/-! ## Users -/

/-- The names that a user was given, the oldest first. -/
def rolesOf (g : RoleRegistry) (user : UserId) : List String := (g.assignments.get? user).getD []

/-- Gives a role to a user, if there is such a role. A role is given once. -/
def assign (g : RoleRegistry) (user : UserId) (name : String) : Except Refusal RoleRegistry :=
  if g.roles.contains name then
    let names := g.rolesOf user
    .ok { g with
      assignments := g.assignments.insert user (if name ∈ names then names else names ++ [name]) }
  else .error (.unknownRole name)

def unassign (g : RoleRegistry) (user : UserId) (name : String) : RoleRegistry :=
  match g.assignments.get? user with
  | some names => { g with assignments := g.assignments.insert user (names.filter (· != name)) }
  | none => g

def clear (g : RoleRegistry) (user : UserId) : RoleRegistry :=
  { g with assignments := g.assignments.erase user }

theorem rolesOf_assign {g h : RoleRegistry} {user : UserId} {name : String}
    (e : g.assign user name = .ok h) (other : UserId) :
    h.rolesOf other =
      if other = user then
        if name ∈ g.rolesOf user then g.rolesOf user else g.rolesOf user ++ [name]
      else g.rolesOf other := by
  unfold assign at e
  split at e
  · cases e
    simp only [rolesOf, KeyMap.get?_insert]
    split <;> simp
  · cases e

theorem rolesOf_unassign (g : RoleRegistry) (user : UserId) (name : String) (other : UserId) :
    (g.unassign user name).rolesOf other =
      if other = user then (g.rolesOf user).filter (· != name) else g.rolesOf other := by
  unfold unassign
  split
  · rename_i names h
    simp only [rolesOf, KeyMap.get?_insert, h]
    split <;> simp
  · rename_i h
    split
    · rename_i e
      simp [rolesOf, e, h]
    · rfl

theorem rolesOf_clear (g : RoleRegistry) (user other : UserId) :
    (g.clear user).rolesOf other = if other = user then [] else g.rolesOf other := by
  simp only [rolesOf, clear, KeyMap.get?_erase]
  split <;> rfl

/-! ## Decisions -/

/-- The roles of a user that are there. -/
def activeRoles (g : RoleRegistry) (user : UserId) : List Role :=
  (g.rolesOf user).filterMap g.role?

/-- All permissions of a user's roles. -/
def permissionsOf (g : RoleRegistry) (user : UserId) : KeySet Permission :=
  KeySet.ofList ((g.activeRoles user).flatMap fun r => KeySet.toList r.permissions)

def allows (g : RoleRegistry) (user : UserId) (resource action : String) : Bool :=
  (g.activeRoles user).any (·.grants resource action)

def allowsAny (g : RoleRegistry) (user : UserId) (wanted : List Permission) : Bool :=
  wanted.any fun p => g.allows user p.resource p.action

def allowsAll (g : RoleRegistry) (user : UserId) (wanted : List Permission) : Bool :=
  wanted.all fun p => g.allows user p.resource p.action

/-- The decision, with a denial as a refusal. -/
def check (g : RoleRegistry) (user : UserId) (resource action : String) : Except Refusal Unit :=
  if g.allows user resource action then .ok ()
  else .error (.permissionDenied user resource action)

end RoleRegistry

end Warrant
