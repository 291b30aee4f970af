-- The registry after any history of calls. A name is a role while the newest
-- definition or deletion of it is a definition. A user has the names that were
-- given and not taken back, in the order of their first gift. So a permission
-- holds for a user by the newest definition of a name that the user has.
--
-- Roles and assignments go their own ways: what a user has does not depend on
-- later definitions, and what a name means does not depend on who has it.
import Mathlib.Data.List.Induction
import Warrant.Roles.Registry

namespace Warrant

/-! ## Names without repetition -/

theorem eraseDups_snoc (l : List String) (a : String) :
    (l ++ [a]).eraseDups = if a ∈ l then l.eraseDups else l.eraseDups ++ [a] := by
  rw [List.eraseDups_append, List.cons_removeAll]
  split
  · rename_i h
    rw [if_neg (by simpa using h)]
    rfl
  · rename_i h
    rw [if_pos (by simpa using h), List.nil_removeAll]
    simp

theorem nodup_eraseDups (l : List String) : l.eraseDups.Nodup := by
  induction l using List.reverseRecOn with
  | nil => exact List.nodup_nil
  | append_singleton l a ih =>
    rw [eraseDups_snoc]
    split
    · exact ih
    · rename_i h
      have hlast : a ∉ l.eraseDups := fun hm => h (List.mem_eraseDups.1 hm)
      exact List.nodup_append.2 ⟨ih, by simp, fun x hx y hy hxy => by simp_all⟩

theorem eraseDups_filter (keep : String → Bool) (l : List String) :
    (l.filter keep).eraseDups = l.eraseDups.filter keep := by
  induction l using List.reverseRecOn with
  | nil => rfl
  | append_singleton l a ih =>
    rw [List.filter_append, eraseDups_snoc]
    cases ha : keep a with
    | false =>
      have hnone : [a].filter keep = [] := by simp [ha]
      rw [hnone, List.append_nil, ih]
      split
      · rfl
      · rw [List.filter_append, hnone, List.append_nil]
    | true =>
      have hone : [a].filter keep = [a] := by simp [ha]
      rw [hone, eraseDups_snoc, ih]
      by_cases hm : a ∈ l
      · rw [if_pos (List.mem_filter.2 ⟨hm, ha⟩), if_pos hm]
      · rw [if_neg fun hf => hm (List.mem_filter.1 hf).1, if_neg hm, List.filter_append, hone]

namespace RoleRegistry

/-! ## Calls and their answers -/

inductive Call
  | add (name : String) (permissions : List Permission)
  | delete (name : String)
  | assign (user : UserId) (name : String)
  | unassign (user : UserId) (name : String)
  | clear (user : UserId)

/-- A call as its caller sees it. Only the gift of a role has an answer. -/
inductive Event
  | add (name : String) (permissions : List Permission)
  | delete (name : String)
  | assign (user : UserId) (name : String) (answer : Except Refusal Unit)
  | unassign (user : UserId) (name : String)
  | clear (user : UserId)

/-- The registry after a call, and what the log says of it. A gift that is
refused changes nothing. -/
def step (g : RoleRegistry) : Call → RoleRegistry × Event
  | .add name permissions => (g.add name permissions, .add name permissions)
  | .delete name => (g.delete name, .delete name)
  | .assign user name =>
    match g.assign user name with
    | .ok h => (h, .assign user name (.ok ()))
    | .error r => (g, .assign user name (.error r))
  | .unassign user name => (g.unassign user name, .unassign user name)
  | .clear user => (g.clear user, .clear user)

/-- A registry, and what happened on it, the oldest first. -/
structure Run where
  registry : RoleRegistry
  log : List Event

def Run.next (r : Run) (c : Call) : Run :=
  ⟨(r.registry.step c).1, r.log ++ [(r.registry.step c).2]⟩

/-- The run of some calls on an empty registry, the oldest first. -/
def run (calls : List Call) : Run := calls.foldl Run.next ⟨empty, []⟩

theorem run_snoc (calls : List Call) (c : Call) : run (calls ++ [c]) = (run calls).next c := by
  rw [run, List.foldl_append]
  rfl

/-! ## What a log says -/

/-- What an event makes of a name: a role with these permissions, or no role. -/
def Event.meaning? (name : String) : Event → Option (Option (List Permission))
  | .add n permissions => if n = name then some (some permissions) else none
  | .delete n => if n = name then some none else none
  | _ => none

/-- The permissions of a name by the newest event that defines or deletes it.
A name that was never defined has none. -/
def defined? (name : String) (log : List Event) : Option (List Permission) :=
  (log.reverse.findSome? (·.meaning? name)).join

/-- The name means a role that grants an action on a resource. -/
def Means (log : List Event) (name resource action : String) : Prop :=
  ∃ permissions, defined? name log = some permissions ∧
    ∃ p ∈ permissions, p.grants resource action = true

/-- The event takes a name from a user. -/
def Event.withdraws (user : UserId) (name : String) : Event → Bool
  | .unassign u n => u = user && n = name
  | .clear u => u = user
  | _ => false

/-- The names that were given to a user and not taken back later, the oldest
gift first. A name that was given twice stands twice. -/
def held (user : UserId) : List Event → List String
  | [] => []
  | .assign u n (.ok ()) :: later =>
    if u = user ∧ later.any (·.withdraws user n) = false then n :: held user later
    else held user later
  | _ :: later => held user later

theorem defined?_snoc (name : String) (log : List Event) (e : Event) :
    defined? name (log ++ [e]) = (e.meaning? name).getD (defined? name log) := by
  rw [defined?, List.reverse_append, List.reverse_singleton, List.singleton_append,
    List.findSome?_cons]
  cases e.meaning? name <;> rfl

theorem means_snoc_delete {log : List Event} {name other resource action : String} :
    Means (log ++ [.delete name]) other resource action ↔
      other ≠ name ∧ Means log other resource action := by
  unfold Means
  rw [defined?_snoc, Event.meaning?]
  by_cases hn : name = other
  · simp [hn]
  · simp [hn, Ne.symm hn]

theorem means_snoc_add {log : List Event} {name other resource action : String}
    {permissions : List Permission} :
    Means (log ++ [.add name permissions]) other resource action ↔
      other = name ∧ (∃ p ∈ permissions, p.grants resource action = true) ∨
        other ≠ name ∧ Means log other resource action := by
  unfold Means
  rw [defined?_snoc, Event.meaning?]
  by_cases hn : name = other
  · simp [hn]
  · simp [hn, Ne.symm hn]

theorem held_snoc (user : UserId) (log : List Event) (e : Event) :
    held user (log ++ [e]) =
      (held user log).filter (fun n => !e.withdraws user n) ++ held user [e] := by
  induction log with
  | nil => rfl
  | cons d later ih =>
    cases d with
    | assign u n answer =>
      cases answer with
      | error r => exact ih
      | ok =>
        simp only [List.cons_append, held, List.any_append, ih]
        by_cases hu : u = user
        · cases hl : later.any (·.withdraws user n) with
          | true => simp
          | false => cases he : e.withdraws user n <;> simp [he, hu]
        · simp [hu]
    | _ => exact ih

/-- An event that takes nothing from a user keeps all that the user has. -/
theorem held_snoc_of_kept {user : UserId} {e : Event} (log : List Event)
    (he : ∀ name, e.withdraws user name = false) :
    held user (log ++ [e]) = held user log ++ held user [e] := by
  rw [held_snoc, List.filter_eq_self.2 fun name _ => by rw [he name]; rfl]

theorem any_withdraws_eq_false_iff {user : UserId} {name : String} {later : List Event} :
    later.any (·.withdraws user name) = false ↔
      .unassign user name ∉ later ∧ .clear user ∉ later := by
  rw [List.any_eq_false]
  constructor
  · intro h
    exact ⟨fun hm => h _ hm (by simp [Event.withdraws]),
      fun hm => h _ hm (by simp [Event.withdraws])⟩
  · rintro ⟨hone, hall⟩ e he hw
    cases e with
    | unassign u n =>
      obtain ⟨rfl, rfl⟩ : u = user ∧ n = name := by simpa [Event.withdraws] using hw
      exact hone he
    | clear u =>
      obtain rfl : u = user := by simpa [Event.withdraws] using hw
      exact hall he
    | _ => cases hw

/-- A user has a name by a gift after which nothing took it back. -/
theorem mem_held_iff {user : UserId} {name : String} {log : List Event} :
    name ∈ held user log ↔
      ∃ earlier later, log = earlier ++ .assign user name (.ok ()) :: later ∧
        .unassign user name ∉ later ∧ .clear user ∉ later := by
  constructor
  · intro h
    induction log with
    | nil => cases h
    | cons e log ih =>
      have hrest : name ∈ held user log →
          ∃ earlier later, e :: log = earlier ++ .assign user name (.ok ()) :: later ∧
            .unassign user name ∉ later ∧ .clear user ∉ later := by
        intro hm
        obtain ⟨earlier, later, rfl, hkept⟩ := ih hm
        exact ⟨e :: earlier, later, rfl, hkept⟩
      cases e with
      | assign u n answer =>
        cases answer with
        | error r => exact hrest h
        | ok =>
          unfold held at h
          split at h
          · rename_i hnew
            obtain ⟨rfl, hkept⟩ := hnew
            rcases List.mem_cons.1 h with rfl | hm
            · exact ⟨[], log, rfl, any_withdraws_eq_false_iff.1 hkept⟩
            · exact hrest hm
          · exact hrest h
      | _ => exact hrest h
  · rintro ⟨earlier, later, rfl, hkept⟩
    induction earlier with
    | nil =>
      rw [List.nil_append, held, if_pos ⟨rfl, any_withdraws_eq_false_iff.2 hkept⟩]
      exact List.mem_cons_self
    | cons e earlier ih =>
      cases e with
      | assign u n answer =>
        cases answer with
        | error r => exact ih
        | ok =>
          rw [List.cons_append, held]
          split
          · exact List.mem_cons_of_mem n ih
          · exact ih
      | _ => exact ih

/-! ## What a registry holds -/

/-- The registry holds what the log says. -/
structure Tells (log : List Event) (g : RoleRegistry) : Prop where
  roles : ∀ name, g.roles.get? name = (defined? name log).map KeySet.ofList
  rolesOf : ∀ user, g.rolesOf user = (held user log).eraseDups

variable {g h : RoleRegistry} {log : List Event} {user : UserId} {name : String}

theorem tells_empty : Tells [] empty := ⟨fun _ => rfl, fun _ => rfl⟩

theorem Tells.contains (t : Tells log g) (name : String) :
    g.roles.contains name = (defined? name log).isSome := by
  rw [KeyMap.contains, t.roles, Option.isSome_map]

/-! ## One call -/

theorem roles_assign (e : g.assign user name = .ok h) : h.roles = g.roles := by
  unfold assign at e
  split at e
  · cases e
    rfl
  · cases e

theorem roles_unassign (g : RoleRegistry) (user : UserId) (name : String) :
    (g.unassign user name).roles = g.roles := by
  unfold unassign
  split <;> rfl

theorem assign_refused (user : UserId) (hn : g.roles.contains name = false) :
    g.assign user name = .error (.unknownRole name) := by
  simp [assign, hn]

theorem assign_accepted (user : UserId) (hn : g.roles.contains name = true) :
    ∃ h, g.assign user name = .ok h := by
  simp [assign, hn]

/-- An event that defines nothing leaves all meanings as they are. -/
theorem Tells.roles_snoc (t : Tells log g) {e : Event} (he : ∀ name, e.meaning? name = none)
    (hg : h.roles = g.roles) (name : String) :
    h.roles.get? name = (defined? name (log ++ [e])).map KeySet.ofList := by
  rw [hg, t.roles, defined?_snoc, he]
  rfl

/-- An event that neither gives nor takes leaves what the user has as it is. -/
theorem Tells.rolesOf_snoc (t : Tells log g) {e : Event} (hw : ∀ name, e.withdraws user name = false)
    (hgift : held user [e] = []) (hg : h.rolesOf user = g.rolesOf user) :
    h.rolesOf user = (held user (log ++ [e])).eraseDups := by
  rw [hg, t.rolesOf, held_snoc_of_kept log hw, hgift, List.append_nil]

theorem Tells.add (t : Tells log g) (name : String) (permissions : List Permission) :
    Tells (log ++ [.add name permissions]) (g.add name permissions) where
  roles other := by
    rw [RoleRegistry.add, KeyMap.get?_insert, defined?_snoc, Event.meaning?, t.roles]
    by_cases hn : name = other
    · rw [if_pos hn.symm, if_pos hn]
      rfl
    · rw [if_neg (Ne.symm hn), if_neg hn]
      rfl
  rolesOf _ := t.rolesOf_snoc (fun _ => rfl) rfl rfl

theorem Tells.delete (t : Tells log g) (name : String) :
    Tells (log ++ [.delete name]) (g.delete name) where
  roles other := by
    rw [RoleRegistry.delete, KeyMap.get?_erase, defined?_snoc, Event.meaning?, t.roles]
    by_cases hn : name = other
    · rw [if_pos hn.symm, if_pos hn]
      rfl
    · rw [if_neg (Ne.symm hn), if_neg hn]
      rfl
  rolesOf _ := t.rolesOf_snoc (fun _ => rfl) rfl rfl

theorem Tells.assign (t : Tells log g) (e : g.assign user name = .ok h) :
    Tells (log ++ [.assign user name (.ok ())]) h where
  roles := t.roles_snoc (fun _ => rfl) (roles_assign e)
  rolesOf other := by
    by_cases hu : user = other
    · subst hu
      have hgift : held user [.assign user name (.ok ())] = [name] := by simp [held]
      rw [rolesOf_assign e, if_pos rfl, t.rolesOf, held_snoc_of_kept log fun _ => rfl, hgift,
        eraseDups_snoc]
      simp only [List.mem_eraseDups]
    · refine t.rolesOf_snoc (fun _ => rfl) (by simp [held, hu]) ?_
      rw [rolesOf_assign e, if_neg (Ne.symm hu)]

theorem Tells.refuse (t : Tells log g) (user : UserId) (name : String) (r : Refusal) :
    Tells (log ++ [.assign user name (.error r)]) g where
  roles := t.roles_snoc (fun _ => rfl) rfl
  rolesOf _ := t.rolesOf_snoc (fun _ => rfl) rfl rfl

theorem Tells.unassign (t : Tells log g) (user : UserId) (name : String) :
    Tells (log ++ [.unassign user name]) (g.unassign user name) where
  roles := t.roles_snoc (fun _ => rfl) (roles_unassign g user name)
  rolesOf other := by
    by_cases hu : user = other
    · subst hu
      have hgift : held user [.unassign user name] = [] := rfl
      rw [rolesOf_unassign, if_pos rfl, t.rolesOf, held_snoc, hgift, List.append_nil,
        ← eraseDups_filter]
      congr 1
      refine List.filter_congr fun n _ => ?_
      rw [Event.withdraws, decide_eq_true rfl, Bool.true_and, bne, beq_eq_decide,
        decide_eq_decide.2 eq_comm]
    · refine t.rolesOf_snoc (fun n => by simp [Event.withdraws, hu]) rfl ?_
      rw [rolesOf_unassign, if_neg (Ne.symm hu)]

theorem Tells.clear (t : Tells log g) (user : UserId) :
    Tells (log ++ [.clear user]) (g.clear user) where
  roles := t.roles_snoc (fun _ => rfl) rfl
  rolesOf other := by
    by_cases hu : user = other
    · subst hu
      have hgift : held user [.clear user] = [] := rfl
      have htaken : (held user log).filter (fun n => !Event.withdraws user n (.clear user)) = [] := by
        simp [Event.withdraws]
      rw [rolesOf_clear, if_pos rfl, held_snoc, htaken, hgift]
      rfl
    · refine t.rolesOf_snoc (fun n => by simp [Event.withdraws, hu]) rfl ?_
      rw [rolesOf_clear, if_neg (Ne.symm hu)]

theorem tells_step (t : Tells log g) (c : Call) : Tells (log ++ [(g.step c).2]) (g.step c).1 := by
  cases c with
  | add name permissions => exact t.add name permissions
  | delete name => exact t.delete name
  | assign user name =>
    unfold step
    dsimp only
    cases e : g.assign user name with
    | ok h => exact t.assign e
    | error r => exact t.refuse user name r
  | unassign user name => exact t.unassign user name
  | clear user => exact t.clear user

/-! ## Whole runs -/

theorem tells_run (calls : List Call) : Tells (run calls).log (run calls).registry := by
  induction calls using List.reverseRecOn with
  | nil => exact tells_empty
  | append_singleton calls c ih =>
    rw [run_snoc]
    exact tells_step ih c

/-- A permission holds for a user if a name that the user has means a role that
grants it. -/
theorem Tells.allows_iff (t : Tells log g) {resource action : String} :
    g.allows user resource action = true ↔
      ∃ name ∈ g.rolesOf user, Means log name resource action := by
  simp only [allows, activeRoles, List.any_eq_true, List.mem_filterMap, role?, t.roles]
  constructor
  · rintro ⟨role, ⟨name, hname, hrole⟩, hgrants⟩
    obtain ⟨set, hset, rfl⟩ := Option.map_eq_some_iff.1 hrole
    obtain ⟨permissions, hdefined, rfl⟩ := Option.map_eq_some_iff.1 hset
    obtain ⟨p, hp, hg⟩ := Role.grants_iff.1 hgrants
    exact ⟨name, hname, permissions, hdefined, p, KeySet.contains_ofList.1 hp, hg⟩
  · rintro ⟨name, hname, permissions, hdefined, p, hp, hg⟩
    refine ⟨⟨name, KeySet.ofList permissions⟩, ⟨name, hname, by rw [hdefined]; rfl⟩, ?_⟩
    exact Role.grants_iff.2 ⟨p, KeySet.contains_ofList.2 hp, hg⟩

/-- The list of all roles has each defined name once, with its permissions. -/
theorem Tells.mem_list_iff (t : Tells log g) {role : Role} :
    role ∈ g.list ↔ ∃ permissions, defined? role.name log = some permissions ∧
      role.permissions = KeySet.ofList permissions := by
  have hentry : role ∈ g.list ↔ (role.name, role.permissions) ∈ g.roles.entries := by
    simp only [list, List.mem_map, Prod.exists]
    constructor
    · rintro ⟨name, set, he, rfl⟩
      exact he
    · exact fun he => ⟨_, _, he, rfl⟩
  rw [hentry, KeyMap.mem_entries_iff, t.roles, Option.map_eq_some_iff]
  simp only [eq_comm]

theorem pairwise_list (g : RoleRegistry) : g.list.Pairwise fun a b => a.name < b.name := by
  rw [list, List.pairwise_map]
  exact g.roles.ordered.imp fun h => by simpa [KeyOrder.before] using h

/-! ## One user among others -/

/-- The call defines or deletes a role, or is about this user. -/
def Call.concerns (user : UserId) : Call → Bool
  | .assign u _ => u = user
  | .unassign u _ => u = user
  | .clear u => u = user
  | _ => true

/-- The two registries are one for a user. -/
structure Alike (user : UserId) (g h : RoleRegistry) : Prop where
  roles : g.roles = h.roles
  rolesOf : g.rolesOf user = h.rolesOf user

theorem alike_step_of_other {c : Call} (hc : c.concerns user = false) :
    Alike user (g.step c).1 g := by
  cases c with
  | assign u n =>
    have hu : user ≠ u := fun e => by simp [Call.concerns, e] at hc
    unfold step
    dsimp only
    cases e : g.assign u n with
    | ok h => exact ⟨roles_assign e, by rw [rolesOf_assign e, if_neg hu]⟩
    | error r => exact ⟨rfl, rfl⟩
  | unassign u n =>
    have hu : user ≠ u := fun e => by simp [Call.concerns, e] at hc
    exact ⟨roles_unassign g u n, by rw [step, rolesOf_unassign, if_neg hu]⟩
  | clear u =>
    have hu : user ≠ u := fun e => by simp [Call.concerns, e] at hc
    exact ⟨rfl, by rw [step, rolesOf_clear, if_neg hu]⟩
  | _ => cases hc

theorem Alike.step (a : Alike user g h) (c : Call) : Alike user (g.step c).1 (h.step c).1 := by
  obtain ⟨hroles, hnames⟩ := a
  cases c with
  | add n permissions => exact ⟨by simp [RoleRegistry.step, RoleRegistry.add, hroles], hnames⟩
  | delete n => exact ⟨by simp [RoleRegistry.step, RoleRegistry.delete, hroles], hnames⟩
  | assign u n =>
    simp only [RoleRegistry.step]
    cases hn : h.roles.contains n with
    | false =>
      rw [assign_refused u hn, assign_refused u (hroles ▸ hn)]
      exact ⟨hroles, hnames⟩
    | true =>
      have hn' : g.roles.contains n = true := hroles ▸ hn
      obtain ⟨h', eh⟩ := assign_accepted u hn
      obtain ⟨g', eg⟩ := assign_accepted u hn'
      rw [eh, eg]
      refine ⟨by rw [roles_assign eg, roles_assign eh, hroles], ?_⟩
      rw [rolesOf_assign eg, rolesOf_assign eh]
      split
      · rename_i hu
        rw [← hu, hnames]
      · exact hnames
  | unassign u n =>
    refine ⟨?_, ?_⟩
    · simp only [RoleRegistry.step, roles_unassign, hroles]
    · simp only [RoleRegistry.step, rolesOf_unassign]
      split
      · rename_i hu
        rw [← hu, hnames]
      · exact hnames
  | clear u =>
    refine ⟨hroles, ?_⟩
    simp only [RoleRegistry.step, rolesOf_clear, hnames]

theorem Alike.trans {k : RoleRegistry} (a : Alike user g h) (b : Alike user h k) :
    Alike user g k := ⟨a.roles.trans b.roles, a.rolesOf.trans b.rolesOf⟩

theorem Alike.allows (a : Alike user g h) (resource action : String) :
    g.allows user resource action = h.allows user resource action := by
  have hrole : g.role? = h.role? := funext fun name => by rw [role?, role?, a.roles]
  rw [RoleRegistry.allows, RoleRegistry.allows, activeRoles, activeRoles, a.rolesOf, hrole]

/-- The calls about other users can be left out. -/
theorem alike_run (calls : List Call) (user : UserId) :
    Alike user (run calls).registry (run (calls.filter (·.concerns user))).registry := by
  induction calls using List.reverseRecOn with
  | nil => exact ⟨rfl, rfl⟩
  | append_singleton calls c ih =>
    rw [run_snoc, List.filter_append]
    cases hc : c.concerns user with
    | true =>
      have hone : [c].filter (·.concerns user) = [c] := by simp [hc]
      rw [hone, run_snoc]
      exact ih.step c
    | false =>
      have hnone : [c].filter (·.concerns user) = [] := by simp [hc]
      rw [hnone, List.append_nil]
      exact (alike_step_of_other hc).trans ih

/-! ## The law -/

theorem run_delete (calls : List Call) (name : String) :
    run (calls ++ [.delete name]) =
      ⟨(run calls).registry.delete name, (run calls).log ++ [.delete name]⟩ := run_snoc ..

theorem run_add (calls : List Call) (name : String) (permissions : List Permission) :
    run (calls ++ [.add name permissions]) =
      ⟨(run calls).registry.add name permissions, (run calls).log ++ [.add name permissions]⟩ :=
  run_snoc ..

/-- A role can be given while its name is defined, and a gift that is refused
changes nothing. A user has each name once, from the first gift that nothing
took back, and it grants what its newest definition grants. So a deleted role is
suspended for all who have it, a new definition puts itself in its place, and
what happens to other users is of no account. All defined names are listed in
their order. -/
theorem a_name_grants_while_it_is_held_and_defined (calls : List Call) (user : UserId) :
    (∀ name, defined? name (run calls).log = none →
      (run calls).registry.assign user name = .error (.unknownRole name) ∧
      (run (calls ++ [.assign user name])).registry = (run calls).registry) ∧
    (∀ name permissions, defined? name (run calls).log = some permissions →
      ∃ h, (run calls).registry.assign user name = .ok h ∧
        run (calls ++ [.assign user name]) =
          ⟨h, (run calls).log ++ [.assign user name (.ok ())]⟩) ∧
    (run calls).registry.rolesOf user = (held user (run calls).log).eraseDups ∧
    ((run calls).registry.rolesOf user).Nodup ∧
    (∀ name, name ∈ (run calls).registry.rolesOf user ↔
      ∃ earlier later, (run calls).log = earlier ++ .assign user name (.ok ()) :: later ∧
        .unassign user name ∉ later ∧ .clear user ∉ later) ∧
    (∀ resource action, (run calls).registry.allows user resource action = true ↔
      ∃ name ∈ (run calls).registry.rolesOf user, Means (run calls).log name resource action) ∧
    (∀ name,
      (run (calls ++ [.delete name])).registry.rolesOf user =
        (run calls).registry.rolesOf user ∧
      ∀ resource action,
        (run (calls ++ [.delete name])).registry.allows user resource action = true ↔
          ∃ other ∈ (run calls).registry.rolesOf user,
            other ≠ name ∧ Means (run calls).log other resource action) ∧
    (∀ name permissions,
      (run (calls ++ [.add name permissions])).registry.rolesOf user =
        (run calls).registry.rolesOf user ∧
      ∀ resource action,
        (run (calls ++ [.add name permissions])).registry.allows user resource action = true ↔
          ∃ other ∈ (run calls).registry.rolesOf user,
            other = name ∧ (∃ p ∈ permissions, p.grants resource action = true) ∨
              other ≠ name ∧ Means (run calls).log other resource action) ∧
    Alike user (run calls).registry (run (calls.filter (·.concerns user))).registry ∧
    (∀ resource action, (run calls).registry.allows user resource action =
      (run (calls.filter (·.concerns user))).registry.allows user resource action) ∧
    ((run calls).registry.list.Pairwise fun a b => a.name < b.name) ∧
    ∀ role, role ∈ (run calls).registry.list ↔
      ∃ permissions, defined? role.name (run calls).log = some permissions ∧
        role.permissions = KeySet.ofList permissions := by
  have t := tells_run calls
  refine ⟨fun name hn => ?_, fun name permissions hn => ?_, t.rolesOf user, ?_, fun name => ?_,
    fun _ _ => t.allows_iff, fun name => ⟨?_, fun resource action => ?_⟩,
    fun name permissions => ⟨?_, fun resource action => ?_⟩, alike_run calls user,
    (alike_run calls user).allows, pairwise_list _, fun role => t.mem_list_iff⟩
  · have hrole : (run calls).registry.roles.contains name = false := by
      rw [t.contains, hn]
      rfl
    have e := assign_refused user hrole
    exact ⟨e, by rw [run_snoc, Run.next, step, e]⟩
  · have hrole : (run calls).registry.roles.contains name = true := by
      rw [t.contains, hn]
      rfl
    obtain ⟨h, e⟩ := assign_accepted user hrole
    exact ⟨h, e, by rw [run_snoc, Run.next, step, e]⟩
  · rw [t.rolesOf]
    exact nodup_eraseDups _
  · rw [t.rolesOf, List.mem_eraseDups]
    exact mem_held_iff
  · rw [run_delete]
    rfl
  · rw [run_delete, (t.delete name).allows_iff]
    simp only [means_snoc_delete]
    rfl
  · rw [run_add]
    rfl
  · rw [run_add, (t.add name permissions).allows_iff]
    simp only [means_snoc_add]
    rfl

end RoleRegistry

end Warrant
