-- What of a loader an authority heeds. Decisions by policies heed the
-- attributes, but the id is the one that was asked for, whatever the loader
-- says. Decisions by roles heed nothing of it. And an opaque token tells the
-- user by itself, so the loader adds a name and roles only.
--
-- A loader runs in a context of its own, so two runs are compared as
-- computations, with all that they do there.
import Mathlib.Control.Traversable.Basic
import Warrant.Authority
import Warrant.Proofs.OAuth.Run

namespace Warrant

/-! ## Answers of a loader -/

/-- The attributes of the user that was found. Without a user there are none. -/
def loaded (found : Option User) : Attributes := (found.map User.attributes).getD .empty

/-- What a loader tells about the attributes. It does not tell the id. -/
def told (found : Option User) : Attributes := (loaded found).erase "id"

/-- Two answers tell the same if their attributes agree apart from the id. -/
theorem told_eq_iff {found found' : Option User} :
    told found = told found' ↔
      ∀ key, key ≠ "id" → (loaded found).get? key = (loaded found').get? key := by
  unfold told
  constructor
  · intro h key hkey
    have hget := congrArg (·.get? key) h
    simpa [KeyMap.get?_erase, hkey] using hget
  · intro h
    apply KeyMap.ext
    intro key
    rw [KeyMap.get?_erase, KeyMap.get?_erase]
    by_cases hkey : key = "id"
    · rw [if_pos hkey, if_pos hkey]
    · rw [if_neg hkey, if_neg hkey]
      exact h key hkey

/-- The id that a user goes by takes the place of any other. -/
theorem insert_told (found : Option User) (id : Value) :
    (told found).insert "id" id = (loaded found).insert "id" id := by
  apply KeyMap.ext
  intro key
  unfold told
  rw [KeyMap.get?_insert, KeyMap.get?_insert, KeyMap.get?_erase]
  by_cases hkey : key = "id"
  · rw [if_pos hkey, if_pos hkey]
  · rw [if_neg hkey, if_neg hkey, if_neg hkey]

section

variable {m : Type → Type} [Monad m]

/-- The loader finds nobody. It is missing, or it fails. -/
inductive FindsNobody (user : UserId) : Option (Loader m) → Prop
  | missing : FindsNobody user none
  | fails {load : Loader m} (r : Refusal) : load user = pure (.error r) →
      FindsNobody user (some load)

variable [LawfulMonad m]

theorem FindsNobody.loadUser {user : UserId} {loader : Option (Loader m)}
    (h : FindsNobody user loader) : loadUser loader user = pure none := by
  cases h with
  | missing => rfl
  | fails r hload => simp [Warrant.loadUser, hload, Except.toOption]

theorem loadUser_of_found {load : Loader m} {user : UserId} {found : User}
    (h : load user = pure (.ok found)) : loadUser (some load) user = pure (some found) := by
  simp [loadUser, h, Except.toOption]

namespace Authority

variable {a : Authority}

/-! ## Decisions -/

theorem check_policies {store : PolicyStore} (h : a.permissions = some (.policies store))
    (loader : Option (Loader m)) (user : UserId) (resource action : String)
    (attributes : Attributes) :
    a.check loader user resource action attributes =
      (fun found => store.check ((loaded found).insert "id" (.ofWord user)) attributes action) <$>
        loadUser loader user := by
  unfold check
  rw [h]
  exact bind_pure_comp _ _

/-- A decision by policies depends on what the loader tells, and on nothing
else of it. -/
theorem check_of_told {store : PolicyStore} (h : a.permissions = some (.policies store))
    (loader : Option (Loader m)) (user : UserId) (resource action : String)
    (attributes : Attributes) :
    a.check loader user resource action attributes =
      (fun t : Attributes => store.check (t.insert "id" (.ofWord user)) attributes action) <$>
        (told <$> loadUser loader user) := by
  rw [check_policies h]
  simp only [Functor.map_map, insert_told]

omit [LawfulMonad m] in
theorem check_roles {registry : RoleRegistry} (h : a.permissions = some (.roles registry))
    (loader : Option (Loader m)) (user : UserId) (resource action : String)
    (attributes : Attributes) :
    a.check loader user resource action attributes = pure (registry.check user resource action) := by
  unfold check
  rw [h]

/-! ## Opaque tokens -/

variable {server : OAuth.Server} {now : Instant} {token : String}

omit [LawfulMonad m] in
theorem validate_refused (h : a.credentials = .oauth server) {f : Failure}
    (hf : server.validate now token = .error f) (loader : Option (Loader m)) :
    a.validate loader now token = pure (.error f) := by
  unfold validate
  rw [h]
  dsimp only
  rw [hf]

theorem validate_found (h : a.credentials = .oauth server) {pair : OAuth.TokenPair}
    (hp : server.validate now token = .ok pair) (loader : Option (Loader m)) :
    a.validate loader now token =
      (fun found => .ok ⟨pair.subject, (found.map User.name).getD "", (found.map User.roles).getD []⟩)
        <$> loadUser loader pair.subject := by
  unfold validate
  rw [h]
  dsimp only
  rw [hp, ← bind_pure_comp]
  dsimp only
  congr 1
  funext found
  cases found with
  | none => rfl
  | some user => rfl

/-! ## The law -/

/-- In a decision by policies two loaders that tell the same lead to the same
answer, whatever the name of the resource, and whatever ids, names and roles
they give. The answer is the one of the policies for the attributes that were
loaded, with the id that was asked for in the place of any other. A loader that
finds nobody is like one that finds someone without attributes. In a decision by
roles neither the loader nor the attributes count. An opaque token is refused
whoever the loader is, or it is for the subject that the server knows, and only
the name and the roles are loaded. -/
theorem a_loader_tells_attributes_and_no_identity (a : Authority) :
    (∀ store, a.permissions = some (.policies store) →
      ∀ (user : UserId) (action : String) (attributes : Attributes),
        (∀ (l l' : Option (Loader m)) (r r' : String),
          told <$> loadUser l user = told <$> loadUser l' user →
            a.check l user r action attributes = a.check l' user r' action attributes) ∧
        (∀ (l : Option (Loader m)) (r : String),
          a.check l user r action attributes =
            (fun found => store.check ((loaded found).insert "id" (.ofWord user)) attributes action)
              <$> loadUser l user) ∧
        (∀ (l : Option (Loader m)) (r : String), FindsNobody user l →
          a.check l user r action attributes =
            pure (store.check (KeyMap.empty.insert "id" (.ofWord user)) attributes action)) ∧
        ∀ (load : Loader m) (found : User) (r : String), load user = pure (.ok found) →
          found.attributes = .empty → a.check (some load) user r action attributes =
            pure (store.check (KeyMap.empty.insert "id" (.ofWord user)) attributes action)) ∧
    (∀ registry, a.permissions = some (.roles registry) →
      ∀ (l l' : Option (Loader m)) (user : UserId) (resource action : String)
        (attributes attributes' : Attributes),
        a.check l user resource action attributes = a.check l' user resource action attributes') ∧
    ∀ server, a.credentials = .oauth server → ∀ (now : Instant) (token : String),
      (∀ f, server.validate now token = .error f →
        ∀ l : Option (Loader m), a.validate l now token = pure (.error f)) ∧
      ∀ pair, server.validate now token = .ok pair → ∀ l : Option (Loader m),
        a.validate l now token =
          (fun found => .ok ⟨pair.subject, (found.map User.name).getD "",
            (found.map User.roles).getD []⟩) <$> loadUser l pair.subject ∧
        (FindsNobody pair.subject l → a.validate l now token = pure (.ok ⟨pair.subject, "", []⟩)) := by
  refine ⟨?_, ?_, ?_⟩
  · intro store h user action attributes
    refine ⟨?_, ?_, ?_, ?_⟩
    · intro l l' r r' htold
      rw [check_of_told h, check_of_told h, htold]
    · intro l r
      exact check_policies h l user r action attributes
    · intro l r hnobody
      rw [check_policies h, hnobody.loadUser, map_pure]
      rfl
    · intro load found r hfound hblank
      rw [check_policies h, loadUser_of_found hfound, map_pure]
      rw [← hblank]
      rfl
  · intro registry h l l' user resource action attributes attributes'
    rw [check_roles h, check_roles h]
  · intro server h now token
    refine ⟨fun f hf l => validate_refused h hf l, ?_⟩
    intro pair hp l
    refine ⟨validate_found h hp l, ?_⟩
    intro hnobody
    rw [validate_found h hp, hnobody.loadUser, map_pure]
    rfl

end Authority

end

/-- User 7 may open the gate. -/
def gate : PolicyStore :=
  ⟨[⟨"gate", "Gate", [⟨"id", .int 7⟩], [], KeySet.ofList ["open"], .allow, [], 0⟩]⟩

/-- A loader that gives each user the same name and the id of user 7. -/
def forger : Loader Id := fun _ =>
  .ok ⟨7, "Root", ["admin"], KeyMap.empty.insert "id" (.int 7)⟩

theorem told_forger (user : UserId) :
    told <$> loadUser (some forger) user = told <$> loadUser (none : Option (Loader Id)) user := by
  have htold : told (some ⟨7, "Root", ["admin"], KeyMap.empty.insert "id" (.int 7)⟩) = told none := by
    rw [told_eq_iff]
    intro key hkey
    simp [loaded, KeyMap.get?_insert, hkey]
  exact htold

/-- The forger opens the gate to user 7 only, and it does not change whose the
token of a visitor is. -/
theorem a_forger_does_not_open_the_gate :
    let a : Authority := ⟨.oauth (OAuth.run {} OAuth.visit).server, some (.policies gate)⟩
    let b : Authority := ⟨.oauth (OAuth.run {} OAuth.visit).server, some (.roles .empty)⟩
    (a.check (some forger) 8 "gate" "open" .empty : Id _) = .error (.accessDenied none) ∧
      (a.check (some forger) 7 "gate" "open" .empty : Id _) = .ok () ∧
      (b.check (some forger) 7 "gate" "open" .empty : Id _) =
        b.check none 7 "gate" "open" (KeyMap.empty.insert "id" (.int 8)) ∧
      (a.validate (some forger) ⟨100, 0⟩ "access 1" : Id _) = .ok ⟨7, "Root", ["admin"]⟩ ∧
      (a.validate none ⟨100, 0⟩ "access 1" : Id _) = .ok ⟨7, "", []⟩ := by
  intro a b
  obtain ⟨hpolicies, _, hoauth⟩ := Authority.a_loader_tells_attributes_and_no_identity (m := Id) a
  obtain ⟨_, hroles, _⟩ := Authority.a_loader_tells_attributes_and_no_identity (m := Id) b
  have hsame : ∀ user, (a.check (some forger) user "gate" "open" .empty : Id _) =
      a.check none user "" "open" .empty := fun user =>
    (hpolicies gate rfl user "open" .empty).1 (some forger) none "gate" "" (told_forger user)
  have hnobody : ∀ user, (a.check none user "" "open" .empty : Id _) =
      gate.check (KeyMap.empty.insert "id" (.ofWord user)) .empty "open" := fun user =>
    (hpolicies gate rfl user "open" .empty).2.2.1 none "" .missing
  have hpair : ∃ pair, (OAuth.run {} OAuth.visit).server.validate ⟨100, 0⟩ "access 1" = .ok pair ∧
      pair.subject = 7 := ⟨_, rfl, rfl⟩
  obtain ⟨pair, hp, hsubject⟩ := hpair
  have hvalidate := (hoauth _ rfl ⟨100, 0⟩ "access 1").2 pair hp
  rw [hsubject] at hvalidate
  refine ⟨?_, ?_, ?_, ?_, ?_⟩
  · rw [hsame, hnobody]
    rfl
  · rw [hsame, hnobody]
    rfl
  · exact hroles _ rfl _ _ _ _ _ _ _
  · exact (hvalidate (some forger)).1
  · exact (hvalidate none).2 .missing

end Warrant
