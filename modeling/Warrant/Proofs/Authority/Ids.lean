-- What policies make of the id of a user. An id that fits a signed word is an
-- integer, and policies compare it as one. A larger id is a floating point
-- number, so it counts as the nearest multiple of 2048. An id of one kind and one
-- of the other are never equal, and none of them is the larger one.
--
-- The id of a request is the one that was asked for, whatever the loader says. So
-- a condition on it comes down to the comparison of two ids.
import Warrant.Proofs.Authority.Influence
import Warrant.Proofs.Binary64
import Warrant.Proofs.Policy.Knowledge

namespace Warrant

open Binary64 (nearest)

variable {u v : UserId}

/-! ## Two ids -/

namespace Value

theorem ofWord_small (h : u.toNat < Word.half) : ofWord u = .int (Int64.ofNat u.toNat) := if_pos h

theorem ofWord_large (h : Word.half ≤ u.toNat) : ofWord u = .float (.ofNat u.toNat) :=
  if_neg (Nat.not_lt.2 h)

theorem toInt_small (h : u.toNat < Word.half) : (Int64.ofNat u.toNat).toInt = u.toNat :=
  Int64.toInt_ofNat_of_lt h

theorem same_small (hu : u.toNat < Word.half) (hv : v.toNat < Word.half) :
    (ofWord u).same (ofWord v) = true ↔ u.toNat = v.toNat := by
  rw [ofWord_small hu, ofWord_small hv, same, beq_iff_eq, ← Int64.toInt_inj, toInt_small hu,
    toInt_small hv]
  omega

theorem compare_small (hu : u.toNat < Word.half) (hv : v.toNat < Word.half) :
    (ofWord u).compare (ofWord v) = Ord.compare u.toNat v.toNat := by
  have heq : (u.toNat : Int) = v.toNat ↔ u.toNat = v.toNat := Int.natCast_inj
  rw [ofWord_small hu, ofWord_small hv, compare, toInt_small hu, toInt_small hv]
  simp only [Ord.compare, compareOfLessAndEq, Int.ofNat_lt, heq]

theorem compare_large (hu : Word.half ≤ u.toNat) (hv : Word.half ≤ v.toNat) :
    (ofWord u).compare (ofWord v) = Ord.compare (nearest u.toNat 2048) (nearest v.toNat 2048) := by
  rw [ofWord_large hu, ofWord_large hv, compare,
    Binary64.compare?_large hu u.toNat_lt hv v.toNat_lt, Option.getD_some]

theorem same_large (hu : Word.half ≤ u.toNat) (hv : Word.half ≤ v.toNat) :
    (ofWord u).same (ofWord v) = true ↔ nearest u.toNat 2048 = nearest v.toNat 2048 := by
  rw [ofWord_large hu, ofWord_large hv, same, Binary64.same,
    Binary64.compare?_large hu u.toNat_lt hv v.toNat_lt, beq_iff_eq, Option.some_inj,
    compare_eq_iff_eq]

theorem kinds_mixed (h : u.toNat < Word.half ↔ Word.half ≤ v.toNat) :
    ∃ n x, (ofWord u = .int n ∧ ofWord v = .float x) ∨
      (ofWord u = .float x ∧ ofWord v = .int n) := by
  by_cases hu : u.toNat < Word.half
  · exact ⟨_, _, .inl ⟨ofWord_small hu, ofWord_large (h.1 hu)⟩⟩
  · have hv := Nat.lt_of_not_le (mt h.2 hu)
    exact ⟨_, _, .inr ⟨ofWord_large (Nat.le_of_not_lt hu), ofWord_small hv⟩⟩

/-- Two ids of different kinds are not equal, and none is the larger one. -/
theorem same_mixed (h : u.toNat < Word.half ↔ Word.half ≤ v.toNat) :
    (ofWord u).same (ofWord v) = false := by
  obtain ⟨n, x, ⟨hu, hv⟩ | ⟨hu, hv⟩⟩ := kinds_mixed h
  · rw [hu, hv]
    rfl
  · rw [hu, hv]
    rfl

theorem compare_mixed (h : u.toNat < Word.half ↔ Word.half ≤ v.toNat) :
    (ofWord u).compare (ofWord v) = .eq := by
  obtain ⟨n, x, ⟨hu, hv⟩ | ⟨hu, hv⟩⟩ := kinds_mixed h
  · rw [hu, hv]
    rfl
  · rw [hu, hv]
    rfl

/-- An id is never a list, and no text. -/
theorem ofWord_number (v : UserId) : (∃ n, ofWord v = .int n) ∨ ∃ x, ofWord v = .float x := by
  unfold ofWord
  split
  · exact .inl ⟨_, rfl⟩
  · exact .inr ⟨_, rfl⟩

end Value

/-! ## Operators -/

/-- What an operator says of two numbers. No number is in a number, and none is a
part of one. -/
def Operator.Relates : Operator → Nat → Nat → Prop
  | .eq, a, b => a = b
  | .ne, a, b => a ≠ b
  | .gt, a, b => a > b
  | .lt, a, b => a < b
  | .ge, a, b => a ≥ b
  | .le, a, b => a ≤ b
  | .within, _, _ => False
  | .contains, _, _ => False

namespace Operator

theorem not_within_id (actual : Value) (v : UserId) :
    Operator.within.holds actual (.ofWord v) = false := by
  rcases Value.ofWord_number v with ⟨n, hn⟩ | ⟨x, hx⟩
  · rw [hn]
    rfl
  · rw [hx]
    rfl

theorem not_contains_id (actual : Value) (v : UserId) :
    Operator.contains.holds actual (.ofWord v) = false := by
  rcases Value.ofWord_number v with ⟨n, hn⟩ | ⟨x, hx⟩
  · rw [hn]
    cases actual <;> rfl
  · rw [hx]
    cases actual <;> rfl

/-- Two ids that are compared like two numbers are so with each operator. -/
theorem holds_iff_relates {a b : Nat}
    (hsame : (Value.ofWord u).same (.ofWord v) = true ↔ a = b)
    (hcompare : (Value.ofWord u).compare (.ofWord v) = Ord.compare a b) (o : Operator) :
    o.holds (.ofWord u) (.ofWord v) = true ↔ o.Relates a b := by
  cases o with
  | eq => exact hsame
  | ne => simp only [holds, Relates, Bool.not_eq_true', ← hsame, ne_eq, Bool.not_eq_true]
  | gt => simp only [holds, Relates, hcompare, beq_iff_eq, Nat.compare_eq_gt]
  | lt => simp only [holds, Relates, hcompare, beq_iff_eq, Nat.compare_eq_lt]
  | ge => simp only [holds, Relates, hcompare, bne_iff_ne, Nat.compare_ne_lt]
  | le => simp only [holds, Relates, hcompare, bne_iff_ne, Nat.compare_ne_gt]
  | within => simp only [not_within_id, Relates, Bool.false_eq_true]
  | contains => simp only [not_contains_id, Relates, Bool.false_eq_true]

/-- Of two ids of different kinds hold the operators that ask for no more than
that. -/
theorem holds_mixed (h : u.toNat < Word.half ↔ Word.half ≤ v.toNat) (o : Operator) :
    o.holds (.ofWord u) (.ofWord v) = true ↔ o = .ne ∨ o = .ge ∨ o = .le := by
  have hsame := Value.same_mixed h
  have hcompare := Value.compare_mixed h
  cases o with
  | within => simp [not_within_id]
  | contains => simp [not_contains_id]
  | _ => simp [holds, hsame, hcompare]

end Operator

/-! ## The id of a request -/

/-- The id is the one that was asked for. -/
theorem get?_subjectAttributes (u : UserId) (found : Option User) :
    (Authority.subjectAttributes u found).get? "id" = some (.ofWord u) := by
  unfold Authority.subjectAttributes
  rw [KeyMap.get?_insert, if_pos rfl]

theorem holds_id (o : Operator) (u : UserId) (operand : Value) (found : Option User)
    (resource : Attributes) :
    (⟨"subject.id", o, operand⟩ : Condition).holds
      (combine (Authority.subjectAttributes u found) resource) =
        o.holds (.ofWord u) operand := by
  have hget : (combine (Authority.subjectAttributes u found) resource).get? "subject.id" =
      some (.ofWord u) :=
    (get?_combine_subject _ resource "id").trans (get?_subjectAttributes u found)
  unfold Condition.holds
  dsimp only
  rw [hget]

theorem met_id (u v : UserId) (found : Option User) :
    (⟨"id", .ofWord v⟩ : Requirement).met (Authority.subjectAttributes u found) =
      (Value.ofWord u).same (.ofWord v) := by
  have hkey : "id" ≠ wildcard := by decide
  have htext : (Value.ofWord v).text? = none := by
    unfold Value.ofWord
    split
    · rfl
    · rfl
  unfold Requirement.met
  dsimp only
  rw [if_neg hkey, get?_subjectAttributes, htext]
  rfl

/-! ## What ids count as -/

/-- To policies the two ids are like two numbers: as values, in a condition on
the id of a request, and where the id is required. -/
structure CountAs (u v : UserId) (a b : Nat) : Prop where
  same : (Value.ofWord u).same (.ofWord v) = true ↔ a = b
  compare : (Value.ofWord u).compare (.ofWord v) = Ord.compare a b
  condition : ∀ (o : Operator) (found : Option User) (resource : Attributes),
    (⟨"subject.id", o, .ofWord v⟩ : Condition).holds
      (combine (Authority.subjectAttributes u found) resource) = true ↔ o.Relates a b
  requirement : ∀ found : Option User,
    (⟨"id", .ofWord v⟩ : Requirement).met (Authority.subjectAttributes u found) = true ↔ a = b

/-- To policies the two ids are of different kinds. -/
structure Unlike (u v : UserId) : Prop where
  same : (Value.ofWord u).same (.ofWord v) = false
  compare : (Value.ofWord u).compare (.ofWord v) = .eq
  condition : ∀ (o : Operator) (found : Option User) (resource : Attributes),
    (⟨"subject.id", o, .ofWord v⟩ : Condition).holds
      (combine (Authority.subjectAttributes u found) resource) = true ↔
        o = .ne ∨ o = .ge ∨ o = .le
  requirement : ∀ found : Option User,
    (⟨"id", .ofWord v⟩ : Requirement).met (Authority.subjectAttributes u found) = false

theorem CountAs.of_values {a b : Nat} (hsame : (Value.ofWord u).same (.ofWord v) = true ↔ a = b)
    (hcompare : (Value.ofWord u).compare (.ofWord v) = Ord.compare a b) : CountAs u v a b where
  same := hsame
  compare := hcompare
  condition o found resource := by
    rw [holds_id]
    exact Operator.holds_iff_relates hsame hcompare o
  requirement found := by
    rw [met_id]
    exact hsame

theorem countAs_small (hu : u.toNat < Word.half) (hv : v.toNat < Word.half) :
    CountAs u v u.toNat v.toNat :=
  .of_values (Value.same_small hu hv) (Value.compare_small hu hv)

theorem countAs_large (hu : Word.half ≤ u.toNat) (hv : Word.half ≤ v.toNat) :
    CountAs u v (nearest u.toNat 2048) (nearest v.toNat 2048) :=
  .of_values (Value.same_large hu hv) (Value.compare_large hu hv)

theorem unlike_mixed (h : u.toNat < Word.half ↔ Word.half ≤ v.toNat) : Unlike u v where
  same := Value.same_mixed h
  compare := Value.compare_mixed h
  condition o found resource := by
    rw [holds_id]
    exact Operator.holds_mixed h o
  requirement found := by
    rw [met_id]
    exact Value.same_mixed h

/-- A requirement of an id that fits is met by the user who has it, and by no
other, whether the other id fits or not. -/
theorem met_small (hv : v.toNat < Word.half) (u : UserId) (found : Option User) :
    (⟨"id", .ofWord v⟩ : Requirement).met (Authority.subjectAttributes u found) = true ↔ u = v := by
  rcases Nat.lt_or_ge u.toNat Word.half with hu | hu
  · rw [(countAs_small hu hv).requirement, UInt64.toNat_inj]
  · have hmixed : u.toNat < Word.half ↔ Word.half ≤ v.toNat := by omega
    rw [(unlike_mixed hmixed).requirement]
    constructor
    · intro h
      cases h
    · rintro rfl
      omega

theorem eq_of_applies {p : Policy} (hv : v.toNat < Word.half) (hp : ⟨"id", .ofWord v⟩ ∈ p.subjects)
    {found : Option User} {resource : Attributes} {action : String}
    (h : p.applies (Authority.subjectAttributes u found) resource action = true) : u = v := by
  obtain ⟨_, hsubjects, _⟩ := Policy.applies_iff.1 h
  exact (met_small hv u found).1 (hsubjects _ hp)

/-- Where all policies require an id that fits, no other user is granted anything. -/
theorem PolicyStore.check_other {store : PolicyStore} (hv : v.toNat < Word.half)
    (hstore : ∀ p ∈ store.policies, ⟨"id", .ofWord v⟩ ∈ p.subjects) (hne : u ≠ v)
    (found : Option User) (resource : Attributes) (action : String) :
    store.check (Authority.subjectAttributes u found) resource action =
      .error (.accessDenied none) := by
  have hnone : store.policies.find?
      (·.applies (Authority.subjectAttributes u found) resource action) = none := by
    rw [List.find?_eq_none]
    intro p hp happlies
    exact hne (eq_of_applies hv (hstore p hp) happlies)
  unfold check decide
  rw [hnone]
  rfl

/-! ## The law -/

/-- To policies two ids that fit a signed word are like the integers that they
are. Two larger ids are like the nearest multiples of 2048. An id that fits and
a larger one are never equal, and neither is above the other. So an id that fits
is required of the one user who has it, and where all policies require it,
nobody else is granted anything, whatever is loaded. -/
theorem ids_that_fit_are_integers {m : Type → Type} [Monad m] [LawfulMonad m] :
    (∀ u v : UserId, u.toNat < Word.half → v.toNat < Word.half →
      CountAs u v u.toNat v.toNat) ∧
    (∀ u v : UserId, Word.half ≤ u.toNat → Word.half ≤ v.toNat →
      CountAs u v (nearest u.toNat 2048) (nearest v.toNat 2048)) ∧
    (∀ u v : UserId, (u.toNat < Word.half ↔ Word.half ≤ v.toNat) → Unlike u v) ∧
    ∀ v : UserId, v.toNat < Word.half →
      (∀ u, (Value.ofWord u).same (.ofWord v) = true ↔ u = v) ∧
      (∀ p : Policy, ⟨"id", .ofWord v⟩ ∈ p.subjects → ∀ u found resource action,
        p.applies (Authority.subjectAttributes u found) resource action = true → u = v) ∧
      ∀ (a : Authority) (store : PolicyStore), a.permissions = some (.policies store) →
        (∀ p ∈ store.policies, ⟨"id", .ofWord v⟩ ∈ p.subjects) →
        ∀ u, u ≠ v → ∀ (loader : Option (Loader m)) resource action attributes,
          a.check loader u resource action attributes =
            (fun _ => .error (.accessDenied none)) <$> loadUser loader u := by
  refine ⟨fun u v hu hv => countAs_small hu hv, fun u v hu hv => countAs_large hu hv,
    fun u v h => unlike_mixed h, ?_⟩
  intro v hv
  refine ⟨?_, ?_, ?_⟩
  · intro u
    rw [← met_id u v none]
    exact met_small hv u none
  · intro p hp u found resource action happlies
    exact eq_of_applies hv hp happlies
  · intro a store ha hstore u hne loader resource action attributes
    rw [Authority.check_policies ha]
    congr 1
    funext found
    exact PolicyStore.check_other hv hstore hne found attributes action

/-- The first large id and the one after it are both two to the power 63 to
policies. -/
theorem the_first_large_ids_are_one :
    let u : UserId := 9223372036854775808
    let v : UserId := 9223372036854775809
    ¬((Value.ofWord u).same (.ofWord v) = true ↔ u = v) ∧
      (Value.ofWord u).compare (.ofWord v) ≠ Ord.compare u.toNat v.toNat ∧
      (⟨"id", .ofWord v⟩ : Requirement).met (Authority.subjectAttributes u none) = true := by
  decide +kernel

/-- The gate of user 7 stays shut for user 8, and for the largest id of all. -/
theorem the_gate_is_for_user_seven :
    let a : Authority := ⟨.oauth (.new {}), some (.policies gate)⟩
    let largest : UserId := 18446744073709551615
    (7 : UserId).toNat < Word.half ∧ (∀ p ∈ gate.policies, ⟨"id", .ofWord 7⟩ ∈ p.subjects) ∧
      (a.check (some forger) 8 "gate" "open" .empty : Id _) = .error (.accessDenied none) ∧
      (a.check (some forger) largest "gate" "open" .empty : Id _) = .error (.accessDenied none) ∧
      (⟨"subject.id", .ge, .ofWord 7⟩ : Condition).holds
        (combine (Authority.subjectAttributes 8 none) .empty) = true := by
  intro a largest
  obtain ⟨hsmall, _, _, hrequired⟩ := ids_that_fit_are_integers (m := Id)
  have hseven : (7 : UserId).toNat < Word.half := by decide
  have height : (8 : UserId).toNat < Word.half := by decide
  have hgate : ∀ p ∈ gate.policies, ⟨"id", .ofWord 7⟩ ∈ p.subjects := by
    simp [gate, Value.ofWord_small hseven]
  obtain ⟨_, _, hrefused⟩ := hrequired 7 hseven
  refine ⟨hseven, hgate, ?_, ?_, ?_⟩
  · exact hrefused a gate rfl hgate 8 (by decide) (some forger) "gate" "open" .empty
  · exact hrefused a gate rfl hgate largest (by decide) (some forger) "gate" "open" .empty
  · rw [(hsmall 8 7 height hseven).condition]
    show (7 : UserId).toNat ≤ (8 : UserId).toNat
    decide

end Warrant
