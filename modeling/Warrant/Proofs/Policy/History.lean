-- The policies in force after any history of changes. They are the policies
-- that were added and not taken out again, sorted by falling priority with
-- the oldest first among equals. So a request is decided by the oldest of the
-- highest that apply to it.
--
-- An order by priority that keeps the age of equals is known by its parts:
-- for each priority, the policies of that priority in the order of their age.
import Mathlib.Data.Int.Order.Basic
import Mathlib.Data.List.Induction
import Warrant.Policy.Store

namespace Warrant

/-! ## Histories -/

inductive PolicyChange
  | add (p : Policy)
  | remove (id : String)
  | clear

/-- The change takes a policy out of force that was there before. -/
def PolicyChange.ends (p : Policy) : PolicyChange → Bool
  | .add _ => false
  | .remove id => p.id == id
  | .clear => true

namespace PolicyStore

def apply (s : PolicyStore) : PolicyChange → PolicyStore
  | .add p => s.add p
  | .remove id => s.remove id
  | .clear => empty

/-- The store after some changes, the oldest first. -/
def after (changes : List PolicyChange) : PolicyStore := changes.foldl apply empty

/-- The policies of a history that no later change takes out of force, the
oldest first. -/
def standing : List PolicyChange → List Policy
  | [] => []
  | .add p :: later => if later.any (·.ends p) then standing later else p :: standing later
  | _ :: later => standing later

theorem standing_snoc (changes : List PolicyChange) (c : PolicyChange) :
    standing (changes ++ [c]) =
      (standing changes).filter (fun p => !c.ends p) ++ standing [c] := by
  induction changes with
  | nil => rfl
  | cons d later ih =>
    cases d with
    | add p =>
      simp only [List.cons_append, standing, List.any_append, ih]
      cases hl : later.any (·.ends p) with
      | true => simp
      | false => cases hc : c.ends p <;> simp [hc]
    | remove id => exact ih
    | clear => exact ih

/-! ## The order of evaluation -/

/-- The first policy may stand before the second. -/
def outranks (p q : Policy) : Bool := q.priority.toInt ≤ p.priority.toInt

theorem outranks_iff {p q : Policy} :
    outranks p q = true ↔ q.priority.toInt ≤ p.priority.toInt := by
  simp [outranks]

theorem outranks_trans (p q r : Policy) (h : outranks p q = true) (h' : outranks q r = true) :
    outranks p r = true := by
  rw [outranks_iff] at *
  omega

theorem outranks_total (p q : Policy) : (outranks p q || outranks q p) = true := by
  rw [Bool.or_eq_true, outranks_iff, outranks_iff]
  omega

/-- By falling priority. -/
def Ranked (l : List Policy) : Prop := l.Pairwise fun p q => outranks p q = true

/-- The policies of one priority. -/
def level (k : Int) (l : List Policy) : List Policy := l.filter fun p => p.priority.toInt == k

theorem mem_level {k : Int} {l : List Policy} {p : Policy} :
    p ∈ level k l ↔ p ∈ l ∧ p.priority.toInt = k := by
  simp [level]

theorem level_cons (k : Int) (p : Policy) (l : List Policy) :
    level k (p :: l) = if p.priority.toInt = k then p :: level k l else level k l := by
  simp [level, List.filter_cons]

theorem level_append (k : Int) (l m : List Policy) :
    level k (l ++ m) = level k l ++ level k m := List.filter_append ..

theorem level_filter (k : Int) (keep : Policy → Bool) (l : List Policy) :
    level k (l.filter keep) = (level k l).filter keep := by
  rw [level, level, List.filter_filter, List.filter_filter]
  exact List.filter_congr fun p _ => Bool.and_comm _ _

theorem mem_of_levels {l m : List Policy} (h : ∀ k, level k l = level k m) {p : Policy}
    (hp : p ∈ l) : p ∈ m := by
  have hk : p ∈ level p.priority.toInt l := mem_level.2 ⟨hp, rfl⟩
  rw [h] at hk
  exact (mem_level.1 hk).1

/-- A ranked list is known when all its levels are. -/
theorem ranked_ext {l m : List Policy} (hl : Ranked l) (hm : Ranked m)
    (h : ∀ k, level k l = level k m) : l = m := by
  induction l generalizing m with
  | nil =>
    cases m with
    | nil => rfl
    | cons q m => exact absurd (mem_of_levels (fun k => (h k).symm) List.mem_cons_self) (by simp)
  | cons p l ih =>
    cases m with
    | nil => exact absurd (mem_of_levels h List.mem_cons_self) (by simp)
    | cons q m =>
      obtain ⟨hp, hl⟩ := List.pairwise_cons.1 hl
      obtain ⟨hq, hm'⟩ := List.pairwise_cons.1 hm
      have hpq : p.priority.toInt ≤ q.priority.toInt := by
        rcases List.mem_cons.1 (mem_of_levels h List.mem_cons_self) with rfl | hmem
        · exact le_rfl
        · exact outranks_iff.1 (hq p hmem)
      have hqp : q.priority.toInt ≤ p.priority.toInt := by
        rcases List.mem_cons.1 (mem_of_levels (fun k => (h k).symm) List.mem_cons_self) with
          rfl | hmem
        · exact le_rfl
        · exact outranks_iff.1 (hp q hmem)
      have hsame : p.priority.toInt = q.priority.toInt := by omega
      -- both heads are the first policy of the highest level
      have hlevel := h p.priority.toInt
      rw [level_cons, level_cons, if_pos rfl, if_pos hsame.symm] at hlevel
      obtain rfl : p = q := (List.cons.inj hlevel).1
      congr 1
      refine ih hl hm' fun k => ?_
      have hk := h k
      rw [level_cons, level_cons] at hk
      split at hk
      · exact (List.cons.inj hk).2
      · exact hk

/-! ## Sorting -/

theorem ranked_mergeSort (l : List Policy) : Ranked (l.mergeSort outranks) :=
  List.pairwise_mergeSort outranks_trans outranks_total l

theorem ranked_filter {l : List Policy} (h : Ranked l) (keep : Policy → Bool) :
    Ranked (l.filter keep) := List.Pairwise.filter keep h

/-- Sorting keeps the order within a level. -/
theorem level_mergeSort (k : Int) (l : List Policy) : level k (l.mergeSort outranks) = level k l := by
  have hranked : (level k l).Pairwise fun p q => outranks p q = true := by
    refine List.pairwise_of_forall_mem_list fun p hp q hq => ?_
    have hpk := (mem_level.1 hp).2
    have hqk := (mem_level.1 hq).2
    rw [outranks_iff]
    omega
  have hsub : (level k l).Sublist (l.mergeSort outranks) :=
    List.sublist_mergeSort outranks_trans outranks_total hranked List.filter_sublist
  have hlevel : (level k l).Sublist (level k (l.mergeSort outranks)) := by
    have hfilter := hsub.filter fun p => p.priority.toInt == k
    simpa [level] using hfilter
  refine (hlevel.eq_of_length ?_).symm
  exact ((List.mergeSort_perm l outranks).filter _).length_eq.symm

theorem level_place (k : Int) (p : Policy) {l : List Policy} (h : Ranked l) :
    level k (place p l) = level k (l ++ [p]) := by
  induction l with
  | nil => rfl
  | cons q r ih =>
    obtain ⟨hq, hr⟩ := List.pairwise_cons.1 h
    unfold place
    split
    · rename_i hlt
      rw [level_cons]
      split
      · -- all that stands behind `p` has a lower priority than `p`
        rename_i hk
        have hnone : level k (q :: r) = [] := by
          rw [level, List.filter_eq_nil_iff]
          intro x hx
          have hxq : x.priority.toInt ≤ q.priority.toInt := by
            rcases List.mem_cons.1 hx with rfl | hx
            · exact le_rfl
            · exact outranks_iff.1 (hq x hx)
          simp only [beq_iff_eq]
          omega
        rw [level_append, hnone, level_cons, if_pos hk]
        rfl
      · rename_i hk
        rw [level_append, level_cons k p, if_neg hk]
        exact (List.append_nil _).symm
    · rw [level_cons, List.cons_append, level_cons, ih hr]

theorem ranked_place (p : Policy) {l : List Policy} (h : Ranked l) : Ranked (place p l) := by
  induction l with
  | nil => exact List.pairwise_singleton _ p
  | cons q r ih =>
    obtain ⟨hq, hr⟩ := List.pairwise_cons.1 h
    unfold place
    split
    · rename_i hlt
      refine List.pairwise_cons.2 ⟨fun x hx => ?_, h⟩
      rcases List.mem_cons.1 hx with rfl | hx
      · rw [outranks_iff]
        omega
      · exact outranks_trans p q x (outranks_iff.2 (by omega)) (hq x hx)
    · rename_i hle
      refine List.pairwise_cons.2 ⟨fun x hx => ?_, ih hr⟩
      rcases mem_place.1 hx with rfl | hx
      · rw [outranks_iff]
        omega
      · exact hq x hx

/-- To place a policy is to sort it in as the youngest. -/
theorem place_mergeSort (p : Policy) (l : List Policy) :
    place p (l.mergeSort outranks) = (l ++ [p]).mergeSort outranks := by
  refine ranked_ext (ranked_place p (ranked_mergeSort l)) (ranked_mergeSort _) fun k => ?_
  rw [level_place k p (ranked_mergeSort l), level_mergeSort, level_append, level_append,
    level_mergeSort]

theorem filter_mergeSort (keep : Policy → Bool) (l : List Policy) :
    (l.mergeSort outranks).filter keep = (l.filter keep).mergeSort outranks := by
  refine ranked_ext (ranked_filter (ranked_mergeSort l) keep) (ranked_mergeSort _) fun k => ?_
  rw [level_mergeSort, level_filter, level_filter, level_mergeSort]

theorem policies_after (changes : List PolicyChange) :
    (after changes).policies = (standing changes).mergeSort outranks := by
  induction changes using List.reverseRecOn with
  | nil => simp [after, standing, empty]
  | append_singleton changes c ih =>
    rw [after, List.foldl_append, ← after, standing_snoc]
    cases c with
    | add p =>
      have hkeep : (standing changes).filter (fun q => !(PolicyChange.add p).ends q) =
          standing changes := by simp [PolicyChange.ends]
      have hnew : standing [.add p] = [p] := by simp [standing]
      rw [hkeep, hnew, ← place_mergeSort, ← ih]
      rfl
    | remove id =>
      have hkeep : (fun q : Policy => !(PolicyChange.remove id).ends q) = fun q => q.id != id := rfl
      have hnew : standing [.remove id] = [] := rfl
      rw [hkeep, hnew, List.append_nil, ← filter_mergeSort, ← ih]
      rfl
    | clear =>
      have hkeep : (standing changes).filter (fun q => !PolicyChange.clear.ends q) = [] := by
        simp [PolicyChange.ends]
      have hnew : standing [.clear] = [] := rfl
      rw [hkeep, hnew, List.append_nil, List.mergeSort_nil]
      rfl

/-! ## Decisions -/

/-- The policy applies to the request, none that applies has a higher
priority, and none of its own priority that applies was added before it. -/
def Leads (subject resource : Attributes) (action : String) (l : List Policy) (p : Policy) :
    Prop :=
  p.applies subject resource action = true ∧
    ∃ older younger, l = older ++ p :: younger ∧
      (∀ q ∈ older, q.applies subject resource action = true →
        q.priority.toInt < p.priority.toInt) ∧
      ∀ q ∈ younger, q.applies subject resource action = true →
        q.priority.toInt ≤ p.priority.toInt

variable {subject resource : Attributes} {action : String} {l : List Policy} {p q : Policy}

theorem Leads.mem (h : Leads subject resource action l p) : p ∈ l := by
  obtain ⟨_, older, younger, rfl, _⟩ := h
  simp

theorem Leads.highest (h : Leads subject resource action l p) (hq : q ∈ l)
    (ha : q.applies subject resource action = true) :
    q.priority.toInt ≤ p.priority.toInt := by
  obtain ⟨_, older, younger, rfl, hold, hyoung⟩ := h
  rcases List.mem_append.1 hq with hq | hq
  · exact le_of_lt (hold q hq ha)
  · rcases List.mem_cons.1 hq with rfl | hq
    · exact le_rfl
    · exact hyoung q hq ha

/-- The leader is the first of its level that applies. -/
theorem leads_iff :
    Leads subject resource action l p ↔
      (level p.priority.toInt l).find? (·.applies subject resource action) = some p ∧
        ∀ q ∈ l, q.applies subject resource action = true →
          q.priority.toInt ≤ p.priority.toInt := by
  constructor
  · intro h
    refine ⟨?_, fun q hq ha => h.highest hq ha⟩
    obtain ⟨ha, older, younger, rfl, hold, _⟩ := h
    rw [level, List.filter_append, List.find?_append]
    have hnone : (older.filter fun q => q.priority.toInt == p.priority.toInt).find?
        (·.applies subject resource action) = none := by
      rw [List.find?_eq_none]
      intro q hq hqa
      obtain ⟨hq, hk⟩ := List.mem_filter.1 hq
      have hlt := hold q hq hqa
      rw [beq_iff_eq] at hk
      omega
    simp [hnone, ha]
  · rintro ⟨hfind, hhigh⟩
    rw [level, List.find?_filter, List.find?_eq_some_iff_append] at hfind
    obtain ⟨hp, older, younger, rfl, hold⟩ := hfind
    refine ⟨by simpa using hp, older, younger, rfl, fun q hq ha => ?_, fun q hq ha => ?_⟩
    · have hle := hhigh q (by simp [hq]) ha
      have hne := hold q hq
      simp only [beq_iff_eq, ha, and_true, Bool.not_eq_true', decide_eq_false_iff_not] at hne
      omega
    · exact hhigh q (by simp [hq]) ha

/-- A request has one leader at most. -/
theorem Leads.unique (h : Leads subject resource action l p)
    (h' : Leads subject resource action l q) : p = q := by
  have hpq := h.highest h'.mem h'.1
  have hqp := h'.highest h.mem h.1
  have hfirst := (leads_iff.1 h).1
  rw [show p.priority.toInt = q.priority.toInt by omega, (leads_iff.1 h').1] at hfirst
  exact (Option.some.inj hfirst).symm

theorem leads_mergeSort :
    Leads subject resource action (l.mergeSort outranks) p ↔ Leads subject resource action l p := by
  simp only [leads_iff, level_mergeSort, List.mem_mergeSort]

/-- In the order of evaluation the leader is the first that applies. -/
theorem leads_of_find? (hl : Ranked l)
    (h : l.find? (·.applies subject resource action) = some p) :
    Leads subject resource action l p := by
  obtain ⟨hp, older, younger, rfl, hold⟩ := List.find?_eq_some_iff_append.1 h
  refine ⟨hp, older, younger, rfl, fun q hq ha => ?_, fun q hq _ => ?_⟩
  · exact absurd ha (by simpa using hold q hq)
  · have hyoung := (List.pairwise_cons.1 (List.pairwise_append.1 hl).2.1).1
    exact outranks_iff.1 (hyoung q hq)

theorem find?_mergeSort_eq_some_iff :
    (l.mergeSort outranks).find? (·.applies subject resource action) = some p ↔
      Leads subject resource action l p := by
  refine ⟨fun h => leads_mergeSort.1 (leads_of_find? (ranked_mergeSort l) h), fun h => ?_⟩
  have hp : p ∈ l.mergeSort outranks := List.mem_mergeSort.2 h.mem
  cases hq : (l.mergeSort outranks).find? (·.applies subject resource action) with
  | none => exact absurd h.1 (List.find?_eq_none.1 hq p hp)
  | some q =>
    rw [(leads_mergeSort.1 (leads_of_find? (ranked_mergeSort l) hq)).unique h]

theorem decide_of_leads {s : PolicyStore} (hs : s.policies = l.mergeSort outranks)
    (h : Leads subject resource action l p) :
    s.decide subject resource action = ⟨p.allows, some p⟩ := by
  rw [PolicyStore.decide, hs, find?_mergeSort_eq_some_iff.2 h]

theorem decide_of_none {s : PolicyStore} (hs : s.policies = l.mergeSort outranks)
    (h : ∀ p ∈ l, p.applies subject resource action = false) :
    s.decide subject resource action = ⟨false, none⟩ := by
  have hnone : (l.mergeSort outranks).find? (·.applies subject resource action) = none := by
    rw [List.find?_eq_none]
    intro p hp
    rw [h p (List.mem_mergeSort.1 hp)]
    exact Bool.false_ne_true
  rw [PolicyStore.decide, hs, hnone]

/-- If any policy applies, one leads. -/
theorem exists_leads (h : ∃ p ∈ l, p.applies subject resource action = true) :
    ∃ p, Leads subject resource action l p := by
  obtain ⟨p, hp, ha⟩ := h
  cases hq : (l.mergeSort outranks).find? (·.applies subject resource action) with
  | none => exact absurd ha (List.find?_eq_none.1 hq p (List.mem_mergeSort.2 hp))
  | some q => exact ⟨q, find?_mergeSort_eq_some_iff.1 hq⟩

/-- After any history the policies in force are the ones that nothing has taken
out, in a stable order by falling priority. The oldest of the highest that apply
to a request decides it, and a denial names this policy. Where none applies, the
request is denied in the name of none. -/
theorem the_oldest_of_the_highest_decides (changes : List PolicyChange) :
    (after changes).policies =
        (standing changes).mergeSort (fun p q => q.priority.toInt ≤ p.priority.toInt) ∧
      ∀ subject resource action,
        ((∀ p ∈ standing changes, p.applies subject resource action = false) →
          (after changes).decide subject resource action = ⟨false, none⟩ ∧
          (after changes).check subject resource action = .error (.accessDenied none)) ∧
        ((∃ p ∈ standing changes, p.applies subject resource action = true) →
          ∃ p, Leads subject resource action (standing changes) p) ∧
        ∀ p, Leads subject resource action (standing changes) p →
          (after changes).decide subject resource action = ⟨p.effect == .allow, some p⟩ ∧
          (after changes).check subject resource action =
            if p.effect = .allow then .ok ()
            else .error (.accessDenied (some (p.id ++ " (" ++ p.name ++ ")"))) := by
  refine ⟨policies_after changes, fun subject resource action => ⟨fun hnone => ?_, exists_leads,
    fun p hp => ?_⟩⟩
  · have hd := decide_of_none (policies_after changes) hnone
    exact ⟨hd, by rw [check, hd]; rfl⟩
  · have hd := decide_of_leads (policies_after changes) hp
    refine ⟨hd, ?_⟩
    rw [check, hd, Policy.allows]
    cases p.effect <;> rfl

end PolicyStore

end Warrant
