-- The combined attributes of a request. A path is a prefix, which is the side,
-- and a key of this side. The prefixes tell the sides apart for all keys, also
-- for keys that look like paths, and one side has each key once. So no two
-- entries meet, and the map is the same in whatever order they are put in.
--
-- What a condition says is then a matter of one attribute of one side.
import Mathlib.Data.List.Nodup
import Warrant.Policy.Condition

namespace Warrant

variable {subject resource : Attributes}

/-! ## Paths -/

/-- The path leads to the subject. -/
def OfSubject (path : String) : Prop := ∃ key, path = "subject." ++ key

/-- The path leads to the resource. -/
def OfResource (path : String) : Prop := ∃ key, path = "resource." ++ key

theorem subject_ne_resource (key key' : String) : "subject." ++ key ≠ "resource." ++ key' := by
  intro h
  have hchars := congrArg String.toList h
  simp at hchars

/-! ## Entries -/

/-- The entries of both sides under their paths. -/
def pathEntries (subject resource : Attributes) : List (String × Value) :=
  subject.entries.map (fun e => ("subject." ++ e.1, e.2)) ++
    resource.entries.map fun e => ("resource." ++ e.1, e.2)

theorem combine_eq_ofList : combine subject resource = KeyMap.ofList (pathEntries subject resource) :=
  rfl

theorem mem_pathEntries {path : String} {v : Value} :
    (path, v) ∈ pathEntries subject resource ↔
      (∃ key, path = "subject." ++ key ∧ subject.get? key = some v) ∨
        ∃ key, path = "resource." ++ key ∧ resource.get? key = some v := by
  unfold pathEntries
  simp only [List.mem_append, List.mem_map, Prod.exists, Prod.mk.injEq, KeyMap.mem_entries_iff]
  constructor
  · rintro (⟨key, w, hget, hpath, rfl⟩ | ⟨key, w, hget, hpath, rfl⟩)
    · exact .inl ⟨key, hpath.symm, hget⟩
    · exact .inr ⟨key, hpath.symm, hget⟩
  · rintro (⟨key, hpath, hget⟩ | ⟨key, hpath, hget⟩)
    · exact .inl ⟨key, v, hget, hpath.symm, rfl⟩
    · exact .inr ⟨key, v, hget, hpath.symm, rfl⟩

/-- The keys of one side stay apart behind their prefix. -/
theorem nodup_side (start : String) (m : Attributes) :
    ((m.entries.map fun e => (start ++ e.1, e.2)).map Prod.fst).Nodup := by
  have hkeys : (m.entries.map fun e => (start ++ e.1, e.2)).map Prod.fst =
      m.keys.map (start ++ ·) := by
    simp [KeyMap.keys]
  rw [hkeys]
  apply List.Nodup.map
  · intro key key' h
    exact (String.append_right_inj start).1 h
  · exact m.nodup_keys

/-- No path stands twice. -/
theorem nodup_pathEntries (subject resource : Attributes) :
    ((pathEntries subject resource).map Prod.fst).Nodup := by
  unfold pathEntries
  rw [List.map_append, List.nodup_append]
  refine ⟨nodup_side "subject." subject, nodup_side "resource." resource, ?_⟩
  intro path hs path' hr
  simp only [List.map_map, List.mem_map, Function.comp_apply] at hs hr
  obtain ⟨e, _, rfl⟩ := hs
  obtain ⟨e', _, rfl⟩ := hr
  exact subject_ne_resource e.1 e'.1

/-! ## Lookups -/

theorem get?_combine_eq_some_iff {path : String} {v : Value} :
    (combine subject resource).get? path = some v ↔
      (∃ key, path = "subject." ++ key ∧ subject.get? key = some v) ∨
        ∃ key, path = "resource." ++ key ∧ resource.get? key = some v := by
  rw [combine_eq_ofList, KeyMap.get?_ofList_eq_some_iff (nodup_pathEntries subject resource),
    mem_pathEntries]

theorem get?_combine_subject (subject resource : Attributes) (key : String) :
    (combine subject resource).get? ("subject." ++ key) = subject.get? key := by
  apply Option.ext
  intro v
  rw [get?_combine_eq_some_iff]
  constructor
  · rintro (⟨key', hpath, hget⟩ | ⟨key', hpath, _⟩)
    · rw [(String.append_right_inj _).1 hpath]
      exact hget
    · exact absurd hpath (subject_ne_resource key key')
  · intro hget
    exact .inl ⟨key, rfl, hget⟩

theorem get?_combine_resource (subject resource : Attributes) (key : String) :
    (combine subject resource).get? ("resource." ++ key) = resource.get? key := by
  apply Option.ext
  intro v
  rw [get?_combine_eq_some_iff]
  constructor
  · rintro (⟨key', hpath, _⟩ | ⟨key', hpath, hget⟩)
    · exact absurd hpath.symm (subject_ne_resource key' key)
    · rw [(String.append_right_inj _).1 hpath]
      exact hget
  · intro hget
    exact .inr ⟨key, rfl, hget⟩

theorem get?_combine_elsewhere {path : String} (hs : ¬OfSubject path) (hr : ¬OfResource path) :
    (combine subject resource).get? path = none := by
  rw [Option.eq_none_iff_forall_not_mem]
  intro v hv
  rcases get?_combine_eq_some_iff.1 hv with ⟨key, hpath, _⟩ | ⟨key, hpath, _⟩
  · exact hs ⟨key, hpath⟩
  · exact hr ⟨key, hpath⟩

theorem size_combine (subject resource : Attributes) :
    (combine subject resource).size = subject.size + resource.size := by
  rw [combine_eq_ofList, KeyMap.size_ofList (nodup_pathEntries subject resource)]
  simp [pathEntries, KeyMap.size]

/-- The entries may come in any order. -/
theorem ofList_of_perm {entries : List (String × Value)}
    (h : entries.Perm (pathEntries subject resource)) :
    KeyMap.ofList entries = combine subject resource :=
  (KeyMap.ofList_of_perm_nodup (nodup_pathEntries subject resource) h.symm).symm

/-! ## Conditions -/

/-- What a condition says depends on the attribute that it finds. -/
theorem Condition.holds_congr {c : Condition} {m n : Attributes}
    (h : m.get? c.path = n.get? c.path) : c.holds m = c.holds n := by
  unfold Condition.holds
  rw [h]

/-! ## The law -/

/-- In the combined attributes of a request a path of the subject leads to the
attribute of the subject, a path of the resource to the attribute of the
resource, and no other path leads anywhere. None of the attributes is lost, and
their order is of no account. So a condition on the subject says the same for
all resources, one on the resource says the same for all subjects, and one on
neither never holds. -/
theorem no_side_speaks_for_the_other (subject resource : Attributes) :
    (∀ key, (combine subject resource).get? ("subject." ++ key) = subject.get? key) ∧
    (∀ key, (combine subject resource).get? ("resource." ++ key) = resource.get? key) ∧
    (∀ path, ¬OfSubject path → ¬OfResource path → (combine subject resource).get? path = none) ∧
    (combine subject resource).size = subject.size + resource.size ∧
    (∀ entries : List (String × Value), entries.Perm (pathEntries subject resource) →
      KeyMap.ofList entries = combine subject resource) ∧
    (∀ c : Condition, OfSubject c.path → ∀ other,
      c.holds (combine subject other) = c.holds (combine subject resource)) ∧
    (∀ c : Condition, OfResource c.path → ∀ other,
      c.holds (combine other resource) = c.holds (combine subject resource)) ∧
    ∀ c : Condition, ¬OfSubject c.path → ¬OfResource c.path →
      c.holds (combine subject resource) = false := by
  refine ⟨get?_combine_subject subject resource, get?_combine_resource subject resource,
    fun path hs hr => get?_combine_elsewhere hs hr, size_combine subject resource,
    fun entries h => ofList_of_perm h, ?_, ?_, ?_⟩
  · rintro c ⟨key, hpath⟩ other
    apply Condition.holds_congr
    rw [hpath, get?_combine_subject, get?_combine_subject]
  · rintro c ⟨key, hpath⟩ other
    apply Condition.holds_congr
    rw [hpath, get?_combine_resource, get?_combine_resource]
  · intro c hs hr
    unfold Condition.holds
    rw [get?_combine_elsewhere hs hr]

end Warrant
