-- Policies that are stored and loaded. The set of actions has no order, and
-- neither have the maps in the values, so a policy has many forms. The reader
-- finds the same policy in each of them. So a request is decided as before, and
-- a text that once was read as a text is never taken for an instant later on.
import Warrant.Policy.Json
import Warrant.Policy.Store
import Warrant.Proofs.Value.Storage

namespace Warrant

variable {levels : Nat}

/-! ## Requirements and conditions -/

namespace Requirement

def fields (r : Requirement) (value : Json) : List (String × Json) :=
  [("key", .text r.key), ("value", value)]

/-- A tree that a requirement is stored as. -/
inductive Form (r : Requirement) : Json → Prop
  | mk {value : Json} : r.value.Form value → Form r (.ofFields (r.fields value))

theorem keeps_form {r : Requirement} (h : r.value.Faithful) (hdepth : r.value.depth + 1 ≤ levels)
    {j : Json} (hj : r.Form j) : Json.Keeps (ofJson? levels) r j := by
  cases hj with
  | @mk value hvalue =>
    have hvalue := Value.keeps_form h (Nat.le_sub_of_add_le hdepth) hvalue
    constructor
    · apply Json.plain_ofFields
      simp only [fields, List.forall_mem_cons]
      exact ⟨.text _, hvalue.plain, by simp⟩
    · have hfields : (Json.ofFields (r.fields value)).fields? ["key", "value"] =
          some (r.fields value) := Json.fields?_ofFields (by decide) (List.Sublist.refl _)
      have hkey : (r.fields value).lookup "key" = some (.text r.key) := rfl
      have hval : (r.fields value).lookup "value" = some value := rfl
      unfold ofJson?
      rw [hfields, Option.bind_eq_bind, Option.bind_some]
      rw [Json.bind_field hkey (Json.text?_text r.key)]
      rw [Json.bind_field hval hvalue.found]
      rfl

theorem value_read {j : Json} {r : Requirement} (h : ofJson? levels j = some r) :
    ∃ k, Value.ofJson? (levels - 1) k = some r.value := by
  obtain ⟨fields, _, h⟩ := Option.bind_eq_some_iff.1 h
  obtain ⟨_, _, h⟩ := Option.bind_eq_some_iff.1 h
  obtain ⟨key, _, h⟩ := Option.bind_eq_some_iff.1 h
  obtain ⟨k, _, h⟩ := Option.bind_eq_some_iff.1 h
  obtain ⟨v, hv, h⟩ := Option.bind_eq_some_iff.1 h
  cases h
  exact ⟨k, hv⟩

end Requirement

namespace Condition

def fields (c : Condition) (operand : Json) : List (String × Json) :=
  [("attribute", .text c.path), ("operator", .text c.operator.name), ("value", operand)]

/-- A tree that a condition is stored as. -/
inductive Form (c : Condition) : Json → Prop
  | mk {operand : Json} : c.operand.Form operand → Form c (.ofFields (c.fields operand))

theorem keeps_form {c : Condition} (h : c.operand.Faithful) (hdepth : c.operand.depth + 1 ≤ levels)
    {j : Json} (hj : c.Form j) : Json.Keeps (ofJson? levels) c j := by
  cases hj with
  | @mk operand hoperand =>
    have hoperand := Value.keeps_form h (Nat.le_sub_of_add_le hdepth) hoperand
    constructor
    · apply Json.plain_ofFields
      simp only [fields, List.forall_mem_cons]
      exact ⟨.text _, .text _, hoperand.plain, by simp⟩
    · have hfields : (Json.ofFields (c.fields operand)).fields? ["attribute", "operator", "value"] =
          some (c.fields operand) := Json.fields?_ofFields (by decide) (List.Sublist.refl _)
      have hpath : (c.fields operand).lookup "attribute" = some (.text c.path) := rfl
      have hoperator : (c.fields operand).lookup "operator" = some (.text c.operator.name) := rfl
      have hval : (c.fields operand).lookup "value" = some operand := rfl
      unfold ofJson?
      rw [hfields, Option.bind_eq_bind, Option.bind_some]
      rw [Json.bind_field hpath (Json.text?_text c.path)]
      rw [Json.bind_field hoperator (Json.name?_of_text? (Json.text?_text c.operator.name))]
      rw [Operator.ofName?_name, Option.bind_eq_bind, Option.bind_some]
      rw [Json.bind_field hval hoperand.found]
      rfl

theorem operand_read {j : Json} {c : Condition} (h : ofJson? levels j = some c) :
    ∃ k, Value.ofJson? (levels - 1) k = some c.operand := by
  obtain ⟨fields, _, h⟩ := Option.bind_eq_some_iff.1 h
  obtain ⟨_, _, h⟩ := Option.bind_eq_some_iff.1 h
  obtain ⟨path, _, h⟩ := Option.bind_eq_some_iff.1 h
  obtain ⟨_, _, h⟩ := Option.bind_eq_some_iff.1 h
  obtain ⟨name, _, h⟩ := Option.bind_eq_some_iff.1 h
  obtain ⟨operator, _, h⟩ := Option.bind_eq_some_iff.1 h
  obtain ⟨k, _, h⟩ := Option.bind_eq_some_iff.1 h
  obtain ⟨v, hv, h⟩ := Option.bind_eq_some_iff.1 h
  cases h
  exact ⟨k, hv⟩

end Condition

namespace Policy

/-! ## Forms of policies -/

/-- All values that a policy asks for. -/
def values (p : Policy) : List Value :=
  p.subjects.map (·.value) ++ p.resources.map (·.value) ++ p.conditions.map (·.operand)

def fields (p : Policy) (subjects resources : List Json) (actions : List String)
    (conditions : List Json) : List (String × Json) :=
  [("id", .text p.id), ("name", .text p.name), ("subjects", .array subjects),
    ("resources", .array resources), ("actions", .texts actions), ("effect", .text p.effect.name),
    ("conditions", .array conditions), ("priority", .int p.priority.toInt)]

/-- A tree that a policy is stored as. -/
inductive Form (p : Policy) : Json → Prop
  | mk {subjects resources conditions : List Json} {actions : List String} :
      List.Forall₂ Requirement.Form p.subjects subjects →
      List.Forall₂ Requirement.Form p.resources resources →
      actions.Perm (KeySet.toList p.actions) →
      List.Forall₂ Condition.Form p.conditions conditions →
      Form p (.ofFields (p.fields subjects resources actions conditions))

/-- What comes back as it was. Each value stands below the policy, a list and a
requirement or a condition. -/
structure Faithful (p : Policy) : Prop where
  values : ∀ v ∈ p.values, v.Faithful
  levels : ∀ v ∈ p.values, v.depth + 3 ≤ Value.maxLevels

theorem form_toJson (p : Policy) : p.Form p.toJson := by
  have hrequirements : ∀ rs : List Requirement,
      List.Forall₂ Requirement.Form rs (rs.map Requirement.toJson) := by
    intro rs
    rw [List.forall₂_map_right_iff, List.forall₂_same]
    intro r _
    exact .mk (.refl _)
  apply Form.mk
  · exact hrequirements p.subjects
  · exact hrequirements p.resources
  · exact List.Perm.refl _
  · rw [List.forall₂_map_right_iff, List.forall₂_same]
    intro c _
    exact .mk (.refl _)

theorem keeps_requirements {rs : List Requirement}
    (h : ∀ r ∈ rs, r.value.Faithful ∧ r.value.depth + 1 ≤ levels) {js : List Json}
    (hforms : List.Forall₂ Requirement.Form rs js) :
    Json.Keeps (Json.list? (Requirement.ofJson? levels)) rs (.array js) := by
  apply Json.keeps_array hforms
  intro r hr j hj
  exact Requirement.keeps_form (h r hr).1 (h r hr).2 hj

theorem keeps_conditions {cs : List Condition}
    (h : ∀ c ∈ cs, c.operand.Faithful ∧ c.operand.depth + 1 ≤ levels) {js : List Json}
    (hforms : List.Forall₂ Condition.Form cs js) :
    Json.Keeps (Json.list? (Condition.ofJson? levels)) cs (.array js) := by
  apply Json.keeps_array hforms
  intro c hc j hj
  exact Condition.keeps_form (h c hc).1 (h c hc).2 hj

theorem keeps_form {p : Policy} (h : p.Faithful) {j : Json} (hj : p.Form j) :
    Json.Keeps (ofJson? Value.maxLevels) p j := by
  have hvalues : ∀ v ∈ p.values, v.Faithful ∧ v.depth + 1 ≤ Value.maxLevels - 2 := by
    intro v hv
    exact ⟨h.values v hv, Nat.le_sub_of_add_le (h.levels v hv)⟩
  simp only [values, List.forall_mem_append, List.forall_mem_map] at hvalues
  obtain ⟨⟨hsubjects, hresources⟩, hconditions⟩ := hvalues
  cases hj with
  | @mk subjects resources conditions actions hs hr ha hc =>
    have hs := keeps_requirements hsubjects hs
    have hr := keeps_requirements hresources hr
    have hc := keeps_conditions hconditions hc
    -- Under a name, the list is not written out again at each field.
    generalize hf : p.fields subjects resources actions conditions = fields
    constructor
    · apply Json.plain_ofFields
      rw [← hf]
      simp only [Policy.fields, List.forall_mem_cons]
      exact ⟨.text _, .text _, hs.plain, hr.plain, Json.plain_texts _, .text _, hc.plain, .int _,
        by simp⟩
    · have hfields : (Json.ofFields fields).fields? fieldNames = some fields := by
        rw [← hf]
        exact Json.fields?_ofFields (by decide) (List.Sublist.refl _)
      have hid : fields.lookup "id" = some (.text p.id) := hf ▸ rfl
      have hname : fields.lookup "name" = some (.text p.name) := hf ▸ rfl
      have hsub : fields.lookup "subjects" = some (.array subjects) := hf ▸ rfl
      have hres : fields.lookup "resources" = some (.array resources) := hf ▸ rfl
      have hact : fields.lookup "actions" = some (.texts actions) := hf ▸ rfl
      have heff : fields.lookup "effect" = some (.text p.effect.name) := hf ▸ rfl
      have hcond : fields.lookup "conditions" = some (.array conditions) := hf ▸ rfl
      have hprio : fields.lookup "priority" = some (.int p.priority.toInt) := hf ▸ rfl
      unfold ofJson?
      rw [hfields, Option.bind_eq_bind, Option.bind_some]
      dsimp only
      rw [Json.bind_field hid (Json.text?_text p.id)]
      rw [Json.bind_field hname (Json.text?_text p.name)]
      rw [Json.bind_fieldOr hsub hs.found]
      rw [Json.bind_fieldOr hres hr.found]
      rw [Json.bind_field hact (Json.texts?_texts actions)]
      rw [Json.bind_field heff (Json.name?_of_text? (Json.text?_text p.effect.name))]
      rw [Effect.ofName?_name, Option.bind_eq_bind, Option.bind_some]
      rw [Json.bind_fieldOr hcond hc.found]
      rw [Json.bind_fieldOr hprio (Json.int32?_int p.priority)]
      rw [KeySet.ofList_of_perm ha]
      rfl

theorem read?_form {p : Policy} (h : p.Faithful) {j : Json} (hj : p.Form j) :
    read? j.write = some p :=
  (keeps_form h hj).read_write

/-! ## Policies that were read -/

/-- Each value of a policy was read three levels below it. -/
theorem value_read {j : Json} {p : Policy} (h : ofJson? levels j = some p) {v : Value}
    (hv : v ∈ p.values) : ∃ k, Value.ofJson? (levels - 3) k = some v := by
  obtain ⟨fields, _, h⟩ := Option.bind_eq_some_iff.1 h
  obtain ⟨_, _, h⟩ := Option.bind_eq_some_iff.1 h
  obtain ⟨id, _, h⟩ := Option.bind_eq_some_iff.1 h
  obtain ⟨_, _, h⟩ := Option.bind_eq_some_iff.1 h
  obtain ⟨name, _, h⟩ := Option.bind_eq_some_iff.1 h
  obtain ⟨subjects, hsubjects, h⟩ := Option.bind_eq_some_iff.1 h
  obtain ⟨resources, hresources, h⟩ := Option.bind_eq_some_iff.1 h
  obtain ⟨_, _, h⟩ := Option.bind_eq_some_iff.1 h
  obtain ⟨actions, _, h⟩ := Option.bind_eq_some_iff.1 h
  obtain ⟨_, _, h⟩ := Option.bind_eq_some_iff.1 h
  obtain ⟨_, _, h⟩ := Option.bind_eq_some_iff.1 h
  obtain ⟨effect, _, h⟩ := Option.bind_eq_some_iff.1 h
  obtain ⟨conditions, hconditions, h⟩ := Option.bind_eq_some_iff.1 h
  obtain ⟨priority, _, h⟩ := Option.bind_eq_some_iff.1 h
  cases h
  -- The policy, its list, and the requirement or the condition take a level each.
  simp only [values, List.mem_append, List.mem_map] at hv
  rcases hv with (⟨r, hr, rfl⟩ | ⟨r, hr, rfl⟩) | ⟨c, hc, rfl⟩
  · obtain ⟨k, hk⟩ := Json.item_of_fieldOr hsubjects hr
    exact Requirement.value_read hk
  · obtain ⟨k, hk⟩ := Json.item_of_fieldOr hresources hr
    exact Requirement.value_read hk
  · obtain ⟨k, hk⟩ := Json.item_of_fieldOr hconditions hc
    exact Condition.operand_read hk

theorem faithful_of_read? {text : String} {p : Policy} (h : read? text = some p)
    (hfloats : ∀ v ∈ p.values, ∀ x, ¬Value.Part (.float x) v) : p.Faithful := by
  obtain ⟨j, _, hj⟩ := Option.bind_eq_some_iff.1 h
  constructor
  · intro v hv
    obtain ⟨k, hk⟩ := value_read hj hv
    exact Value.faithful_of_ofJson? hk (hfloats v hv)
  · intro v hv
    obtain ⟨k, hk⟩ := value_read hj hv
    have hdepth := Value.depth_le_of_ofJson? hk
    unfold Value.maxLevels at hdepth ⊢
    omega

theorem texts_of_read? {text : String} {p : Policy} (h : read? text = some p) {v : Value}
    (hv : v ∈ p.values) (s : String) (hs : Value.Part (.text s) v) : Instant.read? s = none := by
  obtain ⟨j, _, hj⟩ := Option.bind_eq_some_iff.1 h
  obtain ⟨k, hk⟩ := value_read hj hv
  exact Value.texts_of_ofJson? hk s hs

theorem stable_of_read? {text : String} {p : Policy} (h : read? text = some p)
    (hfloats : ∀ v ∈ p.values, ∀ x, ¬Value.Part (.float x) v) :
    Json.Stable Form read? p := by
  apply Json.stable_of_read
  intro j hj
  exact read?_form (faithful_of_read? h hfloats) hj

/-! ## Copies -/

/-- The policy itself, or what was loaded after it had been stored. -/
def Copy (p copy : Policy) : Prop :=
  copy = p ∨ p.Faithful ∧ Json.Reloads Form read? p copy

theorem Copy.eq {p copy : Policy} (h : p.Copy copy) : copy = p := by
  rcases h with rfl | ⟨hfaithful, j, hform, hread⟩
  · rfl
  · exact Option.some.inj (hread.symm.trans (read?_form hfaithful hform))

end Policy

/-! ## The laws -/

/-- A policy that keeps its kinds is read from each tree that it may be stored as,
and what is read is the policy. So a store decides each request as before when
copies stand in the places of its policies. -/
theorem a_stored_policy_decides_as_before :
    (∀ p : Policy, p.Faithful →
      p.Form p.toJson ∧ ∀ j, p.Form j → Policy.read? j.write = some p) ∧
    ∀ (s : PolicyStore) (copies : List Policy), List.Forall₂ Policy.Copy s.policies copies →
      ∀ subject resource action,
        (PolicyStore.mk copies).decide subject resource action =
            s.decide subject resource action ∧
          (PolicyStore.mk copies).check subject resource action =
            s.check subject resource action := by
  constructor
  · intro p h
    exact ⟨p.form_toJson, fun j hj => Policy.read?_form h hj⟩
  · intro s copies h subject resource action
    have hsame : List.Forall₂ Eq s.policies copies := h.imp fun _ _ hcopy => hcopy.eq.symm
    rw [List.forall₂_eq_eq_eq] at hsame
    obtain rfl : s = ⟨copies⟩ := congrArg PolicyStore.mk hsame
    exact ⟨rfl, rfl⟩

/-- A policy on a map and on an instant in a leap second. Its name reads as an
instant, but a name is not a value. -/
def curfew : Policy :=
  ⟨"c\"1\n", "2024-01-15T10:30:00Z", [⟨"role", .text "guest"⟩],
    [⟨"hours", .map [("from", .int 22), ("until", .int 6)]⟩], KeySet.ofList ["enter", "stay"],
    .deny, [⟨"subject.since", .gt, .time ⟨1483228799, 1500000000⟩⟩], -2147483648⟩

theorem faithful_curfew : curfew.Faithful := by
  have hhours : (Value.map [("from", .int 22), ("until", .int 6)]).Faithful := by
    apply Value.faithful_map
    · unfold Entries.Ordered
      decide
    · simp only [List.forall_mem_cons]
      exact ⟨Value.faithful_int _, Value.faithful_int _, by simp⟩
  constructor
  · simp only [Policy.values, curfew, List.map_cons, List.map_nil, List.cons_append,
      List.nil_append, List.forall_mem_cons]
    exact ⟨Value.faithful_text (by decide), hhours, Value.faithful_time (by decide), by simp⟩
  · decide +kernel

/-- The curfew with its actions and the members of its map the other way round. -/
def curfewForm : Json :=
  .ofFields (curfew.fields [.ofFields [("key", .text "role"), ("value", .text "guest")]]
    [.ofFields [("key", .text "hours"),
      ("value", .object [(.ok "until", .int 6), (.ok "from", .int 22)])]]
    ["stay", "enter"]
    [.ofFields [("attribute", .text "subject.since"), ("operator", .text "gt"),
      ("value", .text "2016-12-31T23:59:60.500Z")]])

theorem form_curfewForm : curfew.Form curfewForm := by
  have hhours : (Value.map [("from", .int 22), ("until", .int 6)]).Form
      (.object [(.ok "until", .int 6), (.ok "from", .int 22)]) :=
    .members (by simp [Value.entriesJson]) (.swap ..)
  have hsince : (Value.time ⟨1483228799, 1500000000⟩).Form (.text "2016-12-31T23:59:60.500Z") := by
    have hwrite : Instant.write ⟨1483228799, 1500000000⟩ = "2016-12-31T23:59:60.500Z" := by
      decide +kernel
    rw [← hwrite]
    exact .refl _
  apply Policy.Form.mk
  · exact .cons (.mk (.refl _)) .nil
  · exact .cons (.mk hhours) .nil
  · decide
  · exact .cons (.mk hsince) .nil

def guest (since : Instant) : Attributes :=
  KeyMap.ofList [("role", .text "guest"), ("since", .time since)]

def club : Attributes := KeyMap.ofList [("hours", .map [("from", .int 22), ("until", .int 6)])]

/-- The loaded copy decides on guests too, but only on those that come later than
the last nanosecond of its leap second. -/
theorem a_loaded_curfew_keeps_guests_out :
    curfew.Faithful ∧ ∃ copy, Policy.read? curfewForm.write = some copy ∧
      ((PolicyStore.mk [copy]).decide (guest ⟨1483228800, 0⟩) club "enter").policy.isSome = true ∧
      ((PolicyStore.mk [copy]).decide (guest ⟨1483228799, 1500000000⟩) club "enter").policy.isNone =
        true := by
  obtain ⟨_, hforms⟩ := a_stored_policy_decides_as_before.1 curfew faithful_curfew
  have hread := hforms curfewForm form_curfewForm
  have hcopy : List.Forall₂ Policy.Copy (PolicyStore.mk [curfew]).policies [curfew] :=
    .cons (.inr ⟨faithful_curfew, curfewForm, form_curfewForm, hread⟩) .nil
  have hdecide := a_stored_policy_decides_as_before.2 ⟨[curfew]⟩ [curfew] hcopy
  refine ⟨faithful_curfew, curfew, hread, ?_, ?_⟩
  · rw [(hdecide _ _ _).1]
    decide +kernel
  · rw [(hdecide _ _ _).1]
    decide +kernel

/-- No text in a value that was read from any text reads as an instant. Without
floating point numbers, the value is read again from each tree that it may be
stored as, these trees differ by the order of members only, and the value stays
the same however often it is stored and loaded. So it is with the attributes and
the policies that were read. -/
theorem what_was_read_stays_as_it_is :
    (∀ text v, Value.read? text = some v →
      (∀ s, Value.Part (.text s) v → Instant.read? s = none) ∧
      ((∀ x, ¬Value.Part (.float x) v) →
        v.Form v.toJson ∧ Json.Stable Value.Form Value.read? v ∧
          ∀ j w k, v.Form j → Value.read? j.write = some w → w.Form k → j.Reordered k)) ∧
    (∀ text m, Value.readAttributes? text = some m →
      (∀ s, Value.Part (.text s) (.ofMap m) → Instant.read? s = none) ∧
      ((∀ x, ¬Value.Part (.float x) (.ofMap m)) →
        Json.Stable Value.AttributesForm Value.readAttributes? m)) ∧
    ∀ text p, Policy.read? text = some p →
      (∀ v ∈ p.values, ∀ s, Value.Part (.text s) v → Instant.read? s = none) ∧
      ((∀ v ∈ p.values, ∀ x, ¬Value.Part (.float x) v) →
        p.Form p.toJson ∧ Json.Stable Policy.Form Policy.read? p) := by
  refine ⟨?_, ?_, ?_⟩
  · intro text v h
    refine ⟨Value.texts_of_read? h, ?_⟩
    intro hfloats
    have hstable := Value.stable_of_read? h hfloats
    refine ⟨.refl _, hstable, ?_⟩
    intro j w k hj hw hk
    obtain rfl : v = w := Option.some.inj ((hstable.read j hj).symm.trans hw)
    exact hj.symm.trans hk
  · intro text m h
    refine ⟨Value.texts_of_read? (Value.readAttributes?_eq_some_iff.1 h), ?_⟩
    intro hfloats
    exact Value.stable_of_readAttributes? h hfloats
  · intro text p h
    refine ⟨fun v hv => Policy.texts_of_read? h hv, ?_⟩
    intro hfloats
    exact ⟨p.form_toJson, Policy.stable_of_read? h hfloats⟩

/-- An instant with an offset, a key that stands twice, and an escape. -/
def dueText : String :=
  "\x7b\"due\": \"2024-01-15 11:30:00.50+01:00\", \"n\":1, \"n\":[\"l\\u0061ter\"]\x7d"

def due : Attributes :=
  KeyMap.ofList [("due", .time ⟨1705314600, 500000000⟩), ("n", .list [.text "later"])]

/-- A policy as an array of its fields, and its requirement as another one. -/
def sinceText : String :=
  "[\"s\",\"n\",[[\"since\",\"2024-01-15 10:30:00Z\"]],[],[\"*\"],\"allow\"]"

theorem no_floats_due (x : Binary64) : ¬Value.Part (.float x) (.ofMap due) := by
  have hentries : due.entries =
      [("due", .time ⟨1705314600, 500000000⟩), ("n", .list [.text "later"])] := rfl
  simp [Value.ofMap, hentries, Value.part_leaf_iff]

theorem read?_dueText : Value.read? dueText = some (.ofMap due) := by
  have hsame : (Value.read? dueText).any (Value.ofMap due).same = true := by decide +kernel
  obtain ⟨v, hv, hsame⟩ := (Option.any_eq_true _ _).1 hsame
  rw [hv, Value.eq_of_same no_floats_due hsame]

/-- Both keep their instants, whatever they were spelled like. -/
theorem a_due_date_stays :
    (Value.read? dueText = some (.ofMap due) ∧ Json.Stable Value.Form Value.read? (.ofMap due)) ∧
    (Value.readAttributes? dueText = some due ∧
      Json.Stable Value.AttributesForm Value.readAttributes? due) ∧
    ∃ p, Policy.read? sinceText = some p ∧ p.values = [.time ⟨1705314600, 0⟩] ∧
      Json.Stable Policy.Form Policy.read? p := by
  obtain ⟨hvalues, hattributes, hpolicies⟩ := what_was_read_stays_as_it_is
  have hdue := Value.readAttributes?_eq_some_iff.2 read?_dueText
  refine ⟨⟨read?_dueText, ?_⟩, ⟨hdue, ?_⟩, ?_⟩
  · exact ((hvalues dueText _ read?_dueText).2 no_floats_due).2.1
  · exact (hattributes dueText due hdue).2 no_floats_due
  · have hsame : (Policy.read? sinceText).any
        (fun p => Value.sameItems [.time ⟨1705314600, 0⟩] p.values) = true := by decide +kernel
    obtain ⟨p, hp, hsame⟩ := (Option.any_eq_true _ _).1 hsame
    have hitem : ∀ v ∈ [Value.time ⟨1705314600, 0⟩], ∀ x, ¬Value.Part (.float x) v := by
      simp [Value.part_leaf_iff]
    have hsince : [.time ⟨1705314600, 0⟩] = p.values := by
      apply Value.eq_of_sameItems _ hsame
      intro v hv w
      exact Value.eq_of_same (hitem v hv)
    refine ⟨p, hp, hsince.symm, ?_⟩
    exact ((hpolicies sinceText p hp).2 (hsince ▸ hitem)).2

end Warrant
