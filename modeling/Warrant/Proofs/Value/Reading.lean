-- What a value that was read is like. Each part of it was read from a tree of
-- its own, so it is enough to look at one kind of value at a time. A text that
-- was read never reads as an instant, because then it would be one, and lists
-- and maps stand no deeper in each other than the levels allow. So a value that
-- was read once is kept whenever it is written again.
import Warrant.Proofs.Value.Json

namespace Warrant.Value

/-! ## One level -/

theorem mem_ofItems? {levels : Nat} {js : List Json} {items : List Value} {v : Value}
    (h : ofItems? levels js = some items) (hv : v ∈ items) :
    ∃ j, ofJson? levels j = some v := by
  induction js generalizing items with
  | nil =>
    cases h
    cases hv
  | cons j r ih =>
    obtain ⟨w, hw, h⟩ := Option.bind_eq_some_iff.1 h
    obtain ⟨ws, hws, h⟩ := Option.bind_eq_some_iff.1 h
    cases h
    rcases List.mem_cons.1 hv with rfl | hv
    · exact ⟨j, hw⟩
    · exact ih hws hv

theorem mem_ofMembers? {levels : Nat} {members : List (Json.Literal × Json)}
    {entries : List (String × Value)} {e : String × Value}
    (h : ofMembers? levels members = some entries) (he : e ∈ entries) :
    ∃ j, ofJson? levels j = some e.2 := by
  induction members generalizing entries with
  | nil =>
    cases h
    cases he
  | cons m r ih =>
    obtain ⟨key, j⟩ := m
    obtain ⟨k, _, h⟩ := Option.bind_eq_some_iff.1 h
    obtain ⟨w, hw, h⟩ := Option.bind_eq_some_iff.1 h
    obtain ⟨ws, hws, h⟩ := Option.bind_eq_some_iff.1 h
    cases h
    rcases List.mem_cons.1 he with rfl | he
    · exact ⟨j, hw⟩
    · exact ih hws he

/-- What a value shows of the tree that it was read from. -/
def Traced (levels : Nat) : Value → Prop
  | .time t => ∃ s, Instant.read? s = some t
  | .text s => Instant.read? s = none
  | .list items => ∃ n js, levels = n + 1 ∧ ofItems? n js = some items
  | .map entries => ∃ n members own, levels = n + 1 ∧ ofMembers? n members = some own ∧
      entries = Entries.ofList own
  | _ => True

theorem traced_of_ofJson? {levels : Nat} {j : Json} {v : Value} (h : ofJson? levels j = some v) :
    v.Traced levels := by
  cases j with
  | null =>
    cases h
    trivial
  | bool b =>
    cases h
    trivial
  | number n =>
    obtain ⟨x, _, rfl⟩ := Option.map_eq_some_iff.1 h
    unfold ofNumber
    split
    · split
      · trivial
      · trivial
    · trivial
  | string l =>
    obtain ⟨s, _, rfl⟩ := Option.map_eq_some_iff.1 h
    cases hs : Instant.read? s with
    | none =>
      rw [ofString_of_none hs]
      exact hs
    | some t =>
      rw [ofString_of_read? hs]
      exact ⟨s, hs⟩
  | array js =>
    cases levels with
    | zero => cases h
    | succ n =>
      obtain ⟨items, hitems, rfl⟩ := Option.map_eq_some_iff.1 h
      exact ⟨n, js, rfl, hitems⟩
  | object members =>
    cases levels with
    | zero => cases h
    | succ n =>
      obtain ⟨own, hown, rfl⟩ := Option.map_eq_some_iff.1 h
      exact ⟨n, members, own, rfl, hown, rfl⟩

/-- The items of a list that was read were read with one level less. -/
theorem item_read {levels : Nat} {j : Json} {items : List Value} {v : Value}
    (h : ofJson? levels j = some (.list items)) (hv : v ∈ items) :
    ∃ n j', levels = n + 1 ∧ ofJson? n j' = some v := by
  obtain ⟨n, js, hn, hitems⟩ := traced_of_ofJson? h
  obtain ⟨j', hj'⟩ := mem_ofItems? hitems hv
  exact ⟨n, j', hn, hj'⟩

/-- And so were the values of a map. -/
theorem entry_read {levels : Nat} {j : Json} {entries : List (String × Value)}
    {e : String × Value} (h : ofJson? levels j = some (.map entries)) (he : e ∈ entries) :
    ∃ n j', levels = n + 1 ∧ ofJson? n j' = some e.2 := by
  obtain ⟨n, members, own, hn, hmembers, rfl⟩ := traced_of_ofJson? h
  obtain ⟨j', hj'⟩ := mem_ofMembers? hmembers (Entries.mem_of_mem_ofList he)
  exact ⟨n, j', hn, hj'⟩

/-! ## All levels -/

/-- Each part of a value that was read was read. -/
theorem part_read {w v : Value} (hw : Part w v) {levels : Nat} {j : Json}
    (h : ofJson? levels j = some v) : ∃ n j', ofJson? n j' = some w := by
  induction hw generalizing levels j with
  | self => exact ⟨levels, j, h⟩
  | item hv _ ih =>
    obtain ⟨n, j', _, hj'⟩ := item_read h hv
    exact ih hj'
  | entry he _ ih =>
    obtain ⟨n, j', _, hj'⟩ := entry_read h he
    exact ih hj'

/-- No text of a value that was read reads as an instant. -/
theorem texts_of_ofJson? {levels : Nat} {j : Json} {v : Value} (h : ofJson? levels j = some v)
    (s : String) (hs : Part (.text s) v) : Instant.read? s = none := by
  obtain ⟨n, j', hj'⟩ := part_read hs h
  exact traced_of_ofJson? hj'

/-- A value that was read comes back as it was, if it has no floating point
number. -/
theorem faithful_of_ofJson? {levels : Nat} {j : Json} {v : Value} (h : ofJson? levels j = some v)
    (hfloats : ∀ x, ¬Part (.float x) v) : Faithful v := by
  refine ⟨?_, ?_, hfloats, texts_of_ofJson? h⟩
  · intro entries hw
    obtain ⟨n, j', hj'⟩ := part_read hw h
    obtain ⟨_, _, own, _, _, rfl⟩ := traced_of_ofJson? hj'
    exact Entries.ordered_ofList own
  · intro t hw
    obtain ⟨n, j', hj'⟩ := part_read hw h
    obtain ⟨s, hs⟩ := traced_of_ofJson? hj'
    exact Instant.inCalendar_of_read? hs

theorem depthOfItems_le {items : List Value} {n : Nat} (h : ∀ v ∈ items, v.depth ≤ n) :
    depthOfItems items ≤ n := by
  induction items with
  | nil => exact Nat.zero_le n
  | cons v r ih =>
    rw [depthOfItems]
    apply Nat.max_le.2
    exact ⟨h v List.mem_cons_self, ih fun w hw => h w (List.mem_cons_of_mem v hw)⟩

theorem depthOfEntries_le {entries : List (String × Value)} {n : Nat}
    (h : ∀ e ∈ entries, e.2.depth ≤ n) : depthOfEntries entries ≤ n := by
  induction entries with
  | nil => exact Nat.zero_le n
  | cons e r ih =>
    rw [depthOfEntries]
    apply Nat.max_le.2
    exact ⟨h e List.mem_cons_self, ih fun w hw => h w (List.mem_cons_of_mem e hw)⟩

/-- A value that was read is no deeper than the levels allow. -/
theorem depth_le_of_ofJson? {levels : Nat} {j : Json} {v : Value}
    (h : ofJson? levels j = some v) : v.depth ≤ levels := by
  induction v using onParts generalizing levels j with
  | list items ih =>
    obtain ⟨n, _, rfl, _⟩ := traced_of_ofJson? h
    rw [depth]
    apply Nat.succ_le_succ
    apply depthOfItems_le
    intro v hv
    obtain ⟨m, j', hm, hj'⟩ := item_read h hv
    cases hm
    exact ih v hv hj'
  | map entries ih =>
    obtain ⟨n, _, _, rfl, _⟩ := traced_of_ofJson? h
    rw [depth]
    apply Nat.succ_le_succ
    apply depthOfEntries_le
    intro e he
    obtain ⟨m, j', hm, hj'⟩ := entry_read h he
    cases hm
    exact ih e he hj'
  | _ => exact Nat.zero_le levels

/-- Attributes are read as the value that a map of them is. -/
theorem ofJson?_of_attributes? {levels : Nat} {j : Json} {m : Attributes}
    (h : attributes? (levels + 1) j = some m) : ofJson? (levels + 1) j = some (.ofMap m) := by
  unfold attributes? at h
  split at h
  · obtain ⟨entries, hentries, rfl⟩ := Option.map_eq_some_iff.1 h
    rw [Nat.add_sub_cancel] at hentries
    rw [ofJson?, hentries]
    rfl
  · cases h

end Warrant.Value
