-- How values are compared, and what the operators make of it. A comparison
-- reads the same from both sides, and values that are the same compare as
-- equal. Integers, texts and instants are each in a linear order: the order of
-- the numbers, of the bytes, and of the seconds and then the nanoseconds.
-- Values of different kinds, or of the other kinds, only compare as equal, but
-- for floats.
--
-- So each operator that orders two values is the opposite of another one, and
-- turns into a third one when the two values change places.
import Warrant.Policy.Condition
import Warrant.Proofs.Instant
import Warrant.Proofs.Text.Utf8

namespace Warrant

open Text

/-! ## Floats -/

theorem Binary64.compare?_swap (x y : Binary64) :
    (compare? y x).getD .eq = ((compare? x y).getD .eq).swap := by
  unfold compare?
  rw [Bool.or_comm]
  split
  · rfl
  · exact Std.OrientedOrd.eq_swap

namespace Value

/-! ## Two values -/

theorem compare_int (m n : Int64) : (int m).compare (int n) = Ord.compare m.toInt n.toInt := rfl

theorem compare_text (s t : String) : (text s).compare (text t) = Ord.compare s t := rfl

theorem compare_time (t u : Instant) : (time t).compare (time u) = t.compare u := rfl

/-- Two values of one ordered kind, or two that compare as equal. -/
inductive Pair : Value → Value → Prop
  | ints (m n : Int64) : Pair (int m) (int n)
  | floats (x y : Binary64) : Pair (float x) (float y)
  | texts (s t : String) : Pair (text s) (text t)
  | times (t u : Instant) : Pair (time t) (time u)
  | unordered {a b : Value} : a.compare b = .eq → b.compare a = .eq → Pair a b

theorem pair (a b : Value) : Pair a b := by
  cases a with
  | int m =>
    cases b with
    | int n => exact .ints m n
    | _ => exact .unordered rfl rfl
  | float x =>
    cases b with
    | float y => exact .floats x y
    | _ => exact .unordered rfl rfl
  | text s =>
    cases b with
    | text t => exact .texts s t
    | _ => exact .unordered rfl rfl
  | time t =>
    cases b with
    | time u => exact .times t u
    | _ => exact .unordered rfl rfl
  | _ => cases b <;> exact .unordered rfl rfl

theorem compare_swap (a b : Value) : b.compare a = (a.compare b).swap := by
  cases pair a b with
  | ints m n => exact Std.OrientedOrd.eq_swap
  | floats x y => exact Binary64.compare?_swap x y
  | texts s t =>
    rw [compare_text, compare_text]
    exact Std.OrientedOrd.eq_swap
  | times t u =>
    rw [compare_time, compare_time]
    exact Std.OrientedCmp.eq_swap
  | unordered h h' =>
    rw [h, h']
    rfl

theorem same_int (m n : Int64) : (int m).same (int n) = true ↔ m = n := by
  simp [same]

theorem same_text (s t : String) : (text s).same (text t) = true ↔ s = t := by
  simp [same]

theorem same_time (t u : Instant) : (time t).same (time u) = true ↔ t = u := by
  simp [same]

theorem compare_of_same {a b : Value} (h : a.same b = true) : a.compare b = .eq := by
  cases pair a b with
  | ints m n =>
    rw [(same_int m n).1 h, compare_int]
    exact Std.ReflOrd.compare_self
  | floats x y =>
    have hplace : Binary64.compare? x y = some .eq := by
      simpa [same, Binary64.same] using h
    simp [compare, hplace]
  | texts s t =>
    rw [(same_text s t).1 h, compare_text]
    exact Std.ReflOrd.compare_self
  | times t u =>
    rw [(same_time t u).1 h, compare_time]
    exact Std.ReflCmp.compare_self
  | unordered heq _ => exact heq

/-! ## Values of one kind -/

/-- The values of a kind are in a linear order. They compare as equal exactly if
they are the same, and one is less than another exactly if its content comes
before the other's. -/
structure Linear {α : Type} (kind : α → Value) (before : α → α → Prop) : Prop where
  eq_iff : ∀ a b, (kind a).compare (kind b) = .eq ↔ (kind a).same (kind b) = true
  lt_iff : ∀ a b, (kind a).compare (kind b) = .lt ↔ before a b
  gt_iff : ∀ a b, (kind a).compare (kind b) = .gt ↔ before b a
  total : ∀ a b, (kind a).compare (kind b) ≠ .gt ∨ (kind b).compare (kind a) ≠ .gt
  trans : ∀ a b c, (kind a).compare (kind b) ≠ .gt → (kind b).compare (kind c) ≠ .gt →
    (kind a).compare (kind c) ≠ .gt

/-- A kind is in the order in which its contents are compared. -/
theorem linear_of_compare {α : Type} {kind : α → Value} {before : α → α → Prop}
    (cmp : α → α → Ordering) [Std.TransCmp cmp] [Std.LawfulEqCmp cmp]
    (hcompare : ∀ a b, (kind a).compare (kind b) = cmp a b)
    (hsame : ∀ a b, (kind a).same (kind b) = true ↔ a = b)
    (hbefore : ∀ a b, cmp a b = .lt ↔ before a b) : Linear kind before := by
  refine ⟨?_, ?_, ?_, ?_, ?_⟩
  · intro a b
    rw [hcompare, hsame]
    exact Std.LawfulEqCmp.compare_eq_iff_eq
  · intro a b
    rw [hcompare]
    exact hbefore a b
  · intro a b
    rw [hcompare, ← hbefore]
    exact Std.OrientedCmp.gt_iff_lt
  · intro a b
    rw [compare_swap (kind a) (kind b)]
    cases (kind a).compare (kind b) <;> simp
  · intro a b c hab hbc
    rw [hcompare, ne_eq, ← Ordering.isLE_iff_ne_gt] at hab hbc ⊢
    exact Std.TransCmp.isLE_trans hab hbc

theorem linear_int : Linear .int fun m n => m.toInt < n.toInt := by
  have hlawful : Std.LawfulEqCmp (compareOn Int64.toInt) :=
    ⟨fun h => Int64.toInt_inj.1 (compare_eq_iff_eq.1 h)⟩
  apply linear_of_compare (compareOn Int64.toInt) compare_int same_int
  intro m n
  exact compare_lt_iff_lt

theorem linear_text : Linear .text fun s t => Utf8.bytes s < Utf8.bytes t := by
  apply linear_of_compare Ord.compare compare_text same_text
  intro s t
  rw [Utf8.bytes_lt_iff]
  exact compareOfLessAndEq_eq_lt

theorem linear_time : Linear .time fun t u =>
    t.seconds < u.seconds ∨ t.seconds = u.seconds ∧ t.nanos < u.nanos := by
  apply linear_of_compare Instant.compare compare_time same_time
  intro t u
  exact Instant.compare_eq_lt_iff t u

end Value

/-! ## Operators -/

namespace Operator

/-- What operators say of two values: three of them are the opposites of three
others, and two hold of whatever is equal. -/
structure Opposed (answers : Operator → Bool) : Prop where
  gt : answers .gt = !answers .le
  lt : answers .lt = !answers .ge
  ne : answers .ne = !answers .eq
  of_eq : answers .eq = true → answers .ge = true ∧ answers .le = true

/-- What operators say of two values, and what they say when the two change
places. -/
structure Turned (answers replies : Operator → Bool) : Prop where
  lt : replies .lt = answers .gt
  gt : replies .gt = answers .lt
  le : replies .le = answers .ge
  ge : replies .ge = answers .le

theorem opposed (a b : Value) : Opposed fun o => o.holds a b where
  gt := by
    unfold holds
    cases a.compare b <;> rfl
  lt := by
    unfold holds
    cases a.compare b <;> rfl
  ne := rfl
  of_eq h := by
    unfold holds at *
    simp [Value.compare_of_same h]

theorem turned (a b : Value) : Turned (fun o => o.holds a b) fun o => o.holds b a := by
  constructor <;>
  · unfold holds
    rw [Value.compare_swap a b]
    cases a.compare b <;> rfl

end Operator

/-! ## Conditions -/

namespace Condition

variable {m : Attributes} {path : String}

theorem holds_of_found {actual : Value} (h : m.get? path = some actual) (operand : Value) :
    (fun o => (⟨path, o, operand⟩ : Condition).holds m) = fun o => o.holds actual operand := by
  funext o
  unfold Condition.holds
  simp only [h]

theorem holds_of_missing (h : m.get? path = none) (o : Operator) (operand : Value) :
    (⟨path, o, operand⟩ : Condition).holds m = false := by
  unfold Condition.holds
  simp only [h]

end Condition

/-! ## The law -/

/-- A comparison reads the same from both sides, floats included, and values
that are the same compare as equal. Integers are in the order of their numbers,
texts in the order of their bytes, and instants in the order of their seconds
and then of their nanoseconds, those of a leap second as they are. So, of an
attribute that is there, "greater" is the opposite of "at most", "less" of "at
least" and "different" of "equal", and what is equal is at least and at most.
With the attribute and the operand in each other's place "greater" turns into
"less", and "at least" into "at most". Of an attribute that is missing nothing
holds. -/
theorem a_comparison_reads_the_same_from_both_sides :
    (∀ a b : Value, b.compare a = (a.compare b).swap) ∧
    (∀ a b : Value, a.same b = true → a.compare b = .eq) ∧
    (Value.Linear .int fun m n => m.toInt < n.toInt) ∧
    (Value.Linear .text fun s t => Utf8.bytes s < Utf8.bytes t) ∧
    (Value.Linear .time fun t u =>
      t.seconds < u.seconds ∨ t.seconds = u.seconds ∧ t.nanos < u.nanos) ∧
    (∀ (m : Attributes) (path : String) (actual operand : Value), m.get? path = some actual →
      Operator.Opposed (fun o => (⟨path, o, operand⟩ : Condition).holds m) ∧
      ∀ m' : Attributes, m'.get? path = some operand →
        Operator.Turned (fun o => (⟨path, o, operand⟩ : Condition).holds m)
          fun o => (⟨path, o, actual⟩ : Condition).holds m') ∧
    ∀ (m : Attributes) (path : String), m.get? path = none →
      ∀ (o : Operator) (operand : Value), (⟨path, o, operand⟩ : Condition).holds m = false := by
  refine ⟨Value.compare_swap, fun a b h => Value.compare_of_same h, Value.linear_int,
    Value.linear_text, Value.linear_time, ?_, fun m path h => Condition.holds_of_missing h⟩
  intro m path actual operand h
  rw [Condition.holds_of_found h operand]
  refine ⟨Operator.opposed actual operand, fun m' h' => ?_⟩
  rw [Condition.holds_of_found h' actual]
  exact Operator.turned actual operand

/-- A wide tilde comes before a face by its bytes, and the leap second at the end
of 2016 before the new year. -/
theorem a_wide_tilde_comes_before_a_face :
    let tilde : Attributes := KeyMap.empty.insert "subject.name" (.text "～")
    let face : Attributes := KeyMap.empty.insert "subject.name" (.text "😀")
    tilde.get? "subject.name" = some (.text "～") ∧ face.get? "subject.name" = some (.text "😀") ∧
      (⟨"subject.name", .lt, .text "😀"⟩ : Condition).holds tilde = true ∧
      (⟨"subject.name", .ge, .text "😀"⟩ : Condition).holds tilde = false ∧
      (⟨"subject.name", .gt, .text "～"⟩ : Condition).holds face = true ∧
      (⟨"subject.name", .ge, .text "～"⟩ : Condition).holds tilde = true ∧
      tilde.get? "subject.age" = none ∧
      (⟨"subject.age", .ne, .null⟩ : Condition).holds tilde = false ∧
      (Value.time ⟨1483228799, 1000000000⟩).compare (.time ⟨1483228800, 0⟩) = .lt := by
  intro tilde face
  obtain ⟨_, _, _, htexts, htimes, hfound, hmissing⟩ := a_comparison_reads_the_same_from_both_sides
  have htilde : tilde.get? "subject.name" = some (.text "～") := rfl
  have hface : face.get? "subject.name" = some (.text "😀") := rfl
  have hage : tilde.get? "subject.age" = none := rfl
  have hless : (Value.text "～").compare (.text "😀") = .lt := by
    rw [htexts.lt_iff]
    decide
  have hlt : (⟨"subject.name", .lt, .text "😀"⟩ : Condition).holds tilde = true :=
    congrArg (· == Ordering.lt) hless
  have hself : (⟨"subject.name", .eq, .text "～"⟩ : Condition).holds tilde = true :=
    (Value.same_text "～" "～").2 rfl
  obtain ⟨hopposed, hturned⟩ := hfound tilde "subject.name" _ (.text "😀") htilde
  obtain ⟨hequal, _⟩ := hfound tilde "subject.name" _ (.text "～") htilde
  refine ⟨htilde, hface, hlt, ?_, (hturned face hface).gt.trans hlt, (hequal.of_eq hself).1, hage,
    hmissing tilde "subject.age" hage .ne .null, ?_⟩
  · have hge := hopposed.lt.symm.trans hlt
    simpa using hge
  · rw [htimes.lt_iff]
    decide

end Warrant
