-- What a policy asks of attributes. A requirement names an attribute of
-- one side and its value. A condition compares an attribute of the
-- combined attributes with an operand.
import Warrant.Value
import Warrant.Wildcard

namespace Warrant

/-! ## The combined attributes -/

/-- Subject and resource attributes in one map. The prefixes keep the two
apart. -/
def combine (subject resource : Attributes) : Attributes :=
  KeyMap.ofList
    (subject.entries.map (fun e => ("subject." ++ e.1, e.2)) ++
      resource.entries.map fun e => ("resource." ++ e.1, e.2))

/-! ## Requirements -/

structure Requirement where
  key : String
  value : Value

/-- A wildcard key is always met. A wildcard value asks for the attribute,
whatever its value. -/
def Requirement.met (r : Requirement) (attributes : Attributes) : Bool :=
  if r.key = wildcard then true
  else
    match attributes.get? r.key with
    | some actual => r.value.text? == some wildcard || actual.same r.value
    | none => false

/-! ## Conditions -/

inductive Operator
  | eq | ne | gt | lt | ge | le | within | contains
deriving DecidableEq, Repr

structure Condition where
  path : String
  operator : Operator
  operand : Value

/-- The first text occurs in the second. -/
def occursIn (needle : List Char) : List Char → Bool
  | [] => needle.isEmpty
  | c :: r => needle.isPrefixOf (c :: r) || occursIn needle r

/-- The operator holds between an attribute and an operand. -/
def Operator.holds (o : Operator) (actual operand : Value) : Bool :=
  match o with
  | .eq => actual.same operand
  | .ne => !actual.same operand
  | .gt => actual.compare operand == .gt
  | .lt => actual.compare operand == .lt
  | .ge => actual.compare operand != .lt
  | .le => actual.compare operand != .gt
  | .within =>
    match operand with
    | .list items => items.any (·.same actual)
    | _ => false
  | .contains =>
    match actual, operand with
    | .text s, .text part => occursIn part.toList s.toList
    | _, _ => false

/-- A condition on an attribute that is missing does not hold. -/
def Condition.holds (c : Condition) (combined : Attributes) : Bool :=
  match combined.get? c.path with
  | some actual => c.operator.holds actual c.operand
  | none => false

end Warrant
