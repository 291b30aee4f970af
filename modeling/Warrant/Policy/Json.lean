-- The JSON forms of policies and their parts.
import Warrant.Policy.Basic
import Warrant.Value.Json

namespace Warrant

/-! ## Requirements -/

def Requirement.toJson (r : Requirement) : Json :=
  .ofFields [("key", .text r.key), ("value", r.value.toJson)]

/-- A requirement, with levels left for itself and its value. -/
def Requirement.ofJson? (levels : Nat) (j : Json) : Option Requirement := do
  let fields ← j.fields? ["key", "value"]
  let key ← (← fields.lookup "key").text?
  let value ← Value.ofJson? (levels - 1) (← fields.lookup "value")
  return ⟨key, value⟩

/-! ## Operators and effects -/

def Operator.name : Operator → String
  | .eq => "eq"
  | .ne => "ne"
  | .gt => "gt"
  | .lt => "lt"
  | .ge => "ge"
  | .le => "le"
  | .within => "in"
  | .contains => "contains"

def Operator.all : List Operator := [.eq, .ne, .gt, .lt, .ge, .le, .within, .contains]

def Operator.ofName? (name : String) : Option Operator := all.find? (·.name == name)

theorem Operator.ofName?_name (o : Operator) : ofName? o.name = some o := by
  cases o <;> decide

def Effect.name : Effect → String
  | .allow => "allow"
  | .deny => "deny"

def Effect.ofName? (name : String) : Option Effect :=
  [Effect.allow, Effect.deny].find? (·.name == name)

theorem Effect.ofName?_name (e : Effect) : ofName? e.name = some e := by
  cases e <;> decide

/-! ## Conditions -/

def Condition.toJson (c : Condition) : Json :=
  .ofFields [("attribute", .text c.path), ("operator", .text c.operator.name),
    ("value", c.operand.toJson)]

def Condition.ofJson? (levels : Nat) (j : Json) : Option Condition := do
  let fields ← j.fields? ["attribute", "operator", "value"]
  let path ← (← fields.lookup "attribute").text?
  let operator ← Operator.ofName? (← (← fields.lookup "operator").name?)
  let operand ← Value.ofJson? (levels - 1) (← fields.lookup "value")
  return ⟨path, operator, operand⟩

/-! ## Policies -/

namespace Policy

def toJson (p : Policy) : Json :=
  .ofFields [("id", .text p.id), ("name", .text p.name),
    ("subjects", .array (p.subjects.map Requirement.toJson)),
    ("resources", .array (p.resources.map Requirement.toJson)),
    ("actions", .texts (KeySet.toList p.actions)), ("effect", .text p.effect.name),
    ("conditions", .array (p.conditions.map Condition.toJson)),
    ("priority", .int p.priority.toInt)]

def fieldNames : List String :=
  ["id", "name", "subjects", "resources", "actions", "effect", "conditions", "priority"]

/-- Lists of requirements and conditions may be left out, and so may the
priority. The items of a list are two levels below the policy. -/
def ofJson? (levels : Nat) (j : Json) : Option Policy := do
  let fields ← j.fields? fieldNames
  let requirement? := Requirement.ofJson? (levels - 2)
  let id ← (← fields.lookup "id").text?
  let name ← (← fields.lookup "name").text?
  let subjects ← Json.fieldOr [] (Json.list? requirement?) (fields.lookup "subjects")
  let resources ← Json.fieldOr [] (Json.list? requirement?) (fields.lookup "resources")
  let actions ← (← fields.lookup "actions").texts?
  let effect ← Effect.ofName? (← (← fields.lookup "effect").name?)
  let conditions ←
    Json.fieldOr [] (Json.list? (Condition.ofJson? (levels - 2))) (fields.lookup "conditions")
  let priority ← Json.fieldOr 0 Json.int32? (fields.lookup "priority")
  return ⟨id, name, subjects, resources, KeySet.ofList actions, effect, conditions, priority⟩

/-- The policy that a text denotes. -/
def read? (text : String) : Option Policy := do
  ofJson? Value.maxLevels (← Json.read? text.toList)

end Policy

end Warrant
