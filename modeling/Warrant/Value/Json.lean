-- Values as JSON. The text has no tags: a string that reads as an instant
-- is an instant, and a number that fits 64 bits is an integer. A floating
-- point number that is not finite is written as null.
import Warrant.Binary64.Shortest
import Warrant.Instant.Text
import Warrant.Json.Record
import Warrant.Value

namespace Warrant.Value

/-! ## Writing -/

def floatJson (x : Binary64) : Json := if x.isFinite then .number x.numeral else .null

mutual

def toJson : Value → Json
  | .null => .null
  | .bool b => .bool b
  | .int n => .int n.toInt
  | .float x => floatJson x
  | .time t => .text t.write
  | .text s => .text s
  | .list items => .array (itemsJson items)
  | .map entries => .object (entriesJson entries)

def itemsJson : List Value → List Json
  | [] => []
  | v :: r => v.toJson :: itemsJson r

def entriesJson : List (String × Value) → List (Json.Literal × Json)
  | [] => []
  | (k, v) :: r => (.ok k, v.toJson) :: entriesJson r

end

/-! ## Reading -/

def ofNumber : Json.Number → Value
  | .integer n =>
    match Word.signed? n with
    | some w => .int w
    | none => .float (.ofNat n.toNat)
  | .real x => .float x

/-- A string is the instant that it denotes, or a text. -/
def ofString (s : String) : Value :=
  match Instant.read? s with
  | some t => .time t
  | none => .text s

mutual

/-- The value of a tree. Each array and each object takes one of the
levels that are left. Of two members with one key the later one counts. -/
def ofJson? (levels : Nat) : Json → Option Value
  | .null => some .null
  | .bool b => some (.bool b)
  | .number n => n.number?.map ofNumber
  | .string s => s.toOption.map ofString
  | .array items =>
    match levels with
    | 0 => none
    | n + 1 => (ofItems? n items).map .list
  | .object members =>
    match levels with
    | 0 => none
    | n + 1 => (ofMembers? n members).map fun entries => .map (Entries.ofList entries)

def ofItems? (levels : Nat) : List Json → Option (List Value)
  | [] => some []
  | j :: r => do
    let v ← ofJson? levels j
    let vs ← ofItems? levels r
    return v :: vs

def ofMembers? (levels : Nat) : List (Json.Literal × Json) → Option (List (String × Value))
  | [] => some []
  | (k, j) :: r => do
    let k ← k.toOption
    let v ← ofJson? levels j
    let vs ← ofMembers? levels r
    return (k, v) :: vs

end

mutual

/-- The reader of a tree without a value stops right behind the tree: its
last literal stops the reader behind it, and all that comes before has a
value. -/
def stopsBehind (levels : Nat) : Json → Bool
  | .number n => n.number?.isNone && n.stop == .behind
  | .string (.error stop) => stop == .behind
  | .array items =>
    match levels with
    | 0 => false
    | n + 1 => itemsStopBehind n items
  | .object members =>
    match levels with
    | 0 => false
    | n + 1 => membersStopBehind n members
  | _ => false

def itemsStopBehind (levels : Nat) : List Json → Bool
  | [] => false
  | [j] => stopsBehind levels j
  | j :: r => (ofJson? levels j).isSome && itemsStopBehind levels r

def membersStopBehind (levels : Nat) : List (Json.Literal × Json) → Bool
  | [] => false
  | [(k, j)] => k.isOk && stopsBehind levels j
  | (k, j) :: r => k.isOk && (ofJson? levels j).isSome && membersStopBehind levels r

end

/-- The most arrays and objects that may stand around a value, itself
included. -/
def maxLevels : Nat := 127

/-- Attributes as JSON. -/
def attributesJson (m : Attributes) : Json := .object (entriesJson m.entries)

/-- The attributes of a tree, if it is an object. The object takes a level. -/
def attributes? (levels : Nat) : Json → Option Attributes
  | .object members => (ofMembers? (levels - 1) members).map KeyMap.ofList
  | _ => none

/-- The value that a text denotes. -/
def read? (text : String) : Option Value := do
  ofJson? maxLevels (← Json.read? text.toList)

/-- The attributes that a text denotes. -/
def readAttributes? (text : String) : Option Attributes := do
  attributes? maxLevels (← Json.read? text.toList)

end Warrant.Value
