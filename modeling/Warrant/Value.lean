-- Attribute values: what subjects, resources and tokens say about
-- themselves. A map is kept as its entries in key order.
import Warrant.Binary64
import Warrant.Instant
import Warrant.KeyMap
import Warrant.Word

namespace Warrant

inductive Value
  | null
  | bool (b : Bool)
  | int (n : Int64)
  | float (x : Binary64)
  | time (t : Instant)
  | text (s : String)
  | list (items : List Value)
  | map (entries : List (String × Value))
deriving Inhabited

/-- Named values. -/
abbrev Attributes := KeyMap String Value

namespace Value

def ofMap (m : Attributes) : Value := .map m.entries

/-- A word is an integer if it fits, and else the nearest floating point
number. -/
def ofWord (n : UInt64) : Value :=
  if n.toNat < Word.half then .int (Int64.ofNat n.toNat) else .float (.ofNat n.toNat)

def text? : Value → Option String
  | .text s => some s
  | _ => none

/-! ## Equality -/

mutual

/-- Equality of values. Kinds never mix, and floating point numbers are
compared as numbers. -/
def same : Value → Value → Bool
  | .null, .null => true
  | .bool a, .bool b => a == b
  | .int a, .int b => a == b
  | .float a, .float b => a.same b
  | .time a, .time b => a == b
  | .text a, .text b => a == b
  | .list as, .list bs => sameItems as bs
  | .map as, .map bs => sameEntries as bs
  | _, _ => false

def sameItems : List Value → List Value → Bool
  | [], [] => true
  | a :: as, b :: bs => a.same b && sameItems as bs
  | _, _ => false

def sameEntries : List (String × Value) → List (String × Value) → Bool
  | [], [] => true
  | (k, a) :: as, (l, b) :: bs => k == l && a.same b && sameEntries as bs
  | _, _ => false

end

/-! ## Order -/

/-- The order of texts, by their bytes. -/
def compareTexts (a b : String) : Ordering :=
  if a < b then .lt else if a = b then .eq else .gt

/-- The order of two values of one ordered kind. Everything else counts as
equal, and so does a float that is no number. -/
def compare : Value → Value → Ordering
  | .int a, .int b => Ord.compare a.toInt b.toInt
  | .float a, .float b => (a.compare? b).getD .eq
  | .text a, .text b => compareTexts a b
  | .time a, .time b => a.compare b
  | _, _ => .eq

end Value

end Warrant
