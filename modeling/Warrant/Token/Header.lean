-- The header of a token. It names an algorithm, and its other fields need
-- the right form only.
import Warrant.Token.Algorithm
import Warrant.Value.Json

namespace Warrant.Token

/-! ## Public keys

A key is an object with fields of its own and fields for all keys. A field
that neither of them knows may stand any number of times. -/

namespace PublicKey

/-- The value of a field that stands once. -/
def field? (members : List (String × Json)) (name : String) : Option Json :=
  match members.filter (·.1 == name) with
  | [m] => some m.2
  | _ => none

/-- The field is not there, or stands once and passes the test. -/
def mayHave (members : List (String × Json)) (name : String) (test : Json → Bool) : Bool :=
  match members.filter (·.1 == name) with
  | [] => true
  | [m] => test m.2
  | _ => false

def isTextOrNull (j : Json) : Bool := (j.orNull? Json.text?).isSome

def isTextsOrNull (j : Json) : Bool := (j.orNull? Json.texts?).isSome

/-- The algorithms of keys are more than those of tokens. -/
def algorithmNames : List String :=
  Algorithm.all.map Algorithm.name ++ ["RSA1_5", "RSA-OAEP", "RSA-OAEP-256"]

/-- The name of an algorithm, as a text or as the only key of an object. The
key may have null or an empty object. -/
def algorithmName? : Json → Option String
  | .object [(.ok name, .object [])] => some name
  | j => j.name?

def isAlgorithmOrNull (j : Json) : Bool :=
  match j.orNull? algorithmName? with
  | some (some name) => algorithmNames.contains name
  | some none => true
  | none => false

def isNameOf (names : List String) (j : Json) : Bool :=
  match j.name? with
  | some name => names.contains name
  | none => false

def curves : List String := ["P-256", "P-384", "P-521", "Ed25519"]

/-- The fields for all keys. -/
def hasCommonForm (members : List (String × Json)) : Bool :=
  ["use", "kid", "x5u", "x5t", "x5t#S256"].all (mayHave members · isTextOrNull) &&
    ["key_ops", "x5c"].all (mayHave members · isTextsOrNull) &&
    mayHave members "alg" isAlgorithmOrNull

/-- The fields of one kind of key. -/
def hasKind (members : List (String × Json)) (kind : String) (onCurve : Bool)
    (texts : List String) : Bool :=
  (field? members "kty").any (isNameOf [kind]) &&
    (!onCurve || (field? members "crv").any (isNameOf curves)) &&
    texts.all fun name => (field? members name).any (·.text?.isSome)

/-- The tree is a key. It is two levels below the top of a header. -/
def isKey (j : Json) : Bool :=
  match j.members? with
  | some members =>
    (Value.ofJson? (Value.maxLevels - 1) j).isSome && hasCommonForm members &&
      (hasKind members "EC" true ["x", "y"] || hasKind members "RSA" false ["n", "e"] ||
        hasKind members "oct" false ["k"] || hasKind members "OKP" true ["x"])
  | none => false

end PublicKey

/-! ## Headers -/

namespace Header

def fieldNames : List String :=
  ["typ", "alg", "cty", "jku", "jwk", "kid", "x5u", "x5c", "x5t", "x5t#S256"]

/-- What the field of a name may hold, apart from null. -/
def isField (name : String) (j : Json) : Bool :=
  if name = "alg" then (do Algorithm.ofName? (← j.name?)).isSome
  else if name = "jwk" then PublicKey.isKey j
  else if name = "x5c" then j.texts?.isSome
  else j.text?.isSome

/-- An array has all fields, an object those that it needs. -/
def isComplete (names : List String) : Json → Bool
  | .array items => items.length == names.length
  | _ => true

/-- The algorithm that a header names, if all of the header has the right
form. -/
def algorithm? (header : Json) : Option Algorithm := do
  let fields ← header.fields? fieldNames
  guard (isComplete fieldNames header)
  guard (fields.all fun f => isField f.1 f.2 || (f.1 != "alg" && f.2 matches .null))
  Algorithm.ofName? (← (← fields.lookup "alg").name?)

/-- The algorithm that the header declares, known or not. All other fields
may hold anything. -/
def declared? (header : Json) : Option String := do
  guard (isComplete ["alg"] header)
  (← (← header.fields? ["alg"]).lookup "alg").text?

/-- The header of the tokens that are signed here. -/
def own : Json := .ofFields [("typ", .text "JWT"), ("alg", .text Algorithm.hs256.name)]

end Header

end Warrant.Token
