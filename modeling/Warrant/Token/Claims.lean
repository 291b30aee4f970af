-- What a token says: who it is about, what they may do, and from when to
-- when it counts. Times are whole seconds.
import Warrant.Refusal
import Warrant.Value.Json

namespace Warrant.Token

open Warrant.Text

structure Claims where
  subject : UserId
  name : String
  roles : List String
  extra : Attributes
  expiresAt : Int64
  issuedAt : Int64
  notBefore : Int64
  issuer : String
  id : String

namespace Claims

/-- Claims that count from now on, for a lifetime in seconds. The end wraps
to 64 bits. -/
def starting (now : Instant) (id : String) (subject : UserId) (name : String)
    (roles : List String) (extra : Attributes) (issuer : String) (ttl : UInt64) : Claims where
  subject := subject
  name := name
  roles := roles
  extra := extra
  expiresAt := Int64.ofInt (now.seconds + ttl.toNat)
  issuedAt := Int64.ofInt now.seconds
  notBefore := Int64.ofInt now.seconds
  issuer := issuer
  id := id

/-- Claims that start at the instant that a clock shows. -/
def new (now : Instant) (id : String) (subject : UserId) (name : String) (roles : List String)
    (extra : Attributes) (issuer : String) (ttl : UInt64) : Except Failure Claims :=
  now.look (.starting now id subject name roles extra issuer ttl)

/-- The claims are over. -/
def isOver (c : Claims) (now : Instant) : Bool := decide (c.expiresAt.toInt < now.seconds)

/-- Whether the claims are over, by a look at a clock. -/
def isExpired (c : Claims) (now : Instant) : Except Failure Bool := now.look (c.isOver now)

/-! ## JSON -/

/-- The fields of a payload, with a tree for the extra claims. The subject is a
text. Roles and extra claims are left out if there are none. -/
def fields (c : Claims) (extra : Json) : List (String × Json) :=
  [("sub", .text (Decimal.text c.subject.toNat)), ("name", .text c.name)] ++
    (if c.roles.isEmpty then [] else [("roles", .texts c.roles)]) ++
    (if c.extra.entries.isEmpty then [] else [("extra", extra)]) ++
    [("exp", .int c.expiresAt.toInt), ("iat", .int c.issuedAt.toInt),
      ("nbf", .int c.notBefore.toInt), ("iss", .text c.issuer), ("jti", .text c.id)]

def toJson (c : Claims) : Json := .ofFields (c.fields (Value.attributesJson c.extra))

def fieldNames : List String :=
  ["sub", "name", "roles", "extra", "exp", "iat", "nbf", "iss", "jti"]

def ofJson? (j : Json) : Option Claims := do
  let fields ← j.fields? fieldNames
  let subject ← Decimal.readWord? (← (← fields.lookup "sub").text?).toList
  let name ← (← fields.lookup "name").text?
  let roles ← Json.fieldOr [] Json.texts? (fields.lookup "roles")
  let extra ←
    Json.fieldOr .empty (Value.attributes? (Value.maxLevels - 1)) (fields.lookup "extra")
  let expiresAt ← (← fields.lookup "exp").int64?
  let issuedAt ← (← fields.lookup "iat").int64?
  let notBefore ← (← fields.lookup "nbf").int64?
  let issuer ← (← fields.lookup "iss").text?
  let id ← (← fields.lookup "jti").text?
  return ⟨subject, name, roles, extra, expiresAt, issuedAt, notBefore, issuer, id⟩

end Claims

/-! ## Payloads

The checks read a payload once more, for themselves. What they cannot read is
not there for them. -/

/-- What the checks of a token look at. -/
structure Terms where
  expiresAt : Option Nat
  notBefore : Option Nat
  issuer : Option String
  hasAudience : Bool

namespace Terms

/-- A time that is not negative. -/
def time? (j : Json) : Option Nat := j.integer?.bind Int.toNat?

/-- An audience is a text or a list of texts. -/
def isAudience (j : Json) : Bool := j.text?.isSome || j.texts?.isSome

/-- Whether the payload has an audience. The member may stand once. A tree
without a value is no audience, and the reader can go on if it stops right
behind the tree. -/
def audience? (members : List (String × Json)) : Option Bool :=
  let levels := Value.maxLevels - 1
  match members.filter (·.1 == "aud") with
  | [] => some false
  | [(_, j)] =>
    match Value.ofJson? levels j with
    | some _ => some (isAudience j)
    | none => if Value.stopsBehind levels j then some false else none
  | _ => none

/-- The terms of an object that has claims. So its times are integers, and its
issuer is one text. -/
def ofMembers? (members : List (String × Json)) : Option Terms := do
  return {
    expiresAt := (members.lookup "exp").bind time?
    notBefore := (members.lookup "nbf").bind time?
    issuer := (members.lookup "iss").bind Json.text?
    hasAudience := ← audience? members }

/-- Only an object has terms. -/
def ofJson? (j : Json) : Option Terms := do
  ofMembers? (← j.members?)

end Terms

structure Payload where
  claims : Claims
  terms : Terms

end Warrant.Token
