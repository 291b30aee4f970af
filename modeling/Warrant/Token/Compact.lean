-- Tokens as texts: header, payload and signature, with dots between them.
-- The parts are base64. The last two dots count, so a part before them may
-- hold more dots.
import Warrant.Text.Utf8
import Warrant.Token.Claims
import Warrant.Token.Header

namespace Warrant.Token

open Warrant.Text Warrant.Digest

/-- What stands before and after the last dot. -/
def splitLastDot : List Char → Option (List Char × List Char)
  | [] => none
  | c :: r =>
    match splitLastDot r with
    | some (before, after) => some (c :: before, after)
    | none => if c = '.' then some ([], r) else none

theorem splitLastDot_eq_none {cs : List Char} (h : '.' ∉ cs) : splitLastDot cs = none := by
  induction cs with
  | nil => rfl
  | cons c r ih =>
    rw [List.mem_cons, not_or] at h
    simp [splitLastDot, ih h.2, Ne.symm h.1]

/-- Two texts with a dot between them are split there, if the second has no
dot. -/
theorem splitLastDot_append (before : List Char) {after : List Char} (h : '.' ∉ after) :
    splitLastDot (before ++ '.' :: after) = some (before, after) := by
  induction before with
  | nil => simp [splitLastDot, splitLastDot_eq_none h]
  | cons c r ih => simp [splitLastDot, ih]

structure Compact where
  header : List Char
  payload : List Char
  signature : List Char
deriving DecidableEq

namespace Compact

/-- The text that is signed. -/
def message (c : Compact) : List Char := c.header ++ '.' :: c.payload

def text (c : Compact) : String := String.ofList (c.message ++ '.' :: c.signature)

def read (token : String) : Except Malformation Compact :=
  match splitLastDot token.toList with
  | none => .error .parts
  | some (message, signature) =>
    match splitLastDot message with
    | none => .error .parts
    | some (header, payload) => .ok ⟨header, payload, signature⟩

/-! ## Parts -/

/-- The part that holds a JSON tree. -/
def encodeJson (j : Json) : List Char := Base64Url.encode (Utf8.bytes j.write)

/-- The bytes in a part. -/
def decode (part : List Char) : Except Malformation (List UInt8) :=
  (Base64Url.decode (Utf8.bytes (String.ofList part))).mapError Malformation.base64

/-- The JSON tree in a part, if there is one. -/
def json? (part : List Char) : Option Json := do
  Json.ofBytes? (← (decode part).toOption)

/-- The content of the JSON tree in a part. -/
def readJson {α : Type} (content : Content) (value? : Json → Option α) (part : List Char) :
    Except Malformation α := do
  let bytes ← decode part
  match Json.ofBytes? bytes >>= value? with
  | some a => return a
  | none => throw (.json content bytes)

def algorithm (c : Compact) : Except Malformation Algorithm :=
  readJson .header Header.algorithm? c.header

def readPayload (c : Compact) : Except Malformation Payload := do
  let claims ← readJson .claims Claims.ofJson? c.payload
  let terms ← readJson .terms Terms.ofJson? c.payload
  return ⟨claims, terms⟩

/-! ## Signatures -/

/-- The signature of a message under a secret. -/
def signatureOf (hash : Hash) (secret : String) (message : List Char) : List Char :=
  Base64Url.encode (hash.hmac (Utf8.bytes secret) (Utf8.bytes (String.ofList message)))

/-- The token with a payload. -/
def signJson (secret : String) (payload : Json) : Compact :=
  let unsigned : Compact := ⟨encodeJson Header.own, encodeJson payload, []⟩
  { unsigned with signature := signatureOf sha256 secret unsigned.message }

/-- The token of some claims. -/
def sign (secret : String) (claims : Claims) : Compact := signJson secret claims.toJson

end Compact

/-- The algorithm that a text declares up to its first dot, with or without
padding. -/
def declaredAlgorithm? (token : String) : Option String := do
  let part := token.toList.takeWhile (· != '.')
  let part := (part.reverse.dropWhile (· = '=')).reverse
  Header.declared? (← Compact.json? part)

end Warrant.Token
