-- The signing algorithms that a token can name. Those of the HMAC family
-- come with their hash function.
import Warrant.Digest.Hmac

namespace Warrant.Token

open Warrant.Digest

inductive Algorithm
  | hs256 | hs384 | hs512
  | es256 | es384
  | rs256 | rs384 | rs512
  | ps256 | ps384 | ps512
  | edDsa
deriving DecidableEq, Repr

namespace Algorithm

def name : Algorithm → String
  | hs256 => "HS256"
  | hs384 => "HS384"
  | hs512 => "HS512"
  | es256 => "ES256"
  | es384 => "ES384"
  | rs256 => "RS256"
  | rs384 => "RS384"
  | rs512 => "RS512"
  | ps256 => "PS256"
  | ps384 => "PS384"
  | ps512 => "PS512"
  | edDsa => "EdDSA"

def all : List Algorithm :=
  [hs256, hs384, hs512, es256, es384, rs256, rs384, rs512, ps256, ps384, ps512, edDsa]

def ofName? (name : String) : Option Algorithm := all.find? (·.name == name)

theorem ofName?_name (a : Algorithm) : ofName? a.name = some a := by
  cases a <;> decide

theorem name_of_ofName? {name : String} {a : Algorithm} (h : ofName? name = some a) :
    a.name = name := by
  have hname := List.find?_some h
  simpa using hname

/-- The hash function of an HMAC algorithm. -/
def hash? : Algorithm → Option Hash
  | hs256 => some sha256
  | hs384 => some sha384
  | hs512 => some sha512
  | _ => none

end Algorithm

end Warrant.Token
