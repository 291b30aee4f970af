-- The signer makes tokens and checks them. Access tokens have roles and
-- extra claims, refresh tokens have neither. A new token needs an instant
-- that a clock shows. A check only needs the seconds since 1970, so it goes
-- on beyond the calendar.
import Warrant.Settings.Basic
import Warrant.Token.Compact
import Warrant.Token.Fault

namespace Warrant.Token

/-- A signer has a secret. -/
structure Signer where
  settings : JwtSettings
  secret_ne : settings.secret ≠ ""

namespace Signer

def ofSettings (settings : JwtSettings) : Except SettingsFault Signer :=
  if h : settings.secret = "" then .error .jwtSecretEmpty else .ok ⟨settings, h⟩

/-- What the program says when it dies because there can be no signer. -/
def deathMessage (fault : SettingsFault) : String :=
  "TokenSigner cannot be created: " ++ fault.report

/-! ## Tokens -/

def sign (s : Signer) (claims : Claims) : String := (Compact.sign s.settings.secret claims).text

def accessClaims (s : Signer) (now : Instant) (id : String) (subject : UserId) (name : String)
    (roles : List String) (extra : Attributes) : Claims :=
  .starting now id subject name roles extra s.settings.issuer s.settings.accessTtl

def refreshClaims (s : Signer) (now : Instant) (id : String) (subject : UserId) (name : String) :
    Claims :=
  .starting now id subject name [] .empty s.settings.issuer s.settings.refreshTtl

def issueAccess (s : Signer) (now : Instant) (id : String) (subject : UserId) (name : String)
    (roles : List String) (extra : Attributes) : Except Failure String := do
  let claims ← Claims.new now id subject name roles extra s.settings.issuer s.settings.accessTtl
  return s.sign claims

def issueRefresh (s : Signer) (now : Instant) (id : String) (subject : UserId) (name : String) :
    Except Failure String := do
  let claims ← Claims.new now id subject name [] .empty s.settings.issuer s.settings.refreshTtl
  return s.sign claims

/-- The ids of two tokens. -/
structure PairIds where
  access : String
  refresh : String

/-- An access token and a refresh token for one subject. -/
def issuePair (s : Signer) (now : Instant) (ids : PairIds) (subject : UserId) (name : String)
    (roles : List String) (extra : Attributes) : Except Failure (String × String) := do
  let access ← s.issueAccess now ids.access subject name roles extra
  let refresh ← s.issueRefresh now ids.refresh subject name
  return (access, refresh)

/-! ## Checks -/

/-- The token counts now and here. It must have an end. A start, an issuer
and an audience are looked at if they are there. -/
def checkTerms (s : Signer) (now : Instant) (t : Terms) : Except Fault Unit :=
  match t.expiresAt with
  | none => .error (.missingClaim "exp")
  | some e =>
    if now.seconds < 0 then .error .noTime
    else if e < now.seconds then .error .expired
    else if t.notBefore.any fun n : Nat => now.seconds < n then .error .notYetValid
    else if t.issuer.any (· ≠ s.settings.issuer) then .error .wrongIssuer
    else if t.hasAudience then .error .wrongAudience
    else .ok ()

/-- The signature is the one of the secret, under an algorithm that uses
one. -/
def checkSignature (s : Signer) (c : Compact) (a : Algorithm) : Except Fault Unit :=
  match a.hash? with
  | none => .error .wrongAlgorithm
  | some hash =>
    if c.signature = Compact.signatureOf hash s.settings.secret c.message then .ok ()
    else .error .wrongSignature

/-- The claims of a token. The header comes first, then the signature, then
the payload. -/
def verify (s : Signer) (now : Instant) (token : String) : Except Fault Claims := do
  let c ← (Compact.read token).mapError Fault.malformed
  let a ← c.algorithm.mapError Fault.malformed
  s.checkSignature c a
  let p ← c.readPayload.mapError Fault.malformed
  s.checkTerms now p.terms
  return p.claims

/-- The text declares an algorithm, and one without a shared secret. -/
def declaresForeignAlgorithm (token : String) : Bool :=
  (declaredAlgorithm? token).any fun name => !(['H', 'S'].isPrefixOf name.toList)

/-- The claims of a token that counts now. A foreign algorithm is a wrong
signature, even one that is not known. -/
def validate (s : Signer) (now : Instant) (token : String) : Except Failure Claims :=
  match s.verify now token with
  | .ok c => .ok c
  | .error (.malformed fault) =>
    if declaresForeignAlgorithm token then .error (.refused .invalidSignature)
    else .error (.refused (.tokenMalformed fault))
  | .error fault => .error fault.failure

/-- A new access token for any token that counts now. -/
def refresh (s : Signer) (now : Instant) (id token : String) : Except Failure String :=
  match s.validate now token with
  | .ok c => s.issueAccess now id c.subject c.name c.roles c.extra
  | .error (.refused _) => .error (.refused .invalidRefreshToken)
  | .error .died => .error .died

end Signer

/-- The claims of a text that has the form of a token. Nothing vouches for
them. -/
def unverified (token : String) : Except Refusal Claims :=
  let read : Except Malformation Claims := do
    let c ← Compact.read token
    let _ ← c.algorithm
    return (← c.readPayload).claims
  read.mapError .tokenMalformed

end Warrant.Token
