-- Why a call is refused. Each cause is a constructor, and `message` has all
-- the wording, but for the words of a JSON reader. Faults of a configuration
-- and of a token have types of their own. A call can also die without an
-- answer.
import Warrant.Instant
import Warrant.Text.Base64Url
import Warrant.Text.Decimal
import Warrant.Text.Utf8

namespace Warrant

open Warrant.Text

/-- A user, a client's subject, or the subject of a token. -/
abbrev UserId := UInt64

/-! ## Configuration -/

inductive SettingsFault
  | unknownCredentialMode (text : String)
  | unknownPermissionModel (text : String)
  | jwtSecretMissing
  | jwtSettingsMissing
  | jwtSecretEmpty
  | jwtLifetimeZero
  | oauthLifetimeZero
deriving DecidableEq, Repr

def SettingsFault.message : SettingsFault → String
  | .unknownCredentialMode text =>
    "unknown credential mode '" ++ text ++ "', expected 'jwt' or 'oauth2'"
  | .unknownPermissionModel text =>
    "unknown permission mode '" ++ text ++ "', expected 'rbac' or 'abac'"
  | .jwtSecretMissing =>
    "AUTHZ_JWT_SECRET environment variable is required in jwt mode. " ++
      "Generate one with: openssl rand -base64 32"
  | .jwtSettingsMissing => "JWT credential mode requires a JWT configuration"
  | .jwtSecretEmpty => "JWT secret key must not be empty"
  | .jwtLifetimeZero => "JWT token lifetimes must be positive"
  | .oauthLifetimeZero => "OAuth2 access token lifetime must be positive"

/-- A fault as a refusal tells it. -/
def SettingsFault.report (fault : SettingsFault) : String :=
  "Configuration error: " ++ fault.message

/-! ## The form of a token -/

/-- What the JSON text in a part is read for. A payload is read twice. -/
inductive Content
  | header | claims | terms
deriving DecidableEq, Repr

/-- What a JSON reader says of a text that it cannot read as some content. -/
abbrev Wording := Content → List UInt8 → String

/-- Why a text is no signed token at all. A JSON text is told by its bytes. -/
inductive Malformation
  | parts
  | base64 (fault : Base64Url.Fault)
  | utf8 (fault : Utf8.Fault)
  | json (content : Content) (bytes : List UInt8)
deriving DecidableEq, Repr

def Malformation.message (wording : Wording) : Malformation → String
  | .parts => "InvalidToken"
  | .base64 fault => "Base64 error: " ++ fault.message
  | .utf8 fault => "UTF-8 error: " ++ fault.message
  | .json content bytes => "JSON error: " ++ wording content bytes

/-! ## Refusals -/

inductive Refusal
  | configuration (fault : SettingsFault)
  | invalidSignature
  | invalidToken
  | tokenExpired
  | tokenNotYetValid
  | tokenMalformed (fault : Malformation)
  | invalidRefreshToken
  | tokenGeneration (text : String)
  | unknownClient (id : String)
  | redirectMismatch
  | invalidClientCredentials
  | invalidCode
  | codeExpired
  | clientMismatch
  | unknownRole (name : String)
  | permissionDenied (user : UserId) (resource action : String)
  | accessDenied (policy : Option String)
  | unsupportedFlow (text : String)
  | noPermissionModel
  | userNotFound (user : UserId)
  | lockPoisoned (text : String)
deriving DecidableEq, Repr

def Refusal.message (wording : Wording) : Refusal → String
  | .configuration fault => fault.report
  | .invalidSignature => "Invalid token signature"
  | .invalidToken => "Invalid token"
  | .tokenExpired => "Token expired"
  | .tokenNotYetValid => "Token not yet valid"
  | .tokenMalformed fault => "Malformed token: " ++ fault.message wording
  | .invalidRefreshToken => "Invalid refresh token"
  | .tokenGeneration text => "Failed to generate token: " ++ text
  | .unknownClient id => "Unknown client: " ++ id
  | .redirectMismatch => "Redirect URI mismatch"
  | .invalidClientCredentials => "Invalid client credentials"
  | .invalidCode => "Invalid authorization code"
  | .codeExpired => "Authorization code expired"
  | .clientMismatch => "Authorization code was issued to another client"
  | .unknownRole name => "Unknown role: " ++ name
  | .permissionDenied user resource action =>
    "Permission denied: user " ++ Decimal.text user.toNat ++ " cannot " ++ action ++ " on " ++
      resource
  | .accessDenied (some policy) => "Access denied by policy " ++ policy
  | .accessDenied none => "Access denied: no matching policy"
  | .unsupportedFlow text => "Unsupported flow: " ++ text
  | .noPermissionModel => "No permission manager configured"
  | .userNotFound user => "User not found: " ++ Decimal.text user.toNat
  | .lockPoisoned text => "Lock poisoned: " ++ text

/-- What a call on a lock says after a holder of the lock has died. -/
def Refusal.poisoned : Refusal := .lockPoisoned "poisoned lock: another task failed inside"

/-- How a call ends without its answer. It dies if it needs an instant that
no clock shows, or that is not in the calendar. -/
inductive Failure
  | refused (cause : Refusal)
  | died
deriving DecidableEq, Repr

/-! ## Looks at a clock -/

namespace Instant

variable {α : Type} {now : Instant}

/-- An answer that takes a look at a clock. -/
def look (now : Instant) (answer : α) : Except Failure α :=
  if now.OnClock then .ok answer else .error .died

theorem look_of_onClock (h : now.OnClock) (answer : α) : now.look answer = .ok answer :=
  if_pos h

theorem look_of_not_onClock (h : ¬ now.OnClock) (answer : α) : now.look answer = .error .died :=
  if_neg h

theorem look_eq_ok_iff {answer a : α} : now.look answer = .ok a ↔ now.OnClock ∧ answer = a := by
  unfold look
  split <;> simp [*]

/-- A look at a clock fails in one way. -/
theorem look_eq_error_iff {answer : α} {f : Failure} :
    now.look answer = .error f ↔ ¬ now.OnClock ∧ f = .died := by
  unfold look
  split <;> simp [*, eq_comm]

end Instant

end Warrant
