-- What can be set: how credentials are made, how decisions are made, and
-- how long tokens live. Settings are checked before use.
--
-- A lifetime is a number of whole seconds. The fraction of a second that it
-- may have beside them is left out: only the check would see it, so there is
-- no counterpart of a lifetime below one second, which would pass the check
-- and then count as zero.
import Warrant.Refusal
import Warrant.Text.Blank
import Warrant.Text.Lowercase

namespace Warrant

open Warrant.Text

/-! ## Modes -/

inductive CredentialMode
  | jwt | oauth
deriving DecidableEq, Repr

inductive PermissionModel
  | roles | policies
deriving DecidableEq, Repr

/-- The name of a mode, whatever its case and the blanks around it. -/
def normalName (text : String) : String := String.ofList (lowercase (trim text.toList))

def CredentialMode.read (text : String) : Except SettingsFault CredentialMode :=
  let name := normalName text
  if name = "jwt" then .ok .jwt
  else if name = "oauth2" ∨ name = "oauth" then .ok .oauth
  else .error (.unknownCredentialMode name)

def PermissionModel.read (text : String) : Except SettingsFault PermissionModel :=
  let name := normalName text
  if name = "rbac" then .ok .roles
  else if name = "abac" then .ok .policies
  else .error (.unknownPermissionModel name)

/-! ## Settings -/

def defaultIssuer : String := "rusty-authz"

/-- The seconds that an access token lives, if nothing else is said. -/
def defaultAccessTtl : UInt64 := 900

/-- The seconds that a refresh token lives, if nothing else is said. -/
def defaultRefreshTtl : UInt64 := 604800

structure JwtSettings where
  secret : String
  issuer : String := defaultIssuer
  accessTtl : UInt64 := defaultAccessTtl
  refreshTtl : UInt64 := defaultRefreshTtl
deriving DecidableEq, Repr

structure OAuthSettings where
  accessTtl : UInt64 := defaultAccessTtl
  refreshTtl : UInt64 := defaultRefreshTtl
deriving DecidableEq, Repr

structure Settings where
  credentials : CredentialMode
  permissions : Option PermissionModel
  jwt : Option JwtSettings
  oauth : OAuthSettings
deriving DecidableEq, Repr

def JwtSettings.check (s : JwtSettings) : Except SettingsFault Unit :=
  if s.secret = "" then .error .jwtSecretEmpty
  else if s.accessTtl = 0 ∨ s.refreshTtl = 0 then .error .jwtLifetimeZero
  else .ok ()

def OAuthSettings.check (s : OAuthSettings) : Except SettingsFault Unit :=
  if s.accessTtl = 0 then .error .oauthLifetimeZero else .ok ()

/-- The JWT settings count in their own mode only, the OAuth settings
always. -/
def Settings.check (s : Settings) : Except SettingsFault Unit := do
  match s.credentials, s.jwt with
  | .jwt, none => throw .jwtSettingsMissing
  | .jwt, some jwt => jwt.check
  | .oauth, _ => pure ()
  s.oauth.check

end Warrant
