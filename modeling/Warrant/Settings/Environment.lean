-- Settings from the variables of an environment. A value that is no text
-- counts as not set, and so does a lifetime that is no number.
import Warrant.KeyMap
import Warrant.Settings.Basic
import Warrant.Text.Decimal
import Warrant.Text.Utf8

namespace Warrant

open Warrant.Text

/-- The variables that are set, with the bytes of their values. -/
abbrev Environment := KeyMap String (List UInt8)

namespace Environment

/-- The entry of a variable: the key that it is under, and the value. An
entry reads as its key, an equals sign and its value, and the first entry
counts that starts with the name and an equals sign. So a name that has one
itself can reach into a value. The empty name has no entry. -/
def entry? (env : Environment) (name : String) : Option (String × List UInt8) :=
  if name = "" then none
  else
    env.entries.findSome? fun (key, value) =>
      (Utf8.bytes (name ++ "=")).isPrefixOf? (Utf8.bytes (key ++ "=") ++ value)
        |>.map (key, ·)

/-- The value of a variable, if its entry has a text. -/
def value? (env : Environment) (name : String) : Option String :=
  (env.entry? name).bind fun e => Utf8.text? e.2

/-- Puts a variable in the place of the entry that it has. -/
def assign (env : Environment) (name value : String) : Environment :=
  let env := match env.entry? name with
    | some (key, _) => env.erase key
    | none => env
  env.insert name (Utf8.bytes value)

def seconds? (env : Environment) (name : String) : Option UInt64 := do
  Decimal.readWord? (← env.value? name).toList

/-- The characters of a text, with the letters A to Z made small. -/
def asciiLowercase (cs : List Char) : List Char := cs.map Char.toLower

/-- The word "none" stands for no permissions at all, and no word for
roles. -/
def permissions (env : Environment) : Except SettingsFault (Option PermissionModel) :=
  match env.value? "AUTHZ_PERMISSION_MODE" with
  | none => .ok (some .roles)
  | some text =>
    if asciiLowercase (trim text.toList) = ['n', 'o', 'n', 'e'] then .ok none
    else (PermissionModel.read text).map some

def credentials (env : Environment) : Except SettingsFault CredentialMode :=
  match env.value? "AUTHZ_CREDENTIAL_MODE" with
  | none => .ok .jwt
  | some text => CredentialMode.read text

/-- The secret has two names, of which the first comes first. -/
def secret (env : Environment) : Except SettingsFault String :=
  match env.value? "AUTHZ_JWT_SECRET", env.value? "JWT_SECRET" with
  | some s, _ => .ok s
  | none, some s => .ok s
  | none, none => .error .jwtSecretMissing

def jwt (env : Environment) : Except SettingsFault JwtSettings := do
  return {
    secret := ← env.secret
    issuer := (env.value? "AUTHZ_JWT_ISSUER").getD defaultIssuer
    accessTtl := (env.seconds? "AUTHZ_JWT_ACCESS_TTL_SECS").getD defaultAccessTtl
    refreshTtl := (env.seconds? "AUTHZ_JWT_REFRESH_TTL_SECS").getD defaultRefreshTtl }

def oauth (env : Environment) : OAuthSettings where
  accessTtl := (env.seconds? "AUTHZ_OAUTH2_ACCESS_TTL_SECS").getD defaultAccessTtl
  refreshTtl := (env.seconds? "AUTHZ_OAUTH2_REFRESH_TTL_SECS").getD defaultRefreshTtl

/-- The settings of an environment, checked. -/
def settings (env : Environment) : Except SettingsFault Settings := do
  let credentials ← env.credentials
  let permissions ← env.permissions
  let jwt ← match credentials with
    | .jwt => some <$> env.jwt
    | .oauth => pure none
  let settings := ⟨credentials, permissions, jwt, env.oauth⟩
  Settings.check settings
  return settings

end Environment

end Warrant
