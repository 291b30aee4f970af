-- The authority answers for an application: it issues credentials, says
-- who presents one, and decides what users may do. It has one kind of
-- credentials, and one model of permissions or none.
import Warrant.OAuth.Server
import Warrant.Policy.Store
import Warrant.Roles.Registry
import Warrant.Token.Signer
import Warrant.User

namespace Warrant

inductive Credentials
  | jwt (signer : Token.Signer)
  | oauth (server : OAuth.Server)

inductive Permissions
  | roles (registry : RoleRegistry)
  | policies (store : PolicyStore)

structure Authority where
  credentials : Credentials
  permissions : Option Permissions

/-- Who presents a credential. -/
structure Principal where
  user : UserId
  name : String
  roles : List String
deriving DecidableEq, Repr

def Credentials.ofSettings (s : Settings) : Except SettingsFault Credentials :=
  match s.credentials, s.jwt with
  | .jwt, some settings => (Token.Signer.ofSettings settings).map .jwt
  | .jwt, none => .error .jwtSettingsMissing
  | .oauth, _ => .ok (.oauth (.new s.oauth))

def Permissions.empty : PermissionModel → Permissions
  | .roles => .roles .empty
  | .policies => .policies .empty

namespace Authority

/-- The authority of checked settings. -/
def ofSettings (s : Settings) : Except SettingsFault Authority := do
  s.check
  return ⟨← Credentials.ofSettings s, s.permissions.map Permissions.empty⟩

/-! ## Credentials -/

def noDirectIssue : String :=
  "OAuth2 tokens are only issued through the authorization code exchange"

/-- An access token and a refresh token for a user. -/
def issue (a : Authority) (now : Instant) (ids : Token.Signer.PairIds) (user : UserId)
    (name : String) (roles : List String) (extra : Attributes) :
    Except Failure (String × String) :=
  match a.credentials with
  | .jwt signer => signer.issuePair now ids user name roles extra
  | .oauth _ => .error (.refused (.unsupportedFlow noDirectIssue))

/-- Who presents an access token. An opaque token knows the id alone, and
the loader tells the rest. -/
def validate {m : Type → Type} [Monad m] (a : Authority) (loader : Option (Loader m))
    (now : Instant) (token : String) : m (Except Failure Principal) :=
  match a.credentials with
  | .jwt signer =>
    pure ((signer.validate now token).map fun c => ⟨c.subject, c.name, c.roles⟩)
  | .oauth server =>
    match server.validate now token with
    | .error f => pure (.error f)
    | .ok pair => do
      match ← loadUser loader pair.subject with
      | some user => return .ok ⟨pair.subject, user.name, user.roles⟩
      | none => return .ok ⟨pair.subject, "", []⟩

/-- A new access token for a refresh token. `fresh` is its id or its text. -/
def refresh (a : Authority) (now : Instant) (fresh token : String) :
    Authority × Except Failure String :=
  match a.credentials with
  | .jwt signer => (a, signer.refresh now fresh token)
  | .oauth server =>
    let (server, answer) := server.refresh now fresh token
    ({ a with credentials := .oauth server }, answer.map (·.access))

/-! ## Permissions -/

/-- The attributes of a user, with the id that the user goes by. -/
def subjectAttributes (id : UserId) (user : Option User) : Attributes :=
  ((user.map User.attributes).getD KeyMap.empty).insert "id" (.ofWord id)

/-- The decision on an action. Roles look at the name of the resource,
policies at its attributes. -/
def check {m : Type → Type} [Monad m] (a : Authority) (loader : Option (Loader m))
    (user : UserId) (resource action : String) (attributes : Attributes) :
    m (Except Refusal Unit) :=
  match a.permissions with
  | some (.roles registry) => pure (registry.check user resource action)
  | some (.policies store) => do
    return store.check (subjectAttributes user (← loadUser loader user)) attributes action
  | none => pure (.error .noPermissionModel)

def allows {m : Type → Type} [Monad m] (a : Authority) (loader : Option (Loader m))
    (user : UserId) (resource action : String) (attributes : Attributes) : m Bool := do
  return (← a.check loader user resource action attributes).isOk

end Authority

end Warrant
