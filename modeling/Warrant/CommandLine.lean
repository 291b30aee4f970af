-- The command line: issues a pair of tokens for a user and checks the
-- first one.
import Warrant.Authority
import Warrant.Settings.Environment
import Warrant.Text.Quoted

namespace Warrant.CommandLine

open Warrant.Text

/-- What is said about a failure. A log entry says what did not work, and why. It
gets the time before it. -/
inductive Notice
  | usage
  | log (what : String) (cause : Refusal)
deriving DecidableEq, Repr

structure Outcome where
  exitCode : UInt8
  output : List String
  notice : Option Notice
deriving DecidableEq, Repr

/-- The outcome of a call that fails. If it dies, so does the program. -/
def Outcome.failed (output : List String) (what : String) : Failure → Outcome
  | .refused cause => ⟨1, output, some (.log what cause)⟩
  | .died => ⟨101, output, none⟩

/-- The outcome of settings that are wrong. -/
def Outcome.misconfigured (what : String) (fault : SettingsFault) : Outcome :=
  .failed [] what (.refused (.configuration fault))

def usageText : String := "usage: authz_demo <user-id> [display-name] [role...]"

/-- Who writes the log. -/
def logTarget : String := "authz_demo"

/-- The text of a log entry. -/
def logText (wording : Wording) (what : String) (cause : Refusal) : String :=
  what ++ ": " ++ cause.message wording

/-- A log entry of several lines: all but the first have an indent. -/
def indentLines (text : String) : List Char :=
  text.toList.flatMap fun c => if c = '\n' then '\n' :: List.replicate 4 ' ' else [c]

/-- What the arguments ask for. -/
structure Request where
  user : UserId
  name : String
  roles : List String
deriving DecidableEq, Repr

/-- A user has the name "user-…" if no name is given. -/
def Request.read : List String → Option Request
  | [] => none
  | id :: rest => do
    let user ← Decimal.readWord? id.toList
    return ⟨user, rest.head?.getD ("user-" ++ Decimal.text user.toNat), rest.drop 1⟩

def principalText (p : Principal) : String :=
  "validated: user_id=" ++ Decimal.text p.user.toNat ++ " display_name=" ++ p.name ++ " roles=" ++
    String.ofList (Quoted.renderList p.roles)

/-- Issues the tokens of a request and checks the access token. -/
def answer (a : Authority) (now : Instant) (ids : Token.Signer.PairIds) (r : Request) : Outcome :=
  match a.issue now ids r.user r.name r.roles .empty with
  | .error f => .failed [] "Failed to issue token" f
  | .ok (access, refresh) =>
    let tokens := ["access_token:  " ++ access, "refresh_token: " ++ refresh]
    match (a.validate none now access : Id (Except Failure Principal)) with
    | .error f => .failed tokens "Freshly issued token failed validation" f
    | .ok p => ⟨0, tokens ++ [principalText p], none⟩

/-- The settings come first, then the arguments. -/
def run (args : List String) (env : Environment) (now : Instant) (ids : Token.Signer.PairIds) :
    Outcome :=
  match env.settings with
  | .error fault => .misconfigured "Invalid configuration" fault
  | .ok settings =>
    match Request.read args with
    | none => ⟨2, [], some .usage⟩
    | some r =>
      match Authority.ofSettings settings with
      | .error fault => .misconfigured "Failed to build auth manager" fault
      | .ok a => answer a now ids r

end Warrant.CommandLine
