-- The program: reads the environment and the file ".env", and runs the
-- command line.
import Std.Time.DateTime.Timestamp
import Warrant.CommandLine
import Warrant.Instant.Text
import Warrant.Settings.EnvFile
import Warrant.Token.Id

namespace Warrant.Program

open Warrant.Text

/-! ## The environment -/

/-- The longest runs of characters that pass a test. -/
def runs (test : Char → Bool) (cs : List Char) : List String :=
  let step := fun (c : Char) (groups : List (List Char)) =>
    match test c, groups with
    | true, g :: r => (c :: g) :: r
    | true, [] => [[c]]
    | false, groups => [] :: groups
  ((cs.foldr step [[]]).filter (!·.isEmpty)).map String.ofList

/-- All names that an environment file may set or look up. -/
def mentionedNames (file : List Char) : List String :=
  runs EnvFile.continuesName file ++ runs isAlphanumeric file ++
    runs (fun c => c != '\x7b' && c != '\x7d') file

def settingNames : List String :=
  ["AUTHZ_CREDENTIAL_MODE", "AUTHZ_PERMISSION_MODE", "AUTHZ_JWT_SECRET", "JWT_SECRET",
    "AUTHZ_JWT_ISSUER", "AUTHZ_JWT_ACCESS_TTL_SECS", "AUTHZ_JWT_REFRESH_TTL_SECS",
    "AUTHZ_OAUTH2_ACCESS_TTL_SECS", "AUTHZ_OAUTH2_REFRESH_TTL_SECS"]

def readVariables (names : List String) : IO Environment :=
  names.foldlM (fun env name => do
    match ← IO.getEnv name with
    | some value => return env.assign name value
    | none => return env) KeyMap.empty

/-- The file ".env" of the directory or of the nearest one above it. -/
def readEnvFile : IO String := do
  let here ← IO.currentDir
  let above := (here.toString.toList.filter (· == '/')).length
  let paths : List String := (List.range (above + 1)).map fun n =>
    String.join (List.replicate n "../") ++ ".env"
  let found ← paths.findSomeM? fun (path : String) =>
    tryCatch (some <$> IO.FS.readBinFile path) fun _ => pure none
  return ((found.bind fun bytes => Utf8.text? bytes.data.toList).getD "")

/-! ## Time and chance -/

def now : IO Instant := do
  let t ← Std.Time.Timestamp.now
  let nanos := t.toNanosecondsSinceUnixEpoch.val
  return ⟨nanos / 1000000000, (nanos % 1000000000).toNat⟩

def freshId : IO String := do
  return Token.idText (← IO.getRandomBytes 16).data.toList

/-! ## The run -/

/-- The words for a JSON text without its content. -/
def wording : Wording
  | .header, _ => "no header"
  | .claims, _ => "no claims"
  | .terms, _ => "no terms"

/-- A notice on the way to the log. -/
def noticeText (now : Instant) : CommandLine.Notice → String
  | .usage => CommandLine.usageText
  | .log what cause =>
    "[" ++ Instant.write ⟨now.seconds, 0⟩ ++ " ERROR " ++ CommandLine.logTarget ++ "] " ++
      String.ofList (CommandLine.indentLines (CommandLine.logText wording what cause))

end Warrant.Program

open Warrant Warrant.Program in
def main (args : List String) : IO UInt32 := do
  let file ← readEnvFile
  let env ← readVariables (settingNames ++ mentionedNames file.toList)
  let now ← now
  let ids : Token.Signer.PairIds := ⟨← freshId, ← freshId⟩
  let outcome := CommandLine.run args (EnvFile.load env file) now ids
  outcome.output.forM IO.println
  outcome.notice.forM fun n => IO.eprintln (noticeText now n)
  return outcome.exitCode.toUInt32
