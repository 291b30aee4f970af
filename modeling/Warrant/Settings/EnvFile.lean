-- Files with variables for an environment, one assignment a line. A value
-- may have quotes, and inside quotes it may go on over several lines. A
-- variable that is set already stays as it is. Reading stops at the first
-- line that is wrong; the lines before it count.
import Warrant.Settings.Environment
import Warrant.Text.Alphanumeric

namespace Warrant.EnvFile

open Warrant.Text

/-! ## Lines -/

/-- Where a scan for the end of an assignment stands. -/
inductive Scan
  | plain | escape
  | single | singleEscape
  | double | doubleEscape
  | blank
deriving DecidableEq, Repr

def Scan.next (s : Scan) (c : Char) : Scan :=
  match s with
  | .plain =>
    if isBlank c && c != '\n' && c != '\r' then .blank
    else if c = '\\' then .escape
    else if c = '"' then .double
    else if c = '\'' then .single
    else .plain
  | .blank =>
    if c = '\\' then .escape
    else if c = '"' then .double
    else if c = '\'' then .single
    else .plain
  | .escape => .plain
  | .double => if c = '\\' then .doubleEscape else if c = '"' then .plain else .double
  | .doubleEscape => .double
  | .single => if c = '\\' then .singleEscape else if c = '\'' then .plain else .single
  | .singleEscape => .single

/-- Scans a line up to a comment: a hash after a blank. -/
def Scan.line (s : Scan) : List Char → List Char × Option Scan
  | [] => ([], some s)
  | c :: r =>
    if s = .blank ∧ c = '#' then ([], none)
    else
      let (kept, last) := (s.next c).line r
      (c :: kept, last)

/-- The lines of a text, each with its line feed. -/
def physicalLines : List Char → List (List Char)
  | [] => []
  | c :: r =>
    if c = '\n' then [c] :: physicalLines r
    else
      match physicalLines r with
      | [] => [[c]]
      | l :: ls => (c :: l) :: ls

/-- A line without its line feed, and without a carriage return before it. -/
def chomp (line : List Char) : List Char :=
  match line.reverse with
  | '\n' :: '\r' :: r => r.reverse
  | '\n' :: r => r.reverse
  | _ => line

def startsComment (line : List Char) : Bool := ['#'].isPrefixOf (dropBlanks line)

/-- The lines that hold assignments, from lines of text. A line goes on if a
quote is open at its end. `none` is a line that the end of the text cuts
short. -/
def logicalLines (pending : List Char) (s : Scan) : List (List Char) → List (Option (List Char))
  | [] => if s = .plain then [] else [none]
  | line :: r =>
    if startsComment (pending ++ line) then some [] :: logicalLines [] .plain r
    else
      match s.line line with
      | (kept, none) => some (pending ++ kept) :: logicalLines [] .plain r
      | (kept, some .plain) => some (chomp (pending ++ kept)) :: logicalLines [] .plain r
      | (kept, some s) => logicalLines (pending ++ kept) s r

/-! ## Values -/

/-- Where the reading of a value stands. A name stands after a dollar sign,
with or without braces. -/
inductive Reading
  | plain (quoted : Bool)
  | escape (quoted : Bool)
  | single
  | name (quoted : Bool) (name : List Char)
  | bracedName (quoted : Bool) (name : List Char)
  | finished
deriving DecidableEq, Repr

def escapes : List (Char × Char) :=
  [('\\', '\\'), ('\'', '\''), ('"', '"'), ('$', '$'), (' ', ' '), ('n', '\n')]

def valueOf (env : Environment) (name : List Char) : List Char :=
  ((env.value? (String.ofList name)).getD "").toList

/-- The value that is left to read. Names stand for their values. -/
def readValue (env : Environment) (s : Reading) (cs : List Char) : Option (List Char) :=
  match s, cs with
  | .plain quoted, [] => if quoted then none else some []
  | .escape quoted, [] => if quoted then none else some []
  | .single, [] => none
  | .name quoted name, [] => if quoted then none else some (valueOf env name)
  | .bracedName _ _, [] => none
  | .finished, [] => some []
  | .plain quoted, c :: r =>
    if c = '$' then readValue env (.name quoted []) r
    else if c = '\\' then readValue env (.escape quoted) r
    else if c = '"' then readValue env (.plain !quoted) r
    else if quoted then (readValue env (.plain true) r).map (c :: ·)
    else if c = '\'' then readValue env .single r
    else if c = ' ' ∨ c = '\t' then readValue env .finished r
    else (readValue env (.plain false) r).map (c :: ·)
  | .escape quoted, c :: r => do
    let e ← escapes.lookup c
    return e :: (← readValue env (.plain quoted) r)
  | .single, c :: r =>
    if c = '\'' then readValue env (.plain false) r
    else (readValue env .single r).map (c :: ·)
  | .name quoted name, c :: r =>
    if isAlphanumeric c then readValue env (.name quoted (name ++ [c])) r
    else if c = '\x7b' ∧ name = [] then readValue env (.bracedName quoted []) r
    else if c = '$' then (readValue env (.name quoted []) r).map (valueOf env name ++ ·)
    else (readValue env (.plain quoted) r).map (valueOf env name ++ c :: ·)
  | .bracedName quoted name, c :: r =>
    if c = '\x7d' then (readValue env (.plain quoted) r).map (valueOf env name ++ ·)
    else readValue env (.bracedName quoted (name ++ [c])) r
  | .finished, c :: r =>
    if c = ' ' ∨ c = '\t' then readValue env .finished r
    else if c = '#' then some []
    else none

/-! ## Assignments -/

def startsName (c : Char) : Bool := c.isAlpha || c = '_'

def continuesName (c : Char) : Bool := c.isAlphanum || c = '_' || c = '.'

/-- A name, and what follows it. -/
def readName : List Char → Option (List Char × List Char)
  | [] => none
  | c :: r =>
    if startsName c then some ((c :: r).takeWhile continuesName, (c :: r).dropWhile continuesName)
    else none

/-- What follows an equals sign. -/
def readEquals : List Char → Option (List Char)
  | '=' :: r => some r
  | _ => none

/-- A name with an equals sign, and what follows them. The word "export" may
stand before the name. -/
def readTarget (cs : List Char) : Option (List Char × List Char) := do
  let (name, r) ← readName cs
  let r := dropBlanks r
  match readEquals r with
  | some r => return (name, r)
  | none =>
    guard (name = ['e', 'x', 'p', 'o', 'r', 't'])
    let (name, r) ← readName r
    return (name, ← readEquals (dropBlanks r))

def isEmptyOrComment (cs : List Char) : Bool := cs.isEmpty || startsComment cs

/-- The assignment of a line. A line may have none. -/
def readLine (env : Environment) (line : List Char) : Option (Option (String × String)) := do
  let line := trim line
  if isEmptyOrComment line then return none
  else
    let (name, r) ← readTarget line
    let r := dropBlanks r
    let value ← if isEmptyOrComment r then some [] else readValue env (.plain false) r
    return some (String.ofList name, String.ofList value)

/-- Sets a variable, unless it has a text already. -/
def define (env : Environment) (name value : String) : Environment :=
  if (env.value? name).isSome then env else env.assign name value

def loadLines (env : Environment) : List (Option (List Char)) → Environment
  | [] => env
  | line :: r =>
    match line.bind (readLine env) with
    | none => env
    | some none => loadLines env r
    | some (some (name, value)) => loadLines (define env name value) r

/-- A text without a byte order mark. -/
def dropMark : List Char → List Char
  | c :: r => if c.toNat = 0xFEFF then r else c :: r
  | [] => []

/-- The environment after a file. -/
def load (env : Environment) (text : String) : Environment :=
  loadLines env (logicalLines [] .plain (physicalLines (dropMark text.toList)))

end Warrant.EnvFile
