-- Lower case by the rules of Unicode. Each character has its mapping; a
-- capital I with dot becomes two characters; a capital sigma at the end of
-- a word becomes a final sigma.
import Warrant.Text.CaseTable
import Warrant.Text.Ranges

namespace Warrant.Text

def isCaseIgnorable (c : Char) : Bool := inRanges CaseTable.ignorable c

/-- The property Cased, asked of a character that is not Case_Ignorable. -/
def isCased (c : Char) : Bool := inRanges CaseTable.cased c

/-- The lower case of one character, without its neighbours. -/
def lowerChar (c : Char) : List Char :=
  if c.toNat < 128 then [c.toLower]
  else if c.toNat = 0x130 then ['i', Char.ofNat 0x307]
  else
    match CaseTable.lowercase.find? fun (first, last, step, _) =>
        first ≤ c.toNat && c.toNat ≤ last && (c.toNat - first) % step == 0 with
    | some (_, _, _, distance) => [Char.ofNat ((c.toNat : Int) + distance).toNat]
    | none => [c]

/-- The nearest character that counts for case is a letter with case. -/
def meetsCased (cs : List Char) : Bool :=
  match cs.dropWhile isCaseIgnorable with
  | c :: _ => isCased c
  | [] => false

/-- The lower case of a text, of which the characters before it are known,
last first. -/
def lowerAfter (before : List Char) : List Char → List Char
  | [] => []
  | c :: r =>
    (if c = 'Σ' then [if meetsCased before && !meetsCased r then 'ς' else 'σ'] else lowerChar c) ++
      lowerAfter (c :: before) r

def lowercase (cs : List Char) : List Char := lowerAfter [] cs

end Warrant.Text
