-- Texts in quotes, as they are shown to people. A character that would not
-- show is written as its number.
import Warrant.Text.Hex
import Warrant.Text.HiddenTable
import Warrant.Text.Ranges

namespace Warrant.Text.Quoted

def renderChar (c : Char) : List Char :=
  if c.toNat = 0 then ['\\', '0']
  else if c = '\t' then ['\\', 't']
  else if c = '\r' then ['\\', 'r']
  else if c = '\n' then ['\\', 'n']
  else if c = '\\' then ['\\', '\\']
  else if c = '"' then ['\\', '"']
  else if inRanges hiddenRanges c then
    ['\\', 'u', '\x7b'] ++ Hex.render c.toNat ++ ['\x7d']
  else [c]

def render (s : String) : List Char := '"' :: s.toList.flatMap renderChar ++ ['"']

/-- A list of texts, in brackets. -/
def renderList (l : List String) : List Char :=
  '[' :: [',', ' '].intercalate (l.map render) ++ [']']

end Warrant.Text.Quoted
