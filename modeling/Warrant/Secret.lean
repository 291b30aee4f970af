-- Secrets are compared without a stop at the first difference: the time
-- depends on the length only. The bits that differ are gathered in one
-- byte.
import Warrant.Text.Utf8

namespace Warrant.Secret

/-- The bits in which the bytes of two lists differ, all together. -/
def difference (as bs : List UInt8) : UInt8 :=
  (as.zip bs).foldl (fun acc p => acc ||| (p.1 ^^^ p.2)) 0

def sameBytes (as bs : List UInt8) : Bool :=
  if as.length != bs.length then false else difference as bs == 0

def sameText (a b : String) : Bool := sameBytes (Text.Utf8.bytes a) (Text.Utf8.bytes b)

end Warrant.Secret
