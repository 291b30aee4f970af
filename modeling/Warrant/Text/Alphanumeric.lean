-- Letters and digits of all scripts.
import Warrant.Text.AlphanumericTable
import Warrant.Text.Ranges

namespace Warrant.Text

def isAlphanumeric (c : Char) : Bool :=
  if c.toNat < 128 then c.isAlphanum else inRanges alphanumericRanges c

end Warrant.Text
