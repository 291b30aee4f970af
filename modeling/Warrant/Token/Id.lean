-- Token ids: random numbers of 128 bits in the form of a UUID, version 4.
import Warrant.Text.Hex

namespace Warrant.Token

open Warrant.Text

/-- The bytes with the marks of the version and the variant. -/
def markRandom (random : List UInt8) : List UInt8 :=
  random.mapIdx fun i b =>
    if i = 6 then b &&& 0x0F ||| 0x40 else if i = 8 then b &&& 0x3F ||| 0x80 else b

/-- The id of sixteen random bytes. -/
def idText (random : List UInt8) : String :=
  let hex := (markRandom random).map Hex.ofByte
  let group := fun (start count : Nat) => ((hex.drop start).take count).flatten
  String.ofList <|
    group 0 4 ++ '-' :: group 4 2 ++ '-' :: group 6 2 ++ '-' :: group 8 2 ++ '-' :: group 10 6

end Warrant.Token
