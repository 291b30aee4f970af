-- Hash functions of the SHA-2 family, and keyed hashing with them. A keyed
-- digest is a hash of a hash, each with the key block before the rest.
import Warrant.Digest.Sha2

namespace Warrant.Digest

/-! ## Hash functions -/

/-- A hash function with the block length that keyed use needs. -/
structure Hash where
  blockBytes : Nat
  digest : List UInt8 → List UInt8

def sha256 : Hash where
  blockBytes := 64
  digest m := Sha2.words32.output (Sha2.words32.run Sha2.start256 m)

/-- The digest is cut to 48 bytes. -/
def sha384 : Hash where
  blockBytes := 128
  digest m := (Sha2.words64.output (Sha2.words64.run Sha2.start384 m)).take 48

def sha512 : Hash where
  blockBytes := 128
  digest m := Sha2.words64.output (Sha2.words64.run Sha2.start512 m)

/-! ## Keyed hashing -/

/-- A key longer than a block is hashed first; every key is filled up
with zeros to one block. -/
def Hash.blockKey (h : Hash) (key : List UInt8) : List UInt8 :=
  let k := if h.blockBytes < key.length then h.digest key else key
  k ++ List.replicate (h.blockBytes - k.length) 0

/-- The HMAC of RFC 2104. -/
def Hash.hmac (h : Hash) (key message : List UInt8) : List UInt8 :=
  let k := h.blockKey key
  let inner := h.digest (k.map (· ^^^ 0x36) ++ message)
  h.digest (k.map (· ^^^ 0x5c) ++ inner)

end Warrant.Digest
