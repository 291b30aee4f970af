-- What an authorization server keeps: clients, codes that wait for their
-- exchange, and the tokens of exchanges. A record counts up to its last
-- instant, that instant included.
import Warrant.Instant
import Warrant.KeyMap
import Warrant.Refusal
import Warrant.Text.Base64Url

namespace Warrant.OAuth

open Warrant.Text

structure Client where
  id : String
  secret : String
  redirectUri : String
  scopes : KeySet String
deriving DecidableEq

/-- A code for one exchange. -/
structure AuthorizationCode where
  code : String
  client : String
  subject : UserId
  redirectUri : String
  scopes : List String
  expiresAt : Instant
deriving DecidableEq

namespace AuthorizationCode

/-- The time of the code is over. -/
def isOver (c : AuthorizationCode) (now : Instant) : Bool := now.isAfter c.expiresAt

/-- Whether the time of the code is over, by a look at a clock. -/
def isExpired (c : AuthorizationCode) (now : Instant) : Except Failure Bool :=
  now.look (c.isOver now)

end AuthorizationCode

/-- The tokens of one exchange. A refresh changes the access token and its
last instant, and nothing else. -/
structure TokenPair where
  access : String
  refresh : String
  client : String
  subject : UserId
  scopes : List String
  expiresAt : Instant
deriving DecidableEq

namespace TokenPair

/-- The time of the access token is over. -/
def isOver (p : TokenPair) (now : Instant) : Bool := now.isAfter p.expiresAt

/-- Whether the time of the access token is over, by a look at a clock. -/
def isExpired (p : TokenPair) (now : Instant) : Except Failure Bool := now.look (p.isOver now)

def hasScope (p : TokenPair) (scope : String) : Bool := p.scopes.any (· == scope)

end TokenPair

/-! ## Opaque texts -/

/-- The number of random bytes behind an opaque text. -/
def opaqueBytes : Nat := 32

/-- The number of characters of an opaque text. -/
def opaqueLength : Nat := 32

/-- The text of random bytes: their base64, cut to its length. -/
def opaqueText (random : List UInt8) : String :=
  String.ofList ((Base64Url.encode random).take opaqueLength)

end Warrant.OAuth
