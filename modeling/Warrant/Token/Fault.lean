-- Why a token is not accepted, and how each cause is told to the caller.
-- The caller does not learn which of its claims was wrong. Where there is
-- no time to check a token against, the check dies.
import Warrant.Refusal

namespace Warrant.Token

/-- Why a key is of no use. A shared secret always is. -/
inductive KeyFault
  | ecdsa
  | rsa (detail : String)
  | rsaSigning
  | algorithmName
  | algorithmMissing
  | format
  | provider
deriving DecidableEq, Repr

inductive Fault
  | malformed (fault : Malformation)
  | wrongAlgorithm
  | wrongSignature
  | expired
  | notYetValid
  | missingClaim (name : String)
  | wrongIssuer
  | wrongAudience
  | wrongSubject
  | key (fault : KeyFault)
  | noTime
deriving DecidableEq, Repr

def Fault.failure : Fault → Failure
  | .malformed fault => .refused (.tokenMalformed fault)
  | .wrongAlgorithm => .refused .invalidSignature
  | .wrongSignature => .refused .invalidSignature
  | .expired => .refused .tokenExpired
  | .notYetValid => .refused .tokenNotYetValid
  | .missingClaim _ => .refused .invalidToken
  | .wrongIssuer => .refused .invalidToken
  | .wrongAudience => .refused .invalidToken
  | .wrongSubject => .refused .invalidToken
  | .key _ => .refused .invalidToken
  | .noTime => .died

end Warrant.Token
