-- The authorization server: clients ask for codes, and exchange each code
-- once for tokens. A call gets the instant and the fresh texts that it
-- needs, and gives the server after it beside its answer.
--
-- A call that needs an instant beyond the calendar dies, and what it did
-- before stays done. If it dies while it can change the codes or the
-- tokens, they are poisoned: from then on they are out of reach.
import Warrant.OAuth.TokenIndex
import Warrant.Secret
import Warrant.Settings.Basic

namespace Warrant.OAuth

structure Server where
  settings : OAuthSettings
  clients : KeyMap String Client
  codes : KeyMap String AuthorizationCode
  tokens : TokenIndex
  codesPoisoned : Bool
  tokensPoisoned : Bool
deriving DecidableEq

namespace Server

def new (settings : OAuthSettings) : Server :=
  ⟨settings, .empty, .empty, .empty, false, false⟩

/-! ## Clients -/

/-- Registers a client, in place of the one with this id. -/
def register (s : Server) (id secret redirectUri : String) (scopes : List String) : Server :=
  { s with clients := s.clients.insert id ⟨id, secret, redirectUri, KeySet.ofList scopes⟩ }

def client? (s : Server) (id : String) : Option Client := s.clients.get? id

def authenticates (s : Server) (id secret : String) : Bool :=
  match s.client? id with
  | some c => Secret.sameText c.secret secret
  | none => false

/-! ## Codes -/

/-- The seconds that a code waits for its exchange. -/
def codeTtl : Nat := 600

/-- A client may ask for codes with its own redirect URI. -/
def checkRedirect (s : Server) (client redirectUri : String) : Except Refusal Unit :=
  match s.client? client with
  | none => .error (.unknownClient client)
  | some c => if c.redirectUri = redirectUri then .ok () else .error .redirectMismatch

def storeCode (s : Server) (code : AuthorizationCode) : Server × Except Refusal String :=
  if s.codesPoisoned then (s, .error .poisoned)
  else ({ s with codes := s.codes.insert code.code code }, .ok code.code)

/-- Issues a code. Its text is `fresh`. -/
def issueCode (s : Server) (now : Instant) (fresh client : String) (subject : UserId)
    (redirectUri : String) (scopes : List String) : Server × Except Failure String :=
  match s.checkRedirect client redirectUri with
  | .error e => (s, .error (.refused e))
  | .ok () =>
    match now.plusSeconds? codeTtl with
    | none => (s, .error .died)
    | some expiresAt =>
      let (s, answer) := s.storeCode ⟨fresh, client, subject, redirectUri, scopes, expiresAt⟩
      (s, answer.mapError .refused)

/-- Takes a code out for its client. A code that is expired goes as well. -/
def takeCode (s : Server) (now : Instant) (code client : String) :
    Server × Except Failure AuthorizationCode :=
  if s.codesPoisoned then (s, .error (.refused .poisoned))
  else
    match s.codes.get? code with
    | none => (s, .error (.refused .invalidCode))
    | some c =>
      if c.client ≠ client then (s, .error (.refused .clientMismatch))
      else
        match c.isExpired now with
        | .error f => ({ s with codesPoisoned := true }, .error f)
        | .ok expired =>
          let taken := { s with codes := s.codes.erase code }
          if expired then (taken, .error (.refused .codeExpired)) else (taken, .ok c)

/-- Drops the codes that are expired, and counts them. Without codes there is
no need for the time. -/
def purge (s : Server) (now : Instant) : Server × Except Failure Nat :=
  if s.codesPoisoned then (s, .error (.refused .poisoned))
  else if now.OnClock ∨ s.codes.size = 0 then
    let kept := s.codes.filter fun _ c => !c.isOver now
    ({ s with codes := kept }, .ok (s.codes.size - kept.size))
  else ({ s with codesPoisoned := true }, .error .died)

/-- The number of codes, expired ones included. -/
def pendingCodes (s : Server) : Except Refusal Nat :=
  if s.codesPoisoned then .error .poisoned else .ok s.codes.size

/-! ## Tokens -/

/-- The last instant of an access token that is made now. The lifetime
counts as a signed number. -/
def accessExpiry? (s : Server) (now : Instant) : Option Instant :=
  now.plusSeconds? s.settings.accessTtl.toInt64.toInt

/-- The texts for a new pair of tokens. -/
structure FreshPair where
  access : String
  refresh : String
deriving DecidableEq

/-- The tokens for a code. -/
def pairFor? (s : Server) (now : Instant) (fresh : FreshPair) (code : AuthorizationCode) :
    Option TokenPair := do
  return ⟨fresh.access, fresh.refresh, code.client, code.subject, code.scopes,
    ← s.accessExpiry? now⟩

def storeTokens (s : Server) (p : TokenPair) : Server × Except Refusal TokenPair :=
  if s.tokensPoisoned then (s, .error .poisoned)
  else ({ s with tokens := s.tokens.store p }, .ok p)

/-- Exchanges a code for tokens. The code is gone before there are any. -/
def exchange (s : Server) (now : Instant) (fresh : FreshPair) (code client secret : String) :
    Server × Except Failure TokenPair :=
  if s.authenticates client secret then
    match s.takeCode now code client with
    | (s, .error f) => (s, .error f)
    | (s, .ok c) =>
      match s.pairFor? now fresh c with
      | none => (s, .error .died)
      | some p =>
        let (s, answer) := s.storeTokens p
        (s, answer.mapError .refused)
  else (s, .error (.refused .invalidClientCredentials))

/-- The pair of an access token that counts now. -/
def validate (s : Server) (now : Instant) (access : String) : Except Failure TokenPair :=
  if s.tokensPoisoned then .error (.refused .poisoned)
  else
    match s.tokens.byAccess.get? access with
    | none => .error (.refused .invalidToken)
    | some p => do
      if ← p.isExpired now then throw (.refused .tokenExpired)
      return p

/-- Makes a new access token for a refresh token. Its text is `fresh`. -/
def refresh (s : Server) (now : Instant) (fresh refresh : String) :
    Server × Except Failure TokenPair :=
  if s.tokensPoisoned then (s, .error (.refused .poisoned))
  else
    match s.tokens.ofRefresh? refresh with
    | none => (s, .error (.refused .invalidRefreshToken))
    | some p =>
      match s.accessExpiry? now with
      | none =>
        ({ s with tokens := s.tokens.retire refresh, tokensPoisoned := true },
          .error .died)
      | some expiresAt =>
        let p := { p with access := fresh, expiresAt := expiresAt }
        ({ s with tokens := s.tokens.rotate refresh p }, .ok p)

/-- Revokes an access token and its refresh token. An access token that is
not out is revoked already. -/
def revoke (s : Server) (access : String) : Server × Except Refusal Unit :=
  if s.tokensPoisoned then (s, .error .poisoned)
  else ({ s with tokens := s.tokens.revoke access }, .ok ())

end Server

end Warrant.OAuth
