-- The JSON forms of clients, codes and token pairs.
import Warrant.Instant.Text
import Warrant.Json.Record
import Warrant.OAuth.Records

namespace Warrant

def Instant.toJson (t : Instant) : Json := .text t.write

def Instant.ofJson? (j : Json) : Option Instant := do Instant.read? (← j.text?)

namespace OAuth

namespace Client

def toJson (c : Client) : Json :=
  .ofFields [("id", .text c.id), ("secret", .text c.secret),
    ("redirect_uri", .text c.redirectUri), ("scopes", .texts (KeySet.toList c.scopes))]

def ofJson? (j : Json) : Option Client := do
  let fields ← j.fields? ["id", "secret", "redirect_uri", "scopes"]
  let id ← (← fields.lookup "id").text?
  let secret ← (← fields.lookup "secret").text?
  let redirectUri ← (← fields.lookup "redirect_uri").text?
  let scopes ← (← fields.lookup "scopes").texts?
  return ⟨id, secret, redirectUri, KeySet.ofList scopes⟩

end Client

namespace AuthorizationCode

def toJson (c : AuthorizationCode) : Json :=
  .ofFields [("code", .text c.code), ("client_id", .text c.client),
    ("subject_id", .int c.subject.toNat), ("redirect_uri", .text c.redirectUri),
    ("scopes", .texts c.scopes), ("expires_at", c.expiresAt.toJson)]

def ofJson? (j : Json) : Option AuthorizationCode := do
  let fields ← j.fields?
    ["code", "client_id", "subject_id", "redirect_uri", "scopes", "expires_at"]
  let code ← (← fields.lookup "code").text?
  let client ← (← fields.lookup "client_id").text?
  let subject ← (← fields.lookup "subject_id").word?
  let redirectUri ← (← fields.lookup "redirect_uri").text?
  let scopes ← (← fields.lookup "scopes").texts?
  let expiresAt ← Instant.ofJson? (← fields.lookup "expires_at")
  return ⟨code, client, subject, redirectUri, scopes, expiresAt⟩

/-- The code that a text denotes. -/
def read? (text : String) : Option AuthorizationCode := do ofJson? (← Json.read? text.toList)

end AuthorizationCode

namespace TokenPair

def toJson (p : TokenPair) : Json :=
  .ofFields [("access_token", .text p.access), ("refresh_token", .text p.refresh),
    ("client_id", .text p.client), ("subject_id", .int p.subject.toNat),
    ("scopes", .texts p.scopes), ("expires_at", p.expiresAt.toJson)]

def ofJson? (j : Json) : Option TokenPair := do
  let fields ← j.fields?
    ["access_token", "refresh_token", "client_id", "subject_id", "scopes", "expires_at"]
  let access ← (← fields.lookup "access_token").text?
  let refresh ← (← fields.lookup "refresh_token").text?
  let client ← (← fields.lookup "client_id").text?
  let subject ← (← fields.lookup "subject_id").word?
  let scopes ← (← fields.lookup "scopes").texts?
  let expiresAt ← Instant.ofJson? (← fields.lookup "expires_at")
  return ⟨access, refresh, client, subject, scopes, expiresAt⟩

/-- The token pair that a text denotes. -/
def read? (text : String) : Option TokenPair := do ofJson? (← Json.read? text.toList)

end TokenPair

end OAuth

end Warrant
