import Warrant.Main
import Warrant.OAuth.Json
import Warrant.OAuth.Sweep
import Warrant.Policy.Json
import Warrant.Roles.Json
import Warrant.Proofs.Binary64
import Warrant.Proofs.Calendar
import Warrant.Proofs.Instant
import Warrant.Proofs.Secret
import Warrant.Proofs.Instant.Text
import Warrant.Proofs.Json.Record
import Warrant.Proofs.Json.Storage
import Warrant.Proofs.Json.Syntax
import Warrant.Proofs.OAuth.Consistency
import Warrant.Proofs.OAuth.CodeGrant
import Warrant.Proofs.OAuth.Json
import Warrant.Proofs.OAuth.TokenLife
import Warrant.Proofs.Policy.Changes
import Warrant.Proofs.Policy.Combined
import Warrant.Proofs.Policy.Comparison
import Warrant.Proofs.Policy.History
import Warrant.Proofs.Policy.Knowledge
import Warrant.Proofs.Policy.Storage
import Warrant.Proofs.Roles.History
import Warrant.Proofs.Text.Base64Url
import Warrant.Proofs.Text.Utf8
import Warrant.Proofs.Token.Claims
import Warrant.Proofs.Token.RoundTrip
import Warrant.Proofs.Token.Refresh
import Warrant.Proofs.Token.Session
import Warrant.Proofs.Token.Verification
import Warrant.Proofs.Value.Json
import Warrant.Proofs.Value.Reading
import Warrant.Proofs.Value.Storage
import Warrant.Proofs.OAuth.Lifetimes
import Warrant.Proofs.Authority.FreshTokens
import Warrant.Proofs.Authority.Ids
import Warrant.Proofs.Authority.Influence
import Warrant.Proofs.OAuth.Concurrency
import Warrant.Proofs.OAuth.Sweeps
import Warrant.Proofs.OAuth.SweepTask
import Warrant.Proofs.OAuth.Conservation
import Warrant.Proofs.OAuth.Credentials
import Warrant.Proofs.OAuth.Frame
import Warrant.Proofs.Roles.Queries
import Warrant.Proofs.Roles.Wildcards
import Warrant.Proofs.Sequence
import Warrant.Proofs.Token.ForeignAlgorithm
import Warrant.Proofs.Token.Unverified
