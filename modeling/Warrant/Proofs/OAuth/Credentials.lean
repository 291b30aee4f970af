-- A client is known by its secret. The comparison of secrets is equality, so an
-- exchange is refused for its credentials exactly if the secret is not the
-- registered one. No later stage of an exchange gives this refusal.
--
-- Nothing but a registration touches the clients. So the registered secret is
-- that of the latest registration in the log, in every run: calls may die in
-- it, and its locks may be poisoned.
import Warrant.Proofs.OAuth.Frame
import Warrant.Proofs.OAuth.Sweeps

namespace Warrant.OAuth

namespace Server

variable {s : Server}

/-- The client is registered with this secret. -/
def Registered (s : Server) (client secret : String) : Prop :=
  ∃ c, s.client? client = some c ∧ c.secret = secret

theorem authenticates_iff_registered {client secret : String} :
    s.authenticates client secret = true ↔ s.Registered client secret := by
  rw [authenticates_iff, Option.map_eq_some_iff]
  rfl

theorem client?_register (s : Server) (id secret redirectUri : String) (scopes : List String)
    (client : String) : (s.register id secret redirectUri scopes).client? client =
      if client = id then some ⟨id, secret, redirectUri, KeySet.ofList scopes⟩
      else s.client? client := by
  unfold client? register
  rw [KeyMap.get?_insert]

/-- A registration replaces the secret of its own client. -/
theorem registered_register {id secret redirectUri : String} {scopes : List String}
    {client given : String} :
    (s.register id secret redirectUri scopes).Registered client given ↔
      if client = id then given = secret else s.Registered client given := by
  unfold Registered
  rw [client?_register]
  split
  · simp [eq_comm]
  · rfl

/-! ## Exchanges -/

theorem takeCode_ne_credentials (s : Server) (now : Instant) (code client : String) :
    (s.takeCode now code client).2 ≠ .error (.refused .invalidClientCredentials) := by
  intro h
  unfold takeCode at h
  repeat' split at h
  all_goals cases h
  -- what is left is the look at the clock
  rename_i hlook
  cases (Instant.look_eq_error_iff.1 hlook).2

theorem storeTokens_ne_credentials (s : Server) (p : TokenPair) :
    (s.storeTokens p).2 ≠ .error .invalidClientCredentials := by
  unfold storeTokens
  split
  · intro h
    cases h
  · intro h
    cases h

/-- An exchange with the right secret may fail, but not for its credentials. -/
theorem exchange_ne_credentials {now : Instant} {fresh : FreshPair} {code client secret : String}
    (hauth : s.authenticates client secret = true) :
    (s.exchange now fresh code client secret).2 ≠
      .error (.refused .invalidClientCredentials) := by
  have htake := s.takeCode_ne_credentials now code client
  rcases ht : s.takeCode now code client with ⟨t, f | g⟩
  · rw [ht] at htake
    rw [exchange_of_refused fresh hauth ht]
    intro h
    cases h
    exact htake rfl
  · rw [exchange_of_taken fresh hauth ht]
    split
    · intro h
      cases h
    · rename_i p _
      have hstore := t.storeTokens_ne_credentials p
      cases ha : (t.storeTokens p).2 with
      | error e =>
        rw [ha] at hstore
        intro h
        cases h
        exact hstore rfl
      | ok q =>
        intro h
        cases h

/-- The secret is the only thing that an exchange is refused for in this way. -/
theorem exchange_eq_credentials_iff {now : Instant} {fresh : FreshPair}
    {code client secret : String} :
    (s.exchange now fresh code client secret).2 = .error (.refused .invalidClientCredentials) ↔
      ¬ s.Registered client secret := by
  rw [← authenticates_iff_registered]
  constructor
  · intro h hauth
    exact exchange_ne_credentials hauth h
  · intro hauth
    rw [exchange_refused fresh code hauth]

end Server

/-! ## The registered secret -/

theorem Server.client?_step (s : Server) (now : Instant) (call : Call) (id : String) :
    (s.step now call).1.client? id = ((s.step now call).2.registers? id).or (s.client? id) := by
  cases hcall : call with
  | register id' secret redirectUri scopes =>
    rw [step, client?_register, Act.registers?]
    by_cases he : id = id'
    · simp [he]
    · simp [he, Ne.symm he]
  | _ =>
    have hbase : s.SameBase (s.step now call).1 := s.step_base now (by simp [hcall])
    rw [hcall] at hbase
    exact congrArg (fun clients => clients.get? id) hbase.clients

/-- The log may say that a call died, or that a text was made twice. -/
theorem client?_of_log (settings : OAuthSettings) (calls : List (Instant × Call)) (id : String) :
    (run settings calls).server.client? id = latestClient (run settings calls).log id := by
  induction calls with
  | nil => rfl
  | cons q earlier ih => rw [run_cons, latestClient_cons, ← ih, Server.client?_step]

/-! ## The law -/

/-- The comparison of secrets is equality, of bytes and of texts. On any server an
exchange is refused for its credentials exactly if the client is not registered
with the secret that is given. After any run this is the secret of the latest
registration of this client. -/
theorem a_client_is_known_by_its_secret :
    (∀ as bs : List UInt8, Secret.sameBytes as bs = true ↔ as = bs) ∧
    (∀ a b : String, Secret.sameText a b = true ↔ a = b) ∧
    (∀ (s : Server) client secret, s.authenticates client secret = true ↔
      s.Registered client secret) ∧
    (∀ (s : Server) now fresh code client secret,
      (s.exchange now fresh code client secret).2 =
        .error (.refused .invalidClientCredentials) ↔ ¬ s.Registered client secret) ∧
    (∀ (s : Server) id secret redirectUri scopes client given,
      (s.register id secret redirectUri scopes).Registered client given ↔
        if client = id then given = secret else s.Registered client given) ∧
    ∀ settings calls client secret, (run settings calls).server.Registered client secret ↔
      (latestClient (run settings calls).log client).map (·.secret) = some secret := by
  refine ⟨Secret.sameBytes_iff, Secret.sameText_iff, ?_, ?_, ?_, ?_⟩
  · intro s client secret
    exact Server.authenticates_iff_registered
  · intro s now fresh code client secret
    exact Server.exchange_eq_credentials_iff
  · intro s id secret redirectUri scopes client given
    exact Server.registered_register
  · intro settings calls client secret
    rw [← client?_of_log, Option.map_eq_some_iff]
    rfl

end Warrant.OAuth
