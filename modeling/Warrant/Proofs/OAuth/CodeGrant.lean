-- The law of the code grant. An exchange succeeds exactly where the log says
-- that it may: the secret is that of the latest registration, the code was
-- issued to the client, it was not exchanged before, and its time is not
-- over. Nothing else in the log counts.
--
-- What was dropped as expired stays expired as long as the clock does not go
-- back, so a dropped code is never one that may be exchanged.
import Warrant.Proofs.OAuth.IssuedCodes
import Warrant.Proofs.Secret

namespace Warrant.OAuth

variable {settings : OAuthSettings}

/-! ## One exchange -/

/-- What a log must say of a code, so that its client may exchange it now. -/
structure Exchangeable (log : List Event) (now : Instant) (secret : String)
    (g : AuthorizationCode) : Prop where
  registered : (latestClient log g.client).map (·.secret) = some secret
  issued : Issued log g
  unspent : ¬ Spent log g.code
  in_time : now ≤ g.expiresAt

theorem Server.authenticates_iff {s : Server} {client secret : String} :
    s.authenticates client secret = true ↔ (s.client? client).map (·.secret) = some secret := by
  unfold authenticates
  cases s.client? client with
  | none => simp
  | some c => simp [Secret.sameText_iff]

/-- An exchange gives a pair for a code that is held, counts now and is the
client's own. -/
theorem Server.exchange_eq_ok_iff {s : Server} {now : Instant} {fresh : FreshPair}
    {code client secret : String} {p : TokenPair} (h : s.Sane) :
    (s.exchange now fresh code client secret).2 = .ok p ↔
      s.authenticates client secret = true ∧ ∃ g, s.codes.get? code = some g ∧
        g.client = client ∧ g.isOver now = false ∧ s.pairFor? now fresh g = some p := by
  constructor
  · intro hok
    have hc := exchange_change h fresh code client secret (by rw [hok]; simp)
    rw [hok] at hc
    generalize (s.exchange now fresh code client secret).1 = s' at hc
    cases hc with
    | exchange fresh' _ _ g _ hauth hg he hp' =>
      refine ⟨hauth, g, hg, rfl, he, ?_⟩
      cases hp : s.pairFor? now fresh g with
      | none =>
        rw [exchange_dies h hauth hg he hp] at hok
        cases hok
      | some q =>
        rw [exchange_live h hauth hg he hp] at hok
        cases hok
        rfl
    | idle _ ha => simp [Act.idle] at ha
  · rintro ⟨hauth, g, hg, rfl, he, hp⟩
    rw [exchange_live h hauth hg he hp]

/-! ## An exchange after a run -/

/-- The clock never goes back. The newest call stands first. -/
def Forward (calls : List (Instant × Call)) : Prop :=
  calls.Pairwise fun next earlier => earlier.1 ≤ next.1

instance (calls : List (Instant × Call)) : Decidable (Forward calls) :=
  inferInstanceAs (Decidable (List.Pairwise _ calls))

theorem now_of_mem_log (calls : List (Instant × Call)) {e : Event}
    (he : e ∈ (run settings calls).log) : ∃ q ∈ calls, q.1 = e.now := by
  induction calls with
  | nil => simp [run] at he
  | cons q earlier ih =>
    obtain ⟨now, call⟩ := q
    rw [run_cons] at he
    rcases List.mem_cons.1 he with rfl | he
    · exact ⟨(now, call), List.mem_cons_self, rfl⟩
    · obtain ⟨q, hq, ht⟩ := ih he
      exact ⟨q, List.mem_cons_of_mem _ hq, ht⟩

theorem Exchangeable.authenticates {calls : List (Instant × Call)} {now : Instant}
    {secret : String} {g : AuthorizationCode} (ho : Orderly (run settings calls).log)
    (h : Exchangeable (run settings calls).log now secret g) :
    (run settings calls).server.authenticates g.client secret = true := by
  rw [Server.authenticates_iff, client?_run calls ho]
  exact h.registered

theorem Exchangeable.isOver {log : List Event} {now : Instant} {secret : String}
    {g : AuthorizationCode} (h : Exchangeable log now secret g) : g.isOver now = false :=
  (Instant.isAfter_eq_false_iff now g.expiresAt).2 h.in_time

/-- The clock never went back, so no earlier call found the code expired. -/
theorem Exchangeable.held {calls : List (Instant × Call)} {now : Instant} {next : Call}
    {secret : String} {g : AuthorizationCode} (ho : Orderly (run settings calls).log)
    (hc : Forward ((now, next) :: calls))
    (h : Exchangeable (run settings calls).log now secret g) :
    (run settings calls).server.codes.get? g.code = some g := by
  rcases (follows_run calls ho).kept g h.issued h.unspent with hget | ⟨e, he, hlt⟩
  · exact hget
  · obtain ⟨q, hq, ht⟩ := now_of_mem_log calls he
    have hle : q.1 ≤ now := List.rel_of_pairwise_cons hc hq
    rw [ht] at hle
    exact absurd (lt_of_lt_of_le hlt hle) (not_lt.2 h.in_time)

/-- Where the clock never goes back, the log decides. -/
theorem exchange_after_run_iff {calls : List (Instant × Call)} {now : Instant} {next : Call}
    (ho : Orderly (run settings calls).log) (hc : Forward ((now, next) :: calls))
    {fresh : Server.FreshPair} {code client secret : String} {p : TokenPair} :
    ((run settings calls).server.exchange now fresh code client secret).2 = .ok p ↔
      ∃ g, g.code = code ∧ g.client = client ∧
        Exchangeable (run settings calls).log now secret g ∧
        (run settings calls).server.pairFor? now fresh g = some p := by
  rw [Server.exchange_eq_ok_iff (run_sane settings calls ho)]
  constructor
  · rintro ⟨hauth, g, hg, rfl, he, hp⟩
    rw [Server.authenticates_iff, client?_run calls ho] at hauth
    obtain ⟨rfl, hissued, hspent⟩ := (follows_run calls ho).held code g hg
    exact ⟨g, rfl, rfl, ⟨hauth, hissued, hspent, (Instant.isAfter_eq_false_iff _ _).1 he⟩, hp⟩
  · rintro ⟨g, rfl, rfl, hx, hp⟩
    exact ⟨hx.authenticates ho, g, hx.held ho hc, rfl, hx.isOver, hp⟩

/-! ## What does not count -/

/-- The call says something of the client's registration, or of the codes
that it got and exchanged. -/
def Act.concerns (client : String) : Act → Bool
  | register id _ _ _ => id = client
  | issueCode id _ _ _ (.ok _) => id = client
  | exchange _ id _ (.ok _) => id = client
  | _ => false

/-- The events of a log that concern a client. -/
def account (client : String) (log : List Event) : List Event :=
  log.filter fun e => e.act.concerns client

theorem account_cons (client : String) (e : Event) (log : List Event) :
    account client (e :: log) =
      if e.act.concerns client then e :: account client log else account client log :=
  List.filter_cons

theorem latestClient_account (client : String) (log : List Event) :
    latestClient (account client log) client = latestClient log client := by
  induction log with
  | nil => rfl
  | cons e log ih =>
    rw [account_cons, latestClient_cons]
    split
    · rw [latestClient_cons, ih]
    · rename_i hc
      have hnone : e.act.registers? client = none := by
        cases ha : e.act with
        | register id => simpa [ha, Act.concerns, Act.registers?] using hc
        | _ => rfl
      rw [ih, hnone, Option.none_or]

theorem issued_account {log : List Event} {g : AuthorizationCode} :
    Issued (account g.client log) g ↔ Issued log g := by
  simp [Issued, account, List.mem_filter, Act.concerns]

theorem spentBy_account {log : List Event} {client code : String} :
    SpentBy (account client log) client code ↔ SpentBy log client code := by
  simp [SpentBy, account, List.mem_filter, Act.concerns]

/-- Only the client to whom a code was issued has exchanged it. -/
theorem spentBy_of_spent {calls : List (Instant × Call)} (ho : Orderly (run settings calls).log)
    {g : AuthorizationCode} (hg : Issued (run settings calls).log g)
    (hsp : Spent (run settings calls).log g.code) :
    SpentBy (run settings calls).log g.client g.code := by
  obtain ⟨client, hsp⟩ := hsp
  obtain ⟨g', hg', hclient, hcode⟩ := (follows_run calls ho).owned client g.code hsp
  have he : g = g' := hg.unique ho hg' hcode.symm
  rw [he, hclient]
  exact he ▸ hsp

/-- Two runs that agree on the client's account agree on what the client may
exchange. -/
theorem Exchangeable.of_account {calls more : List (Instant × Call)}
    (ho : Orderly (run settings more).log) {now : Instant} {secret : String}
    {g : AuthorizationCode} (he : account g.client (run settings calls).log =
      account g.client (run settings more).log)
    (h : Exchangeable (run settings calls).log now secret g) :
    Exchangeable (run settings more).log now secret g := by
  have hissued : Issued (run settings more).log g := by
    rw [← issued_account, ← he, issued_account]
    exact h.issued
  refine ⟨?_, hissued, fun hsp => h.unspent ⟨g.client, ?_⟩, h.in_time⟩
  · rw [← latestClient_account, ← he, latestClient_account]
    exact h.registered
  · rw [← spentBy_account, he, spentBy_account]
    exact spentBy_of_spent ho hissued hsp

/-- The answer to a request for a code depends on the client's registration
only. -/
theorem Server.issueCode_congr {s s' : Server} (h : s.Sane) (h' : s'.Sane) (now : Instant)
    (fresh client : String) (subject : UserId) (redirectUri : String) (scopes : List String)
    (hc : s.client? client = s'.client? client) :
    (s.issueCode now fresh client subject redirectUri scopes).2 =
      (s'.issueCode now fresh client subject redirectUri scopes).2 := by
  have hr : s.checkRedirect client redirectUri = s'.checkRedirect client redirectUri := by
    rw [checkRedirect, checkRedirect, hc]
  unfold issueCode
  rw [hr]
  cases s'.checkRedirect client redirectUri with
  | error e => rfl
  | ok u =>
    cases now.plusSeconds? codeTtl with
    | none => rfl
    | some expiresAt =>
      dsimp only
      rw [storeCode_eq h, storeCode_eq h']

/-- An exchange that gives a pair gives the same pair after every run with
this account. -/
theorem exchange_of_account {calls more : List (Instant × Call)} {now : Instant} {next : Call}
    (ho : Orderly (run settings calls).log) (ho' : Orderly (run settings more).log)
    (hc : Forward ((now, next) :: calls)) (hc' : Forward ((now, next) :: more))
    {fresh : Server.FreshPair} {code client secret : String} {p : TokenPair}
    (he : account client (run settings calls).log = account client (run settings more).log)
    (hp : ((run settings calls).server.exchange now fresh code client secret).2 = .ok p) :
    ((run settings more).server.exchange now fresh code client secret).2 = .ok p := by
  rw [exchange_after_run_iff ho hc] at hp
  rw [exchange_after_run_iff ho' hc']
  obtain ⟨g, rfl, rfl, hx, hpair⟩ := hp
  refine ⟨g, rfl, rfl, hx.of_account ho' he, ?_⟩
  have hs : (run settings more).server.settings = (run settings calls).server.settings := by
    rw [run_settings more ho', run_settings calls ho]
  rwa [Server.pairFor?, Server.accessExpiry?_congr hs]

/-- A call that concerns the client is answered alike after every run with
this account. -/
theorem act_of_account {calls more : List (Instant × Call)} {now : Instant} {next : Call}
    {client : String} (ho : Orderly (run settings calls).log)
    (ho' : Orderly (run settings more).log) (hc : Forward ((now, next) :: calls))
    (hc' : Forward ((now, next) :: more))
    (he : account client (run settings calls).log = account client (run settings more).log)
    (h : ((run settings calls).server.step now next).2.concerns client = true) :
    ((run settings more).server.step now next).2 =
      ((run settings calls).server.step now next).2 := by
  cases next with
  | register id secret redirectUri scopes => rfl
  | issueCode fresh id subject redirectUri scopes =>
    have hid : id = client := by
      unfold Server.step Act.concerns at h
      split at h <;> simp_all
    subst hid
    have hclient : (run settings more).server.client? id =
        (run settings calls).server.client? id := by
      rw [client?_run more ho', client?_run calls ho, ← latestClient_account, ← he,
        latestClient_account]
    exact congrArg (Act.issueCode id subject redirectUri scopes)
      (Server.issueCode_congr (run_sane settings more ho') (run_sane settings calls ho) now fresh
        id subject redirectUri scopes hclient)
  | exchange fresh code id secret =>
    cases hr : ((run settings calls).server.exchange now fresh code id secret).2 with
    | error f => simp [Server.step, Act.concerns, hr] at h
    | ok p =>
      have hid : id = client := by simpa [Server.step, Act.concerns, hr] using h
      subst hid
      exact congrArg (Act.exchange code id secret)
        ((exchange_of_account ho ho' hc hc' he hr).trans hr.symm)
  | _ => simp [Server.step, Act.concerns] at h

/-- The second list has more calls in between: attempts to exchange that
fail, registrations of other clients, and sweeps. The newest call stands
first. -/
inductive Padded (settings : OAuthSettings) (client : String) :
    List (Instant × Call) → List (Instant × Call) → Prop
  | nil : Padded settings client [] []
  | same {calls more : List (Instant × Call)} (q : Instant × Call) :
      Padded settings client calls more → Padded settings client (q :: calls) (q :: more)
  | attempt {calls more : List (Instant × Call)} (now : Instant) (fresh : Server.FreshPair)
      (code id secret : String) :
      (∀ p, ((run settings more).server.exchange now fresh code id secret).2 ≠ .ok p) →
      Padded settings client calls more →
      Padded settings client calls ((now, .exchange fresh code id secret) :: more)
  | register {calls more : List (Instant × Call)} (now : Instant)
      (id secret redirectUri : String) (scopes : List String) :
      id ≠ client → Padded settings client calls more →
      Padded settings client calls ((now, .register id secret redirectUri scopes) :: more)
  | sweep {calls more : List (Instant × Call)} (now : Instant) :
      Padded settings client calls more → Padded settings client calls ((now, .purge) :: more)

theorem account_padded {client : String} {calls more : List (Instant × Call)}
    (hp : Padded settings client calls more) (ho : Orderly (run settings calls).log)
    (ho' : Orderly (run settings more).log) (hc : Forward calls) (hc' : Forward more) :
    account client (run settings calls).log = account client (run settings more).log := by
  -- a call of both runs concerns the client in both or in none; a call in between never does
  induction hp with
  | nil => rfl
  | @same calls more q hp ih =>
    obtain ⟨now, next⟩ := q
    have he := ih ho.tail ho'.tail hc.of_cons hc'.of_cons
    have hfar := act_of_account ho.tail ho'.tail hc hc' he
    have hback := act_of_account ho'.tail ho.tail hc' hc he.symm
    rw [run_cons, run_cons, account_cons, account_cons, he]
    dsimp only
    split
    · rename_i h
      rw [hfar h, if_pos h]
    · rename_i h
      split
      · rename_i h'
        rw [hback h'] at h
        exact absurd h' h
      · rfl
  | @attempt calls more now fresh code id secret hfail hp ih =>
    rw [run_cons, account_cons, ← ih ho ho'.tail hc hc'.of_cons]
    rw [if_neg]
    intro h
    cases hr : ((run settings more).server.exchange now fresh code id secret).2 with
    | error f => simp [Server.step, Act.concerns, hr] at h
    | ok p => exact hfail p hr
  | @register calls more now id secret redirectUri scopes hne hp ih =>
    rw [run_cons, account_cons, ← ih ho ho'.tail hc hc'.of_cons]
    exact (if_neg (by simpa [Server.step, Act.concerns] using hne)).symm
  | @sweep calls more now hp ih =>
    rw [run_cons, account_cons, ← ih ho ho'.tail hc hc'.of_cons]
    exact (if_neg (by simp [Server.step, Act.concerns])).symm

/-! ## The law -/

/-- An exchange gives a pair exactly where the latest registration of the
client has this secret, the code was issued to the client, no exchange spent
it, and its time is not over. The pair is that of the issued code. Attempts
that fail, other clients and sweeps before the exchange change nothing of
this: they take no code that counts, though one that is refused may be refused
for another cause. -/
theorem an_exchange_succeeds_exactly_for_a_live_code {calls : List (Instant × Call)}
    {now : Instant} {fresh : Server.FreshPair} {code client secret : String}
    (ho : Orderly (run settings ((now, .exchange fresh code client secret) :: calls)).log)
    (hc : Forward ((now, .exchange fresh code client secret) :: calls))
    (httl : settings.accessTtl.toNat < Word.half) :
    (∀ p, ((run settings calls).server.exchange now fresh code client secret).2 = .ok p ↔
      (latestClient (run settings calls).log client).map (·.secret) = some secret ∧
        ∃ t subject redirectUri scopes,
          ⟨t, .issueCode client subject redirectUri scopes (.ok code)⟩ ∈
            (run settings calls).log ∧
          ¬ Spent (run settings calls).log code ∧ now ≤ t.later Server.codeTtl ∧
          p = ⟨fresh.access, fresh.refresh, client, subject, scopes,
            now.later settings.accessTtl.toNat⟩) ∧
      ∀ more, Padded settings client calls more →
        Orderly (run settings ((now, .exchange fresh code client secret) :: more)).log →
        Forward ((now, .exchange fresh code client secret) :: more) →
        ∀ p, ((run settings more).server.exchange now fresh code client secret).2 = .ok p ↔
          ((run settings calls).server.exchange now fresh code client secret).2 = .ok p := by
  have hold : Orderly (run settings calls).log := ho.tail
  have hset : (run settings calls).server.settings = settings := run_settings calls hold
  constructor
  · intro p
    rw [exchange_after_run_iff hold hc]
    constructor
    · rintro ⟨g, rfl, rfl, hx, hp⟩
      obtain ⟨x, hexp, rfl⟩ := Server.pairFor?_eq_some_iff.1 hp
      obtain ⟨t, hm, ht⟩ := hx.issued
      refine ⟨hx.registered, t, g.subject, g.redirectUri, g.scopes, hm, hx.unspent,
        ht ▸ hx.in_time, ?_⟩
      rw [Server.accessExpiry?_eq_some (by rwa [hset]) hexp, hset]
    · rintro ⟨hreg, t, subject, redirectUri, scopes, hm, hsp, hnow, rfl⟩
      have hx : Exchangeable (run settings calls).log now secret
          ⟨code, client, subject, redirectUri, scopes, t.later Server.codeTtl⟩ :=
        ⟨hreg, ⟨t, hm, rfl⟩, hsp, hnow⟩
      refine ⟨_, rfl, rfl, hx, ?_⟩
      have halive : (Act.exchange code client secret ((run settings calls).server.exchange now
          fresh code client secret).2).died = false := ho.alive _ List.mem_cons_self
      cases hp : (run settings calls).server.pairFor? now fresh
          ⟨code, client, subject, redirectUri, scopes, t.later Server.codeTtl⟩ with
      | none =>
        have hdies := Server.exchange_dies (run_sane settings calls hold) (hx.authenticates hold)
          (hx.held hold hc) hx.isOver hp
        rw [hdies] at halive
        cases halive
      | some p =>
        obtain ⟨x, hexp, rfl⟩ := Server.pairFor?_eq_some_iff.1 hp
        rw [Server.accessExpiry?_eq_some (by rwa [hset]) hexp, hset]
  · intro more hpad ho' hc' p
    have he := account_padded hpad hold ho'.tail hc.of_cons hc'.of_cons
    exact ⟨exchange_of_account ho'.tail hold hc' hc he.symm,
      exchange_of_account hold ho'.tail hc hc' he⟩

theorem a_sweep_does_not_take_a_live_code :
    Orderly (run {} visit).log ∧ Forward visit ∧
      ((run {} ((⟨50, 0⟩, .purge) :: arrival)).server.exchange ⟨60, 0⟩ ⟨"access 1", "refresh 1"⟩
        "code 1" "app" "hush").2 =
          .ok ⟨"access 1", "refresh 1", "app", 7, ["read"], ⟨960, 0⟩⟩ := by
  have ho : Orderly (run {} visit).log := by decide
  have hc : Forward visit := by decide
  have hlaw := an_exchange_succeeds_exactly_for_a_live_code ho hc (by decide)
  have hpad : Padded {} "app" arrival ((⟨50, 0⟩, .purge) :: arrival) :=
    .sweep _ (.same _ (.same _ .nil))
  refine ⟨ho, hc, (hlaw.2 _ hpad (by decide) (by decide) _).2 ((hlaw.1 _).2 ⟨by decide, ?_⟩)⟩
  refine ⟨⟨30, 0⟩, 7, "/back", ["read"], by decide, ?_, by decide, by decide⟩
  rintro ⟨client, t, secret, p, hm⟩
  simp [run, arrival, Server.step] at hm

end Warrant.OAuth
