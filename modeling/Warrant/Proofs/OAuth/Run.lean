-- Runs of the authorization server. A run is a list of calls at their
-- instants, in any order of time. Its log says for each call what was asked
-- and what was answered. The newest call stands first.
--
-- A call that does not die changes the server in one of eight ways
-- (`Change`), and every law of a run goes by these ways.
import Mathlib.Data.List.Nodup
import Mathlib.Data.List.Pairwise
import Warrant.OAuth.Server
import Warrant.Proofs.Instant

namespace Warrant.OAuth

/-! ## Calls and their answers -/

/-- A call, with the texts that it makes up if it comes to that. -/
inductive Call
  | register (id secret redirectUri : String) (scopes : List String)
  | findClient (id : String)
  | issueCode (fresh client : String) (subject : UserId) (redirectUri : String)
    (scopes : List String)
  | exchange (fresh : Server.FreshPair) (code client secret : String)
  | validate (access : String)
  | refresh (fresh refresh : String)
  | revoke (access : String)
  | purge
  | countCodes

/-- A call as its caller sees it: what was asked, and the answer. -/
inductive Act
  | register (id secret redirectUri : String) (scopes : List String)
  | findClient (id : String) (answer : Option Client)
  | issueCode (client : String) (subject : UserId) (redirectUri : String) (scopes : List String)
    (answer : Except Failure String)
  | exchange (code client secret : String) (answer : Except Failure TokenPair)
  | validate (access : String) (answer : Except Failure TokenPair)
  | refresh (refresh : String) (answer : Except Failure TokenPair)
  | revoke (access : String) (answer : Except Refusal Unit)
  | purge (answer : Except Failure Nat)
  | countCodes (answer : Except Refusal Nat)
deriving DecidableEq

structure Event where
  now : Instant
  act : Act
deriving DecidableEq

namespace Act

/-- The call died. -/
def died : Act → Bool
  | issueCode _ _ _ _ (.error .died) => true
  | exchange _ _ _ (.error .died) => true
  | validate _ (.error .died) => true
  | refresh _ (.error .died) => true
  | purge (.error .died) => true
  | _ => false

/-- The call leaves the server as it is: it only looks something up, or it is
refused. A code that is refused because it is expired goes all the same. -/
def idle : Act → Bool
  | findClient .. => true
  | issueCode _ _ _ _ (.error _) => true
  | exchange _ _ _ (.error f) => f ≠ .refused .codeExpired
  | validate .. => true
  | refresh _ (.error _) => true
  | countCodes _ => true
  | _ => false

end Act

/-! ## Runs -/

/-- The server after a call, and what the log says of it. -/
def Server.step (s : Server) (now : Instant) : Call → Server × Act
  | .register id secret redirectUri scopes =>
    (s.register id secret redirectUri scopes, .register id secret redirectUri scopes)
  | .findClient id => (s, .findClient id (s.client? id))
  | .issueCode fresh client subject redirectUri scopes =>
    let r := s.issueCode now fresh client subject redirectUri scopes
    (r.1, .issueCode client subject redirectUri scopes r.2)
  | .exchange fresh code client secret =>
    let r := s.exchange now fresh code client secret
    (r.1, .exchange code client secret r.2)
  | .validate access => (s, .validate access (s.validate now access))
  | .refresh fresh refresh =>
    let r := s.refresh now fresh refresh
    (r.1, .refresh refresh r.2)
  | .revoke access =>
    let r := s.revoke access
    (r.1, .revoke access r.2)
  | .purge =>
    let r := s.purge now
    (r.1, .purge r.2)
  | .countCodes => (s, .countCodes s.pendingCodes)

/-- A server, and what happened on it. -/
structure Run where
  server : Server
  log : List Event

/-- The run of some calls on a new server. -/
def run (settings : OAuthSettings) : List (Instant × Call) → Run
  | [] => ⟨.new settings, []⟩
  | (now, call) :: earlier =>
    let r := run settings earlier
    let (s, a) := r.server.step now call
    ⟨s, ⟨now, a⟩ :: r.log⟩

/-! ## Texts that were made up -/

/-- What a text was made for. -/
inductive Purpose
  | code | access | refresh
deriving DecidableEq

/-- The texts that a call made up. A call that is refused makes none. -/
def Act.made : Act → List (Purpose × String)
  | issueCode _ _ _ _ (.ok code) => [(.code, code)]
  | exchange _ _ _ (.ok p) => [(.access, p.access), (.refresh, p.refresh)]
  | refresh _ (.ok p) => [(.access, p.access)]
  | _ => []

/-- All texts of a log, each with its purpose. -/
def made (log : List Event) : List (Purpose × String) := log.flatMap fun e => e.act.made

theorem mem_made_cons {e : Event} {log : List Event} {k : Purpose} {text : String} :
    (k, text) ∈ made (e :: log) ↔ (k, text) ∈ e.act.made ∨ (k, text) ∈ made log := by
  rw [made, List.flatMap_cons, List.mem_append, made]

/-- No call died, and no text was made up twice. -/
structure Orderly (log : List Event) : Prop where
  alive : ∀ e ∈ log, e.act.died = false
  fresh : ((made log).map Prod.snd).Nodup

instance (log : List Event) : Decidable (Orderly log) :=
  decidable_of_iff ((∀ e ∈ log, e.act.died = false) ∧ ((made log).map Prod.snd).Nodup)
    ⟨fun h => ⟨h.1, h.2⟩, fun h => ⟨h.alive, h.fresh⟩⟩

/-! ## One call -/

/-- No lock is poisoned. -/
def Server.Sane (s : Server) : Prop := s.codesPoisoned = false ∧ s.tokensPoisoned = false

/-- What a call does to a server if it does not die: the server and the
instant before it, the call with its answer, and the server after it. -/
inductive Change (s : Server) (now : Instant) : Act → Server → Prop
  | register (id secret redirectUri : String) (scopes : List String) :
      Change s now (.register id secret redirectUri scopes)
        (s.register id secret redirectUri scopes)
  | issue (g : AuthorizationCode) :
      s.checkRedirect g.client g.redirectUri = .ok () →
      now.plusSeconds? Server.codeTtl = some g.expiresAt →
      Change s now (.issueCode g.client g.subject g.redirectUri g.scopes (.ok g.code))
        { s with codes := s.codes.insert g.code g }
  | exchange (fresh : Server.FreshPair) (code secret : String) (g : AuthorizationCode)
    (p : TokenPair) :
      s.authenticates g.client secret = true → s.codes.get? code = some g →
      g.isOver now = false → s.pairFor? now fresh g = some p →
      Change s now (.exchange code g.client secret (.ok p))
        { s with codes := s.codes.erase code, tokens := s.tokens.store p }
  | expire (code secret : String) (g : AuthorizationCode) :
      s.codes.get? code = some g → g.isOver now = true →
      Change s now (.exchange code g.client secret (.error (.refused .codeExpired)))
        { s with codes := s.codes.erase code }
  | refresh (fresh refresh : String) (p : TokenPair) (expiresAt : Instant) :
      s.tokens.ofRefresh? refresh = some p → s.accessExpiry? now = some expiresAt →
      Change s now (.refresh refresh (.ok { p with access := fresh, expiresAt }))
        { s with tokens := s.tokens.rotate refresh { p with access := fresh, expiresAt } }
  | revoke (access : String) :
      Change s now (.revoke access (.ok ())) { s with tokens := s.tokens.revoke access }
  | purge (kept : KeyMap String AuthorizationCode) :
      kept = s.codes.filter (fun _ g => !g.isOver now) →
      Change s now (.purge (.ok (s.codes.size - kept.size))) { s with codes := kept }
  | idle (a : Act) : a.idle = true → Change s now a s

namespace Server

variable {s : Server} {now : Instant}

theorem accessExpiry?_eq_some {t : Instant} (httl : s.settings.accessTtl.toNat < Word.half)
    (ht : s.accessExpiry? now = some t) : t = now.later s.settings.accessTtl.toNat := by
  rw [accessExpiry?, Word.toInt_toInt64 httl] at ht
  exact Instant.plusSeconds?_eq_some ht

theorem accessExpiry?_congr {s' : Server} (h : s.settings = s'.settings) :
    s.accessExpiry? now = s'.accessExpiry? now := by
  rw [accessExpiry?, accessExpiry?, h]

theorem pairFor?_eq_some_iff {fresh : FreshPair} {g : AuthorizationCode} {p : TokenPair} :
    s.pairFor? now fresh g = some p ↔ ∃ t, s.accessExpiry? now = some t ∧
      p = ⟨fresh.access, fresh.refresh, g.client, g.subject, g.scopes, t⟩ := by
  unfold pairFor?
  cases s.accessExpiry? now with
  | none => simp
  | some t => simp [eq_comm]

theorem storeCode_eq (h : s.Sane) (g : AuthorizationCode) :
    s.storeCode g = ({ s with codes := s.codes.insert g.code g }, .ok g.code) := by
  rw [storeCode, if_neg (by simp [h.1])]

theorem storeTokens_eq (h : s.Sane) (p : TokenPair) :
    s.storeTokens p = ({ s with tokens := s.tokens.store p }, .ok p) := by
  rw [storeTokens, if_neg (by simp [h.2])]

theorem takeCode_unknown (h : s.Sane) {code : String} (client : String)
    (hg : s.codes.get? code = none) :
    s.takeCode now code client = (s, .error (.refused .invalidCode)) := by
  rw [takeCode, if_neg (by simp [h.1]), hg]

theorem takeCode_foreign (h : s.Sane) {code client : String} {g : AuthorizationCode}
    (hg : s.codes.get? code = some g) (hc : g.client ≠ client) :
    s.takeCode now code client = (s, .error (.refused .clientMismatch)) := by
  rw [takeCode, if_neg (by simp [h.1]), hg]
  exact if_pos hc

theorem takeCode_expired (h : s.Sane) (hnow : now.OnClock) {code : String}
    {g : AuthorizationCode} (hg : s.codes.get? code = some g) (he : g.isOver now = true) :
    s.takeCode now code g.client =
      ({ s with codes := s.codes.erase code }, .error (.refused .codeExpired)) := by
  rw [takeCode, if_neg (by simp [h.1]), hg]
  dsimp only
  rw [if_neg (by simp), AuthorizationCode.isExpired, Instant.look_of_onClock hnow]
  exact if_pos he

theorem takeCode_live (h : s.Sane) (hnow : now.OnClock) {code : String}
    {g : AuthorizationCode} (hg : s.codes.get? code = some g) (he : g.isOver now = false) :
    s.takeCode now code g.client = ({ s with codes := s.codes.erase code }, .ok g) := by
  rw [takeCode, if_neg (by simp [h.1]), hg]
  dsimp only
  rw [if_neg (by simp), AuthorizationCode.isExpired, Instant.look_of_onClock hnow]
  exact if_neg (by simp [he])

theorem takeCode_off_clock (h : s.Sane) (hnow : ¬ now.OnClock) {code : String}
    {g : AuthorizationCode} (hg : s.codes.get? code = some g) :
    (s.takeCode now code g.client).2 = .error .died := by
  rw [takeCode, if_neg (by simp [h.1]), hg]
  dsimp only
  rw [if_neg (by simp), AuthorizationCode.isExpired, Instant.look_of_not_onClock hnow]

theorem issueCode_change (h : s.Sane) (fresh client : String) (subject : UserId)
    (redirectUri : String) (scopes : List String)
    (ha : (s.issueCode now fresh client subject redirectUri scopes).2 ≠ .error .died) :
    Change s now
      (.issueCode client subject redirectUri scopes
        (s.issueCode now fresh client subject redirectUri scopes).2)
      (s.issueCode now fresh client subject redirectUri scopes).1 := by
  unfold issueCode at *
  cases hr : s.checkRedirect client redirectUri with
  | error e => exact .idle _ rfl
  | ok u =>
    cases ht : now.plusSeconds? codeTtl with
    | none => simp [hr, ht] at ha
    | some expiresAt =>
      dsimp only
      rw [storeCode_eq h]
      exact .issue ⟨fresh, client, subject, redirectUri, scopes, expiresAt⟩ hr ht

theorem onClock_of_pairFor? {fresh : FreshPair} {g : AuthorizationCode} {p : TokenPair}
    (hp : s.pairFor? now fresh g = some p) : now.OnClock := by
  obtain ⟨t, ht, _⟩ := pairFor?_eq_some_iff.1 hp
  exact Instant.onClock_of_plusSeconds? ht

theorem exchange_refused {client secret : String} (fresh : FreshPair) (code : String)
    (hauth : ¬ s.authenticates client secret = true) :
    s.exchange now fresh code client secret = (s, .error (.refused .invalidClientCredentials)) := by
  rw [exchange, if_neg hauth]

/-- The exchange of a code that counts. -/
theorem exchange_live (h : s.Sane) {fresh : FreshPair} {code secret : String}
    {g : AuthorizationCode} {p : TokenPair} (hauth : s.authenticates g.client secret = true)
    (hg : s.codes.get? code = some g) (he : g.isOver now = false)
    (hp : s.pairFor? now fresh g = some p) :
    s.exchange now fresh code g.client secret =
      ({ s with codes := s.codes.erase code, tokens := s.tokens.store p }, .ok p) := by
  have hp' : pairFor? { s with codes := s.codes.erase code } now fresh g = some p := hp
  rw [exchange, if_pos hauth, takeCode_live h (onClock_of_pairFor? hp) hg he]
  dsimp only
  rw [hp']
  dsimp only
  rw [storeTokens_eq (s := { s with codes := s.codes.erase code }) h]
  rfl

theorem exchange_off_clock (h : s.Sane) (hnow : ¬ now.OnClock) (fresh : FreshPair)
    {code secret : String} {g : AuthorizationCode}
    (hauth : s.authenticates g.client secret = true) (hg : s.codes.get? code = some g) :
    (s.exchange now fresh code g.client secret).2 = .error .died := by
  have hd := takeCode_off_clock h hnow hg
  rw [exchange, if_pos hauth]
  rcases ht : s.takeCode now code g.client with ⟨s', f | c⟩
  · rw [ht] at hd
    exact congrArg Except.error (Except.error.inj hd)
  · rw [ht] at hd
    cases hd

/-- If there is no instant to put into the tokens, the exchange dies. -/
theorem exchange_dies (h : s.Sane) {fresh : FreshPair} {code secret : String}
    {g : AuthorizationCode} (hauth : s.authenticates g.client secret = true)
    (hg : s.codes.get? code = some g) (he : g.isOver now = false)
    (hp : s.pairFor? now fresh g = none) :
    (s.exchange now fresh code g.client secret).2 = .error .died := by
  by_cases hnow : now.OnClock
  · have hp' : pairFor? { s with codes := s.codes.erase code } now fresh g = none := hp
    rw [exchange, if_pos hauth, takeCode_live h hnow hg he]
    dsimp only
    rw [hp']
  · exact exchange_off_clock h hnow fresh hauth hg

theorem exchange_change (h : s.Sane) (fresh : FreshPair) (code client secret : String)
    (ha : (s.exchange now fresh code client secret).2 ≠ .error .died) :
    Change s now (.exchange code client secret (s.exchange now fresh code client secret).2)
      (s.exchange now fresh code client secret).1 := by
  by_cases hauth : s.authenticates client secret = true
  · cases hg : s.codes.get? code with
    | none =>
      rw [exchange, if_pos hauth, takeCode_unknown h client hg]
      exact .idle _ rfl
    | some g =>
      by_cases hc : g.client = client
      · subst hc
        cases he : g.isOver now with
        | true =>
          by_cases hnow : now.OnClock
          · rw [exchange, if_pos hauth, takeCode_expired h hnow hg he]
            exact .expire code secret g hg he
          · exact absurd (exchange_off_clock h hnow fresh hauth hg) ha
        | false =>
          cases hp : s.pairFor? now fresh g with
          | none => exact absurd (exchange_dies h hauth hg he hp) ha
          | some p =>
            rw [exchange_live h hauth hg he hp]
            exact .exchange fresh code secret g p hauth hg he hp
      · rw [exchange, if_pos hauth, takeCode_foreign h hg hc]
        exact .idle _ rfl
  · rw [exchange_refused fresh code hauth]
    exact .idle _ rfl

theorem refresh_change (h : s.Sane) (fresh refresh : String)
    (ha : (s.refresh now fresh refresh).2 ≠ .error .died) :
    Change s now (.refresh refresh (s.refresh now fresh refresh).2)
      (s.refresh now fresh refresh).1 := by
  unfold Server.refresh at *
  rw [if_neg (by simp [h.2])] at ha ⊢
  cases hp : s.tokens.ofRefresh? refresh with
  | none => exact .idle _ rfl
  | some p =>
    cases ht : s.accessExpiry? now with
    | none => simp [hp, ht] at ha
    | some expiresAt => exact .refresh fresh refresh p expiresAt hp ht

theorem revoke_change (h : s.Sane) (access : String) :
    Change s now (.revoke access (s.revoke access).2) (s.revoke access).1 := by
  unfold revoke
  rw [if_neg (by simp [h.2])]
  exact .revoke access

theorem purge_change (h : s.Sane) (ha : (s.purge now).2 ≠ .error .died) :
    Change s now (.purge (s.purge now).2) (s.purge now).1 := by
  unfold purge at *
  rw [if_neg (by simp [h.1])] at ha ⊢
  by_cases hnow : now.OnClock ∨ s.codes.size = 0
  · rw [if_pos hnow]
    exact .purge _ rfl
  · rw [if_neg hnow] at ha
    exact absurd rfl ha

/-- Each call that does not die is one of the changes. -/
theorem step_change (h : s.Sane) (call : Call) (ha : (s.step now call).2.died = false) :
    Change s now (s.step now call).2 (s.step now call).1 := by
  cases call with
  | register id secret redirectUri scopes => exact .register id secret redirectUri scopes
  | findClient id => exact .idle _ rfl
  | issueCode fresh client subject redirectUri scopes =>
    refine issueCode_change h fresh client subject redirectUri scopes fun hd => ?_
    simp [step, hd, Act.died] at ha
  | exchange fresh code client secret =>
    refine exchange_change h fresh code client secret fun hd => ?_
    simp [step, hd, Act.died] at ha
  | validate access => exact .idle _ rfl
  | refresh fresh refresh =>
    refine refresh_change h fresh refresh fun hd => ?_
    simp [step, hd, Act.died] at ha
  | revoke access => exact revoke_change h access
  | purge =>
    refine purge_change h fun hd => ?_
    simp [step, hd, Act.died] at ha
  | countCodes => exact .idle _ rfl

end Server

/-! ## Whole runs -/

theorem Change.sane {s s' : Server} {now : Instant} {a : Act} (hc : Change s now a s')
    (h : s.Sane) : s'.Sane := by
  cases hc <;> exact h

theorem Change.settings {s s' : Server} {now : Instant} {a : Act} (hc : Change s now a s') :
    s'.settings = s.settings := by
  cases hc <;> rfl

theorem Orderly.tail {e : Event} {log : List Event} (h : Orderly (e :: log)) : Orderly log := by
  refine ⟨fun e' he => h.alive e' (List.mem_cons_of_mem e he), ?_⟩
  have hf := h.fresh
  rw [made, List.flatMap_cons, List.map_append] at hf
  exact (List.nodup_append.1 hf).2.1

/-- A text of the newest call is in no call before it. -/
theorem Orderly.new_text {e : Event} {log : List Event} (h : Orderly (e :: log))
    {k k' : Purpose} {text : String} (hk : (k, text) ∈ e.act.made) : (k', text) ∉ made log := by
  intro hk'
  have hf := h.fresh
  rw [made, List.flatMap_cons, List.map_append] at hf
  have hdis := (List.nodup_append.1 hf).2.2
  exact hdis text (List.mem_map_of_mem hk) text (List.mem_map_of_mem hk') rfl

/-- A text has one purpose. -/
theorem Orderly.one_purpose {log : List Event} (h : Orderly log) {k k' : Purpose} {text : String}
    (hk : (k, text) ∈ made log) (hk' : (k', text) ∈ made log) : k = k' :=
  congrArg Prod.fst (List.inj_on_of_nodup_map h.fresh hk hk' rfl)

/-- A text was made up by one call. -/
theorem Orderly.one_maker {log : List Event} (h : Orderly log) {e e' : Event} (he : e ∈ log)
    (he' : e' ∈ log) {k k' : Purpose} {text : String} (hk : (k, text) ∈ e.act.made)
    (hk' : (k', text) ∈ e'.act.made) : e = e' := by
  have hf := h.fresh
  rw [made, List.map_flatMap, List.nodup_flatMap] at hf
  by_contra hne
  have hsymm : Std.Symm (Function.onFun List.Disjoint
      fun e : Event => e.act.made.map Prod.snd) := ⟨fun _ _ hd _ h1 h2 => hd h2 h1⟩
  have hdis := hf.2.forall he he' hne
  have ht : text ∈ e.act.made.map Prod.snd := List.mem_map_of_mem hk
  have ht' : text ∈ e'.act.made.map Prod.snd := List.mem_map_of_mem hk'
  exact hdis ht ht'

theorem run_cons (settings : OAuthSettings) (now : Instant) (call : Call)
    (earlier : List (Instant × Call)) :
    run settings ((now, call) :: earlier) =
      ⟨((run settings earlier).server.step now call).1,
        ⟨now, ((run settings earlier).server.step now call).2⟩ :: (run settings earlier).log⟩ :=
  rfl

/-- No call died. -/
def Alive (log : List Event) : Prop := ∀ e ∈ log, e.act.died = false

theorem Alive.tail {e : Event} {log : List Event} (h : Alive (e :: log)) : Alive log :=
  fun e' he => h e' (List.mem_cons_of_mem e he)

/-- No lock is poisoned where no call died. -/
theorem Alive.sane {settings : OAuthSettings} (calls : List (Instant × Call))
    (h : Alive (run settings calls).log) : (run settings calls).server.Sane := by
  induction calls with
  | nil => exact ⟨rfl, rfl⟩
  | cons q earlier ih =>
    obtain ⟨now, call⟩ := q
    rw [run_cons] at h ⊢
    have hsane := ih h.tail
    have halive := h _ List.mem_cons_self
    exact (Server.step_change hsane call halive).sane hsane

/-- What holds of a new server and is kept by each change after a run holds
after every run in which no call dies. A run may be asked for more, if the
runs before it are asked for the same. -/
theorem Alive.induct {Q : List Event → Prop} {P : Server → List Event → Prop}
    {settings : OAuthSettings} (alive : ∀ {log}, Q log → Alive log)
    (tail : ∀ {e log}, Q (e :: log) → Q log) (start : P (.new settings) [])
    (next : ∀ (earlier : List (Instant × Call)) {s' : Server} {now : Instant} {a : Act},
      Q (⟨now, a⟩ :: (run settings earlier).log) →
      P (run settings earlier).server (run settings earlier).log →
      Change (run settings earlier).server now a s' →
      P s' (⟨now, a⟩ :: (run settings earlier).log))
    (calls : List (Instant × Call)) (h : Q (run settings calls).log) :
    P (run settings calls).server (run settings calls).log := by
  induction calls with
  | nil => exact start
  | cons q earlier ih =>
    obtain ⟨now, call⟩ := q
    rw [run_cons] at h ⊢
    have hsane := (alive (tail h)).sane earlier
    have halive := alive h _ List.mem_cons_self
    exact next earlier h (ih (tail h)) (Server.step_change hsane call halive)

theorem run_sane (settings : OAuthSettings) (calls : List (Instant × Call))
    (h : Orderly (run settings calls).log) : (run settings calls).server.Sane :=
  Alive.sane calls h.alive

/-- What holds of a new server and is kept by each change after an orderly run
holds after every orderly run. -/
theorem run_induct {P : Server → List Event → Prop} {settings : OAuthSettings}
    (start : P (.new settings) [])
    (next : ∀ (earlier : List (Instant × Call)) {s' : Server} {now : Instant} {a : Act},
      Orderly (⟨now, a⟩ :: (run settings earlier).log) →
      P (run settings earlier).server (run settings earlier).log →
      Change (run settings earlier).server now a s' →
      P s' (⟨now, a⟩ :: (run settings earlier).log))
    (calls : List (Instant × Call)) (h : Orderly (run settings calls).log) :
    P (run settings calls).server (run settings calls).log :=
  Alive.induct Orderly.alive Orderly.tail start next calls h

theorem run_settings {settings : OAuthSettings} (calls : List (Instant × Call))
    (h : Orderly (run settings calls).log) : (run settings calls).server.settings = settings :=
  run_induct (P := fun s _ => s.settings = settings) rfl
    (fun _ _ _ _ _ ih hc => hc.settings.trans ih) calls h

/-! ## A short run -/

/-- A client registers and gets a code. -/
def arrival : List (Instant × Call) :=
  [(⟨30, 0⟩, .issueCode "code 1" "app" 7 "/back" ["read"]),
    (⟨0, 0⟩, .register "app" "hush" "/back" ["read"])]

/-- The client exchanges its code. -/
def visit : List (Instant × Call) :=
  (⟨60, 0⟩, .exchange ⟨"access 1", "refresh 1"⟩ "code 1" "app" "hush") :: arrival

end Warrant.OAuth
