-- What a call may touch. A call that is refused leaves the server as it is,
-- whatever the server holds: all that is taken out before a refusal is the
-- code that is found expired. A call that succeeds changes the records that it
-- is about and no others. And only a registration touches the clients.
--
-- No invariant is used. The server may be one that no run leads to, with
-- indexes that disagree; only its locks are in order.
import Warrant.OAuth.Sweep
import Warrant.Proofs.OAuth.Run

namespace Warrant

/-! ## One entry of a map -/

namespace KeyMap

universe u v

variable {κ : Type u} {α : Type v} [KeyOrder κ]

/-- The entry of a key is gone, and all others are as they were. -/
structure Loses (m : KeyMap κ α) (k : κ) (m' : KeyMap κ α) : Prop where
  before : (m.get? k).isSome
  after : m'.get? k = none
  others : ∀ k', k' ≠ k → m'.get? k' = m.get? k'
  size : m'.size + 1 = m.size

/-- A new key has an entry, and all others are as they were. -/
structure Gains (m : KeyMap κ α) (k : κ) (v : α) (m' : KeyMap κ α) : Prop where
  before : m.get? k = none
  after : m'.get? k = some v
  others : ∀ k', k' ≠ k → m'.get? k' = m.get? k'
  size : m'.size = m.size + 1

theorem loses_erase {m : KeyMap κ α} {k : κ} {v : α} (h : m.get? k = some v) :
    m.Loses k (m.erase k) where
  before := by simp [h]
  after := by simp [get?_erase]
  others k' hk := by simp [get?_erase, hk]
  size := size_erase h

theorem gains_insert {m : KeyMap κ α} {k : κ} (h : m.get? k = none) (v : α) :
    m.Gains k v (m.insert k v) where
  before := h
  after := by simp [get?_insert]
  others k' hk := by simp [get?_insert, hk]
  size := size_insert h v

end KeyMap

namespace OAuth

/-! ## A refresh in the indexes -/

/-- A refresh token leads to a new access token in the place of the old one.
The new pair differs from the old one in its access token and its last instant.
All other entries are as they were. -/
structure TokenIndex.Rotates (t : TokenIndex) (refresh current : String) (old new : TokenPair)
    (t' : TokenIndex) : Prop where
  led : t.byRefresh.get? refresh = some current
  held : t.byAccess.get? current = some old
  pair : new = { old with access := new.access, expiresAt := new.expiresAt }
  leads : t'.byRefresh.get? refresh = some new.access
  other_refresh : ∀ r, r ≠ refresh → t'.byRefresh.get? r = t.byRefresh.get? r
  retired : t'.byAccess.get? current = none
  holds : t'.byAccess.get? new.access = some new
  other_access : ∀ a, a ≠ current → a ≠ new.access → t'.byAccess.get? a = t.byAccess.get? a

theorem TokenIndex.rotates_rotate {t : TokenIndex} {refresh current fresh : String}
    {old : TokenPair} (hr : t.byRefresh.get? refresh = some current)
    (ha : t.byAccess.get? current = some old) (hfresh : t.byAccess.get? fresh = none)
    (expiresAt : Instant) :
    t.Rotates refresh current old { old with access := fresh, expiresAt }
      (t.rotate refresh { old with access := fresh, expiresAt }) := by
  have hne : current ≠ fresh := by
    rintro rfl
    rw [ha] at hfresh
    cases hfresh
  refine ⟨hr, ha, rfl, ?_, ?_, ?_, ?_, ?_⟩
  · simp [byRefresh_rotate]
  · intro r h
    simp [byRefresh_rotate, h]
  · simp [byAccess_rotate, hne, hr]
  · simp [byAccess_rotate]
  · intro a h h'
    simp [byAccess_rotate, h', hr, Ne.symm h]

/-! ## Refusals -/

variable {s s' : Server} {now : Instant}

/-- A call that is refused, or that only looks something up, changes nothing. -/
theorem Change.eq_of_idle {a : Act} (hc : Change s now a s') (h : a.idle = true) : s' = s := by
  cases hc with
  | idle => rfl
  | _ => simp [Act.idle] at h

/-- A code that is found expired goes, and nothing else. -/
theorem Change.expired {code client secret : String}
    (hc : Change s now (.exchange code client secret (.error (.refused .codeExpired))) s') :
    ∃ kept, s' = { s with codes := kept } ∧ s.codes.Loses code kept := by
  cases hc with
  | expire _ _ g hg he => exact ⟨_, rfl, KeyMap.loses_erase hg⟩
  | idle _ h => simp [Act.idle] at h

/-! ## Successes -/

/-- An exchange takes its code out, and puts a pair in under both tokens. -/
theorem Change.exchanged {code client secret : String} {p : TokenPair}
    (hc : Change s now (.exchange code client secret (.ok p)) s')
    (ha : s.tokens.byAccess.get? p.access = none)
    (hr : s.tokens.byRefresh.get? p.refresh = none) :
    ∃ kept index, s' = { s with codes := kept, tokens := index } ∧ s.codes.Loses code kept ∧
      s.tokens.byAccess.Gains p.access p index.byAccess ∧
      s.tokens.byRefresh.Gains p.refresh p.access index.byRefresh := by
  cases hc with
  | exchange _ _ _ g _ _ hg _ _ =>
    exact ⟨_, _, rfl, KeyMap.loses_erase hg, KeyMap.gains_insert ha p,
      KeyMap.gains_insert hr p.access⟩
  | idle _ h => simp [Act.idle] at h

theorem Change.refreshed {refresh : String} {p : TokenPair}
    (hc : Change s now (.refresh refresh (.ok p)) s')
    (hfresh : s.tokens.byAccess.get? p.access = none) :
    ∃ current old index, s' = { s with tokens := index } ∧
      s.tokens.Rotates refresh current old p index := by
  cases hc with
  | refresh fresh _ old expiresAt hold _ =>
    obtain ⟨current, hr, ha⟩ := Option.bind_eq_some_iff.1 hold
    exact ⟨current, old, _, rfl, TokenIndex.rotates_rotate hr ha hfresh expiresAt⟩
  | idle _ h => simp [Act.idle] at h

/-! ## Settings and clients

A call may die here, and the locks may be poisoned. -/

namespace Server

/-- The two servers have the same settings and the same clients. -/
structure SameBase (s s' : Server) : Prop where
  settings : s'.settings = s.settings
  clients : s'.clients = s.clients

theorem SameBase.refl (s : Server) : s.SameBase s := ⟨rfl, rfl⟩

theorem SameBase.trans {s'' : Server} (h : s.SameBase s') (h' : s'.SameBase s'') :
    s.SameBase s'' :=
  ⟨h'.settings.trans h.settings, h'.clients.trans h.clients⟩

theorem storeCode_base (s : Server) (g : AuthorizationCode) : s.SameBase (s.storeCode g).1 := by
  unfold storeCode
  split <;> exact ⟨rfl, rfl⟩

theorem takeCode_base (s : Server) (now : Instant) (code client : String) :
    s.SameBase (s.takeCode now code client).1 := by
  unfold takeCode
  repeat' split
  all_goals exact ⟨rfl, rfl⟩

theorem storeTokens_base (s : Server) (p : TokenPair) : s.SameBase (s.storeTokens p).1 := by
  unfold storeTokens
  split <;> exact ⟨rfl, rfl⟩

theorem issueCode_base (s : Server) (now : Instant) (fresh client : String) (subject : UserId)
    (redirectUri : String) (scopes : List String) :
    s.SameBase (s.issueCode now fresh client subject redirectUri scopes).1 := by
  unfold issueCode
  split
  · exact .refl s
  · split
    · exact .refl s
    · exact storeCode_base ..

theorem exchange_base (s : Server) (now : Instant) (fresh : FreshPair)
    (code client secret : String) : s.SameBase (s.exchange now fresh code client secret).1 := by
  have htake := s.takeCode_base now code client
  unfold exchange
  split
  · split
    · rename_i heq
      rw [heq] at htake
      exact htake
    · rename_i heq
      rw [heq] at htake
      split
      · exact htake
      · exact htake.trans (storeTokens_base ..)
  · exact .refl s

theorem refresh_base (s : Server) (now : Instant) (fresh refresh : String) :
    s.SameBase (s.refresh now fresh refresh).1 := by
  unfold Server.refresh
  repeat' split
  all_goals exact ⟨rfl, rfl⟩

theorem revoke_base (s : Server) (access : String) : s.SameBase (s.revoke access).1 := by
  unfold revoke
  split <;> exact ⟨rfl, rfl⟩

theorem purge_base (s : Server) (now : Instant) : s.SameBase (s.purge now).1 := by
  unfold purge
  repeat' split
  all_goals exact ⟨rfl, rfl⟩

/-- Only a registration touches the clients. -/
theorem step_base (s : Server) (now : Instant) {call : Call}
    (h : ∀ id secret redirectUri scopes, call ≠ .register id secret redirectUri scopes) :
    s.SameBase (s.step now call).1 := by
  cases call with
  | register id secret redirectUri scopes => exact absurd rfl (h id secret redirectUri scopes)
  | issueCode fresh client subject redirectUri scopes => exact issueCode_base ..
  | exchange fresh code client secret => exact exchange_base ..
  | refresh fresh refresh => exact refresh_base ..
  | revoke access => exact revoke_base ..
  | purge => exact purge_base ..
  | _ => exact .refl s

theorem sweep_base (s : Server) (wall : Nat → Instant) (ticks : List Nat) :
    s.SameBase (Sweep.run s wall ticks) := by
  unfold Sweep.run
  induction ticks generalizing s with
  | nil => exact .refl s
  | cons t later ih => exact (s.purge_base (wall t)).trans (ih _)

end Server

/-! ## The law -/

/-- On any server with its locks in order, a refused call changes nothing, apart
from a code that is found expired: this code goes. An exchange takes its code
out and adds one entry to each index. A refresh changes the entry of its
refresh token, and the entries of its two access tokens. Only a registration
touches the clients, and no client but its own. -/
theorem a_call_changes_its_own_records_only (h : s.Sane) (now : Instant) :
    (∀ fresh client subject redirectUri scopes r,
      (s.issueCode now fresh client subject redirectUri scopes).2 = .error (.refused r) →
      (s.issueCode now fresh client subject redirectUri scopes).1 = s) ∧
    (∀ fresh refresh r, (s.refresh now fresh refresh).2 = .error (.refused r) →
      (s.refresh now fresh refresh).1 = s) ∧
    (∀ access, (s.step now (.validate access)).1 = s) ∧
    (∀ fresh code client secret r,
      (s.exchange now fresh code client secret).2 = .error (.refused r) → r ≠ .codeExpired →
      (s.exchange now fresh code client secret).1 = s) ∧
    (∀ fresh code client secret,
      (s.exchange now fresh code client secret).2 = .error (.refused .codeExpired) →
      ∃ kept, (s.exchange now fresh code client secret).1 = { s with codes := kept } ∧
        s.codes.Loses code kept) ∧
    (∀ fresh code client secret p, (s.exchange now fresh code client secret).2 = .ok p →
      s.tokens.byAccess.get? p.access = none → s.tokens.byRefresh.get? p.refresh = none →
      ∃ kept index,
        (s.exchange now fresh code client secret).1 = { s with codes := kept, tokens := index } ∧
        s.codes.Loses code kept ∧ s.tokens.byAccess.Gains p.access p index.byAccess ∧
        s.tokens.byRefresh.Gains p.refresh p.access index.byRefresh) ∧
    (∀ fresh refresh p, (s.refresh now fresh refresh).2 = .ok p →
      s.tokens.byAccess.get? p.access = none →
      ∃ current old index, (s.refresh now fresh refresh).1 = { s with tokens := index } ∧
        s.tokens.Rotates refresh current old p index) ∧
    (∀ call, (∀ id secret redirectUri scopes, call ≠ .register id secret redirectUri scopes) →
      (s.step now call).1.clients = s.clients) ∧
    (∀ wall ticks, (Sweep.run s wall ticks).clients = s.clients) ∧
    ∀ id secret redirectUri scopes, ∃ clients,
      s.register id secret redirectUri scopes = { s with clients := clients } ∧
      ∀ other, other ≠ id → clients.get? other = s.clients.get? other := by
  refine ⟨?_, ?_, fun _ => rfl, ?_, ?_, ?_, ?_, fun _ hcall => (s.step_base now hcall).clients,
    fun wall ticks => (s.sweep_base wall ticks).clients, ?_⟩
  · intro fresh client subject redirectUri scopes r hr
    have hc : Change s now _ _ :=
      Server.issueCode_change h fresh client subject redirectUri scopes (by simp [hr])
    exact hc.eq_of_idle (by simp [hr, Act.idle])
  · intro fresh refresh r hr
    have hc : Change s now _ _ := Server.refresh_change h fresh refresh (by simp [hr])
    exact hc.eq_of_idle (by simp [hr, Act.idle])
  · intro fresh code client secret r hr hne
    have hc : Change s now _ _ :=
      Server.exchange_change h fresh code client secret (by simp [hr])
    exact hc.eq_of_idle (by simp [hr, Act.idle, hne])
  · intro fresh code client secret hr
    have hc : Change s now _ _ :=
      Server.exchange_change h fresh code client secret (by simp [hr])
    rw [hr] at hc
    exact hc.expired
  · intro fresh code client secret p hp ha hr
    have hc : Change s now _ _ :=
      Server.exchange_change h fresh code client secret (by simp [hp])
    rw [hp] at hc
    exact hc.exchanged ha hr
  · intro fresh refresh p hp hfresh
    have hc : Change s now _ _ := Server.refresh_change h fresh refresh (by simp [hp])
    rw [hp] at hc
    exact hc.refreshed hfresh
  · intro id secret redirectUri scopes
    refine ⟨_, rfl, fun other hne => ?_⟩
    simp [KeyMap.get?_insert, hne]

/-- A server that no run leads to. One of its refresh tokens leads nowhere, and
two of them lead to one access token, whose pair has other tokens. Its code is
stored under another text. -/
def adrift : Server where
  settings := {}
  clients := .ofList [("app", ⟨"app", "hush", "/back", .empty⟩)]
  codes := .ofList [("key", ⟨"code", "app", 7, "/back", [], ⟨10, 0⟩⟩)]
  tokens.byAccess := .ofList [("shared", ⟨"access", "refresh", "app", 7, [], ⟨10, 0⟩⟩)]
  tokens.byRefresh := .ofList [("lost", "nowhere"), ("one", "shared"), ("two", "shared")]
  codesPoisoned := false
  tokensPoisoned := false

/-- A refresh of the first token leaves the second one where it is, and so it
leads nowhere from then on. A refresh of the lost token changes nothing, and the
code goes when it is found expired. -/
theorem a_server_adrift_changes_in_few_places :
    adrift.Sane ∧ (adrift.refresh ⟨20, 0⟩ "new" "lost").1 = adrift ∧
      (∃ index, (adrift.refresh ⟨20, 0⟩ "new" "one").1 = { adrift with tokens := index } ∧
        index.byRefresh.get? "two" = some "shared" ∧ index.byAccess.get? "shared" = none) ∧
      ∃ kept, (adrift.exchange ⟨20, 0⟩ ⟨"a", "r"⟩ "key" "app" "hush").1 =
        { adrift with codes := kept } ∧ kept.size = 0 := by
  have hsane : adrift.Sane := ⟨rfl, rfl⟩
  obtain ⟨_, hrefused, _, _, hexpired, _, hrotates, _⟩ :=
    a_call_changes_its_own_records_only hsane ⟨20, 0⟩
  refine ⟨hsane, hrefused "new" "lost" .invalidRefreshToken (by decide), ?_, ?_⟩
  · obtain ⟨current, old, index, hindex, h⟩ :=
      hrotates "new" "one" ⟨"new", "refresh", "app", 7, [], ⟨920, 0⟩⟩ (by decide) (by decide)
    have hcurrent : some "shared" = some current := h.led
    cases hcurrent
    exact ⟨index, hindex, h.other_refresh "two" (by decide), h.retired⟩
  · obtain ⟨kept, hkept, h⟩ := hexpired ⟨"a", "r"⟩ "key" "app" "hush" (by decide)
    have hsize : kept.size + 1 = 1 := h.size
    exact ⟨kept, hkept, by omega⟩

end OAuth

end Warrant
