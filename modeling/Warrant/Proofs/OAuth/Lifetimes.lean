-- Which lifetimes of access tokens are of use. The check of the settings
-- turns down a lifetime of zero and no other. A lifetime counts as a signed
-- number, and a token needs a last instant in the calendar. So a lifetime is
-- of use at the instants from which it ends in the calendar.
--
-- Anywhere else a call that hands out a token fails in one of two ways. Either
-- the lifetime is negative, and the token is over before it is handed out. Or
-- there is no last instant and the call dies, after it has taken out the code
-- or the old access token.
import Warrant.Authority
import Warrant.Proofs.OAuth.Frame
import Warrant.Proofs.OAuth.TokenLife

namespace Warrant.OAuth

/-! ## The last instant of a token -/

/-- The lifetime of access tokens, counted from this instant, ends in the
calendar. -/
def EndsInCalendar (settings : OAuthSettings) (now : Instant) : Prop :=
  now.seconds + settings.accessTtl.toNat ≤ Instant.lastSecond

instance (settings : OAuthSettings) (now : Instant) : Decidable (EndsInCalendar settings now) :=
  inferInstanceAs (Decidable (_ ≤ _))

namespace Server

variable {s : Server} {now : Instant}

/-- A lifetime that ends in the calendar is no negative number. -/
theorem accessExpiry?_of_ends (hnow : now.OnClock) (h : EndsInCalendar s.settings now) :
    s.accessExpiry? now = some (now.later s.settings.accessTtl.toNat) := by
  have h0 := hnow.1
  unfold EndsInCalendar at h
  have hlast : Instant.lastSecond = 8210266876799 := by decide
  have hfirst : Instant.firstSecond ≤ 0 := by decide
  have hsmall : s.settings.accessTtl.toNat < Word.half := by
    unfold Word.half
    omega
  rw [accessExpiry?, Word.toInt_toInt64 hsmall, Instant.plusSeconds?_eq_some_iff]
  exact ⟨⟨hnow, by omega, h⟩, rfl⟩

/-- A lifetime that does not end in the calendar leads to no instant, or to
one that is over. -/
theorem accessExpiry?_of_not_ends (h : ¬ EndsInCalendar s.settings now) {t : Instant}
    (ht : s.accessExpiry? now = some t) : t < now := by
  rw [accessExpiry?, Instant.plusSeconds?_eq_some_iff] at ht
  obtain ⟨⟨⟨h0, _⟩, _, hlast⟩, rfl⟩ := ht
  unfold EndsInCalendar at h
  have hlarge : Word.half ≤ s.settings.accessTtl.toNat := by
    by_contra hsmall
    rw [Word.toInt_toInt64 (not_le.1 hsmall)] at hlast
    exact h hlast
  have hword : s.settings.accessTtl.toNat < Word.limit := s.settings.accessTtl.toNat_lt
  rw [← not_le, Instant.le_iff, Word.toInt_toInt64_of_half_le hlarge]
  dsimp only
  omega

/-! ## One call -/

/-- The call hands out a pair that counts now and later: its last instant is
still to come, and the server that is left finds it. No lock is poisoned. -/
def Delivers (now : Instant) (r : Server × Except Failure TokenPair) : Prop :=
  ∃ p, r.2 = .ok p ∧ now < p.expiresAt ∧ r.1.validate now p.access = .ok p ∧ r.1.Sane

/-- The call hands out a pair that is over by now. -/
def Overdue (now : Instant) (r : Server × Except Failure TokenPair) : Prop :=
  ∃ p, r.2 = .ok p ∧ p.expiresAt < now ∧
    r.1.validate now p.access = .error (.refused .tokenExpired)

theorem Overdue.not_delivers {r : Server × Except Failure TokenPair} (h : Overdue now r) :
    ¬ Delivers now r := by
  obtain ⟨p, hp, hlt, _⟩ := h
  rintro ⟨q, hq, hgt, _⟩
  rw [hp] at hq
  cases hq
  exact lt_asymm hlt hgt

theorem not_delivers_of_died {s' : Server} : ¬ Delivers now (s', .error .died) := by
  rintro ⟨p, hp, _⟩
  cases hp

theorem delivers_of_stored {s' : Server} {p : TokenPair} (h : s'.Sane) (hnow : now.OnClock)
    (hp : s'.tokens.byAccess.get? p.access = some p) (hlt : now < p.expiresAt) :
    Delivers now (s', .ok p) :=
  ⟨p, rfl, hlt, by rw [validate_on_clock h hnow hp, if_pos hlt.le], h⟩

theorem overdue_of_stored {s' : Server} {p : TokenPair} (h : s'.Sane) (hnow : now.OnClock)
    (hp : s'.tokens.byAccess.get? p.access = some p) (hlt : p.expiresAt < now) :
    Overdue now (s', .ok p) :=
  ⟨p, rfl, hlt, by rw [validate_on_clock h hnow hp, if_neg hlt.not_ge]⟩

theorem lt_later {n : Nat} (h : n ≠ 0) : now < now.later n := by
  rw [← not_le, Instant.le_iff, Instant.later]
  dsimp only
  omega

theorem pairFor?_of_expiry (fresh : FreshPair) (g : AuthorizationCode) {t : Instant}
    (ht : s.accessExpiry? now = some t) :
    ∃ p, s.pairFor? now fresh g = some p ∧ p.expiresAt = t :=
  ⟨_, pairFor?_eq_some_iff.2 ⟨t, ht, rfl⟩, rfl⟩

/-- The exchange of a code that counts delivers, if the lifetime ends in the
calendar. -/
theorem exchange_delivers (h : s.Sane) (hnow : now.OnClock) (hpos : s.settings.accessTtl ≠ 0)
    (hends : EndsInCalendar s.settings now) (fresh : FreshPair) {code secret : String}
    {g : AuthorizationCode} (hauth : s.authenticates g.client secret = true)
    (hg : s.codes.get? code = some g) (he : g.isOver now = false) :
    Delivers now (s.exchange now fresh code g.client secret) := by
  obtain ⟨p, hp, hexp⟩ := pairFor?_of_expiry fresh g (accessExpiry?_of_ends hnow hends)
  rw [exchange_live h hauth hg he hp]
  refine delivers_of_stored ?_ hnow ?_ ?_
  · exact h
  · exact (TokenIndex.byAccess_store ..).trans (if_pos rfl)
  · rw [hexp]
    exact lt_later fun hz => hpos (UInt64.toNat_inj.1 hz)

/-- If it does not, the client is left without its code. -/
theorem exchange_fails (h : s.Sane) (hnow : now.OnClock)
    (hends : ¬ EndsInCalendar s.settings now) (fresh : FreshPair) {code secret : String}
    {g : AuthorizationCode} (hauth : s.authenticates g.client secret = true)
    (hg : s.codes.get? code = some g) (he : g.isOver now = false) :
    (s.exchange now fresh code g.client secret).1.codes = s.codes.erase code ∧
      (Overdue now (s.exchange now fresh code g.client secret) ∨
        s.exchange now fresh code g.client secret =
          ({ s with codes := s.codes.erase code }, .error .died)) := by
  cases ht : s.accessExpiry? now with
  | none =>
    have hp : s.pairFor? now fresh g = none := by
      unfold pairFor?
      rw [ht]
      rfl
    have hp' : pairFor? { s with codes := s.codes.erase code } now fresh g = none := hp
    have hdies : s.exchange now fresh code g.client secret =
        ({ s with codes := s.codes.erase code }, .error .died) := by
      rw [exchange, if_pos hauth, takeCode_live h hnow hg he]
      dsimp only
      rw [hp']
    exact ⟨by rw [hdies], .inr hdies⟩
  | some t =>
    obtain ⟨p, hp, rfl⟩ := pairFor?_of_expiry fresh g ht
    rw [exchange_live h hauth hg he hp]
    refine ⟨rfl, .inl (overdue_of_stored h hnow ?_ (accessExpiry?_of_not_ends hends ht))⟩
    exact (TokenIndex.byAccess_store ..).trans (if_pos rfl)

/-- A refresh token that is out delivers, if the lifetime ends in the
calendar. -/
theorem refresh_delivers (h : s.Sane) (hnow : now.OnClock) (hpos : s.settings.accessTtl ≠ 0)
    (hends : EndsInCalendar s.settings now) (fresh : String) {token : String} {p : TokenPair}
    (hp : s.tokens.ofRefresh? token = some p) : Delivers now (s.refresh now fresh token) := by
  rw [Server.refresh, if_neg (by simp [h.2]), hp]
  dsimp only
  rw [accessExpiry?_of_ends hnow hends]
  dsimp only
  refine delivers_of_stored ?_ hnow ?_ ?_
  · exact h
  · exact (TokenIndex.byAccess_rotate ..).trans (if_pos rfl)
  · exact lt_later fun hz => hpos (UInt64.toNat_inj.1 hz)

/-- If it does not, the old access token is out of use all the same. Where
the call dies, all tokens are out of reach. -/
theorem refresh_fails (h : s.Sane) (hnow : now.OnClock)
    (hends : ¬ EndsInCalendar s.settings now) (fresh : String) {token : String} {p : TokenPair}
    (hp : s.tokens.ofRefresh? token = some p) :
    Overdue now (s.refresh now fresh token) ∨
      s.refresh now fresh token =
        ({ s with tokens := s.tokens.retire token, tokensPoisoned := true }, .error .died) := by
  rw [Server.refresh, if_neg (by simp [h.2]), hp]
  dsimp only
  cases ht : s.accessExpiry? now with
  | none => exact .inr rfl
  | some t =>
    refine .inl (overdue_of_stored h hnow ?_ (accessExpiry?_of_not_ends hends ht))
    exact (TokenIndex.byAccess_rotate ..).trans (if_pos rfl)

/-! ## No lock is poisoned

On a clock only a refresh can poison a lock, and it does so only where there
is no last instant. -/

theorem takeCode_sane (h : s.Sane) (hnow : now.OnClock) (code client : String) :
    (s.takeCode now code client).1.Sane := by
  cases hg : s.codes.get? code with
  | none =>
    rw [takeCode_unknown h client hg]
    exact h
  | some g =>
    by_cases hc : g.client = client
    · subst hc
      cases he : g.isOver now with
      | true =>
        rw [takeCode_expired h hnow hg he]
        exact h
      | false =>
        rw [takeCode_live h hnow hg he]
        exact h
    · rw [takeCode_foreign h hg hc]
      exact h

theorem exchange_sane (h : s.Sane) (hnow : now.OnClock) (fresh : FreshPair)
    (code client secret : String) : (s.exchange now fresh code client secret).1.Sane := by
  have htake := takeCode_sane h hnow code client
  unfold exchange
  split
  · split
    · rename_i heq
      rw [heq] at htake
      exact htake
    · rename_i s' c heq
      rw [heq] at htake
      split
      · exact htake
      · rename_i p hp
        rw [storeTokens_eq htake]
        exact htake
  · exact h

theorem issueCode_sane (h : s.Sane) (fresh client : String) (subject : UserId)
    (redirectUri : String) (scopes : List String) :
    (s.issueCode now fresh client subject redirectUri scopes).1.Sane := by
  unfold issueCode
  split
  · exact h
  · split
    · exact h
    · rw [storeCode_eq h]
      exact h

theorem refresh_sane (h : s.Sane) (hnow : now.OnClock) (hends : EndsInCalendar s.settings now)
    (fresh token : String) : (s.refresh now fresh token).1.Sane := by
  cases hp : s.tokens.ofRefresh? token with
  | none =>
    rw [refresh_unknown h hp]
    exact h
  | some p =>
    rw [Server.refresh, if_neg (by simp [h.2]), hp]
    dsimp only
    rw [accessExpiry?_of_ends hnow hends]
    exact h

theorem step_sane (h : s.Sane) (hnow : now.OnClock) (hends : EndsInCalendar s.settings now)
    (call : Call) : (s.step now call).1.Sane := by
  cases call with
  | issueCode fresh client subject redirectUri scopes =>
    exact issueCode_sane h fresh client subject redirectUri scopes
  | exchange fresh code client secret => exact exchange_sane h hnow fresh code client secret
  | refresh fresh token => exact refresh_sane h hnow hends fresh token
  | revoke access =>
    have hc : Change s now _ _ := revoke_change h access
    exact hc.sane h
  | purge =>
    refine (purge_change h ?_).sane h
    rw [purge, if_neg (by simp [h.1]), if_pos (.inl hnow)]
    simp
  | _ => exact h

/-- No call changes the settings, one that dies included. -/
theorem step_settings (s : Server) (now : Instant) (call : Call) :
    (s.step now call).1.settings = s.settings := by
  cases call with
  | register id secret redirectUri scopes => rfl
  | _ => exact (s.step_base now (by simp)).settings

end Server

/-! ## Whole runs -/

theorem settings_run (settings : OAuthSettings) (calls : List (Instant × Call)) :
    (run settings calls).server.settings = settings := by
  induction calls with
  | nil => rfl
  | cons q earlier ih =>
    obtain ⟨now, call⟩ := q
    rw [run_cons]
    exact (Server.step_settings _ now call).trans ih

/-- Where the lifetime ends in the calendar at each call, no lock is ever
poisoned. -/
theorem sane_run {settings : OAuthSettings} (calls : List (Instant × Call))
    (h : ∀ q ∈ calls, q.1.OnClock ∧ EndsInCalendar settings q.1) :
    (run settings calls).server.Sane := by
  induction calls with
  | nil => exact ⟨rfl, rfl⟩
  | cons q earlier ih =>
    obtain ⟨now, call⟩ := q
    obtain ⟨hnow, hends⟩ := h _ List.mem_cons_self
    rw [run_cons]
    refine Server.step_sane (ih fun q hq => h q (List.mem_cons_of_mem _ hq)) hnow ?_ call
    rwa [settings_run]

/-- The authority of settings that pass the check, and a new server of its
own. -/
theorem authority_of_checked {settings : Settings} (hmode : settings.credentials = .oauth)
    (hcheck : settings.check = .ok ()) :
    settings.oauth.accessTtl ≠ 0 ∧ ∃ a, Authority.ofSettings settings = .ok a ∧
      a.credentials = .oauth (.new settings.oauth) := by
  constructor
  · intro hz
    simp [Settings.check, hmode, OAuthSettings.check, hz] at hcheck
  · unfold Authority.ofSettings Credentials.ofSettings
    rw [hcheck, hmode]
    exact ⟨_, rfl, rfl⟩

/-! ## The law -/

/-- Settings that pass the check are of use exactly as far as the calendar
goes. A run in which the lifetime always ends in the calendar poisons no lock.
And on a server with no poisoned lock the exchange of a code that counts, with
the right secret, and the use of a refresh token that is out each deliver a
pair that counts now and later exactly if the lifetime ends in the calendar.
If it does not, the code is gone, and either the pair is overdue or the call
dies. -/
theorem a_lifetime_is_of_use_if_it_ends_in_the_calendar {settings : Settings}
    (hmode : settings.credentials = .oauth) (hcheck : settings.check = .ok ())
    {calls : List (Instant × Call)} (hcalls : ∀ q ∈ calls, q.1.OnClock) {now : Instant}
    (hnow : now.OnClock) :
    let s := (run settings.oauth calls).server
    (∃ a, Authority.ofSettings settings = .ok a ∧
      a.credentials = .oauth (.new settings.oauth)) ∧
    ((∀ q ∈ calls, EndsInCalendar settings.oauth q.1) → s.Sane) ∧
    (s.Sane →
      (∀ fresh code secret g, s.authenticates g.client secret = true →
        s.codes.get? code = some g → g.isOver now = false →
        let r := s.exchange now fresh code g.client secret
        (Server.Delivers now r ↔ EndsInCalendar settings.oauth now) ∧
          (¬ EndsInCalendar settings.oauth now → r.1.codes = s.codes.erase code ∧
            (Server.Overdue now r ∨ r.2 = .error .died))) ∧
      ∀ fresh token p, s.tokens.ofRefresh? token = some p →
        let r := s.refresh now fresh token
        (Server.Delivers now r ↔ EndsInCalendar settings.oauth now) ∧
          (¬ EndsInCalendar settings.oauth now →
            Server.Overdue now r ∨
              r.2 = .error .died ∧ r.1.tokens = s.tokens.retire token ∧
                r.1.tokensPoisoned = true)) := by
  intro s
  have hset : s.settings = settings.oauth := settings_run settings.oauth calls
  obtain ⟨hpos, hauthority⟩ := authority_of_checked hmode hcheck
  refine ⟨hauthority, fun hends => ?_, fun hs => ⟨?_, ?_⟩⟩
  · exact sane_run calls fun q hq => ⟨hcalls q hq, hends q hq⟩
  · intro fresh code secret g hauth hg he r
    rw [← hset] at hpos ⊢
    have hfails : ¬ EndsInCalendar s.settings now → r.1.codes = s.codes.erase code ∧
        (Server.Overdue now r ∨ r.2 = .error .died) := by
      intro hends
      obtain ⟨hcodes, hr⟩ := Server.exchange_fails hs hnow hends fresh hauth hg he
      exact ⟨hcodes, hr.imp_right fun hdied => congrArg Prod.snd hdied⟩
    refine ⟨⟨fun hdel => ?_, fun hends => ?_⟩, hfails⟩
    · by_contra hends
      rcases (hfails hends).2 with hover | hdied
      · exact hover.not_delivers hdel
      · obtain ⟨p, hp, _⟩ := hdel
        rw [hdied] at hp
        cases hp
    · exact Server.exchange_delivers hs hnow hpos hends fresh hauth hg he
  · intro fresh token p hp r
    rw [← hset] at hpos ⊢
    have hfails : ¬ EndsInCalendar s.settings now → Server.Overdue now r ∨
        r = ({ s with tokens := s.tokens.retire token, tokensPoisoned := true }, .error .died) :=
      fun hends => Server.refresh_fails hs hnow hends fresh hp
    refine ⟨⟨fun hdel => ?_, fun hends => ?_⟩, fun hends => ?_⟩
    · by_contra hends
      rcases hfails hends with hover | hdied
      · exact hover.not_delivers hdel
      · exact Server.not_delivers_of_died (hdied ▸ hdel)
    · exact Server.refresh_delivers hs hnow hpos hends fresh hp
    · rcases hfails hends with hover | hdied
      · exact .inl hover
      · rw [hdied]
        exact .inr ⟨rfl, rfl, rfl⟩

/-- Settings with the longest lifetime that can be written down. -/
def endless : Settings :=
  ⟨.oauth, some .roles, none, { accessTtl := 18446744073709551615 }⟩

theorem a_quarter_of_an_hour_is_of_use :
    Settings.check ⟨.oauth, none, none, {}⟩ = .ok () ∧
      Server.Delivers ⟨60, 0⟩ ((run {} arrival).server.exchange ⟨60, 0⟩
        ⟨"access 1", "refresh 1"⟩ "code 1" "app" "hush") := by
  have hcheck : Settings.check ⟨.oauth, none, none, {}⟩ = .ok () := rfl
  obtain ⟨_, hsane, hserves⟩ := @a_lifetime_is_of_use_if_it_ends_in_the_calendar
    ⟨.oauth, none, none, {}⟩ rfl hcheck arrival (by decide) ⟨60, 0⟩ (by decide)
  obtain ⟨hexchange, _⟩ := hserves (hsane (by decide))
  have hdelivers := hexchange ⟨"access 1", "refresh 1"⟩ "code 1" "hush"
    ⟨"code 1", "app", 7, "/back", ["read"], ⟨630, 0⟩⟩ (by decide) (by decide) (by decide)
  exact ⟨hcheck, hdelivers.1.2 (by decide)⟩

theorem the_longest_lifetime_is_over_at_once :
    endless.check = .ok () ∧
      ∃ s p, (run endless.oauth arrival).server.exchange ⟨60, 0⟩ ⟨"access 1", "refresh 1"⟩
          "code 1" "app" "hush" = (s, .ok p) ∧ p.expiresAt < ⟨60, 0⟩ ∧
        s.validate ⟨60, 0⟩ "access 1" = .error (.refused .tokenExpired) := by
  refine ⟨rfl, _, _, rfl, by decide, by decide⟩

end Warrant.OAuth
