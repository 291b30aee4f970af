-- The life of tokens over a run. An access token counts from the call that
-- hands it out until its refresh token is used or it is revoked, and no
-- longer than its time. A refresh token counts until the access token that is
-- current for it is revoked. The clock may go either way.
--
-- A refresh revives a pair whose time is over, so time is no part of what
-- the log says is current: it is looked at when a token is shown, and only
-- then.
import Warrant.Proofs.OAuth.Consistency

namespace Warrant.OAuth

/-! ## What a log says of tokens -/

namespace Act

/-- The pair that a call hands out. -/
def hands? : Act → Option TokenPair
  | exchange _ _ _ (.ok p) => some p
  | refresh _ (.ok p) => some p
  | _ => none

/-- The call takes a pair out of use: its refresh token is used, or its
access token is revoked. -/
def ends (p : TokenPair) : Act → Bool
  | refresh token (.ok _) => token = p.refresh
  | revoke access _ => access = p.access
  | _ => false

end Act

/-- A call handed the pair out, and no call since then took it out of use. -/
def Current (log : List Event) (p : TokenPair) : Prop :=
  ∃ newer e older, log = newer ++ e :: older ∧ e.act.hands? = some p ∧
    ∀ e' ∈ newer, e'.act.ends p = false

/-- A code was exchanged for the pair. -/
def Granted (log : List Event) (p : TokenPair) : Prop :=
  ∃ t code client secret, ⟨t, .exchange code client secret (.ok p)⟩ ∈ log

/-- An access token was revoked while it was the current one of this refresh
token. -/
def Revoked (log : List Event) (token : String) : Prop :=
  ∃ newer t answer older p, log = newer ++ ⟨t, .revoke p.access answer⟩ :: older ∧
    Current older p ∧ p.refresh = token

theorem current_cons {e : Event} {log : List Event} {p : TokenPair} :
    Current (e :: log) p ↔ e.act.hands? = some p ∨ (Current log p ∧ e.act.ends p = false) := by
  constructor
  · rintro ⟨newer, e', older, heq, hh, hn⟩
    cases newer with
    | nil =>
      obtain ⟨rfl, rfl⟩ := List.cons.inj heq
      exact .inl hh
    | cons e'' newer =>
      obtain ⟨rfl, rfl⟩ := List.cons.inj heq
      refine .inr ⟨⟨newer, e', older, rfl, hh, ?_⟩, hn _ List.mem_cons_self⟩
      exact fun x hx => hn x (List.mem_cons_of_mem _ hx)
  · rintro (hh | ⟨⟨newer, e', older, rfl, hh, hn⟩, he⟩)
    · exact ⟨[], e, log, rfl, hh, by simp⟩
    · refine ⟨e :: newer, e', older, rfl, hh, ?_⟩
      intro x hx
      rcases List.mem_cons.1 hx with rfl | hx
      · exact he
      · exact hn x hx

theorem granted_cons {e : Event} {log : List Event} {p : TokenPair} :
    Granted (e :: log) p ↔
      (∃ code client secret, e.act = .exchange code client secret (.ok p)) ∨ Granted log p := by
  constructor
  · rintro ⟨t, code, client, secret, hm⟩
    rcases List.mem_cons.1 hm with rfl | hm
    · exact .inl ⟨code, client, secret, rfl⟩
    · exact .inr ⟨t, code, client, secret, hm⟩
  · rintro (⟨code, client, secret, ha⟩ | ⟨t, code, client, secret, hm⟩)
    · exact ⟨e.now, code, client, secret, ha ▸ List.mem_cons_self⟩
    · exact ⟨t, code, client, secret, List.mem_cons_of_mem e hm⟩

theorem revoked_cons {e : Event} {log : List Event} {token : String} :
    Revoked (e :: log) token ↔
      (∃ answer p, e.act = .revoke p.access answer ∧ Current log p ∧ p.refresh = token) ∨
        Revoked log token := by
  constructor
  · rintro ⟨newer, t, answer, older, p, heq, hc, hp⟩
    cases newer with
    | nil =>
      obtain ⟨rfl, rfl⟩ := List.cons.inj heq
      exact .inl ⟨answer, p, rfl, hc, hp⟩
    | cons e' newer =>
      obtain ⟨rfl, rfl⟩ := List.cons.inj heq
      exact .inr ⟨newer, t, answer, older, p, rfl, hc, hp⟩
  · rintro (⟨answer, p, ha, hc, hp⟩ | ⟨newer, t, answer, older, p, rfl, hc, hp⟩)
    · exact ⟨[], e.now, answer, log, p, by rw [← ha]; rfl, hc, hp⟩
    · exact ⟨e :: newer, t, answer, older, p, rfl, hc, hp⟩

theorem made_of_hands {a : Act} {p : TokenPair} (h : a.hands? = some p) :
    (.access, p.access) ∈ a.made := by
  unfold Act.hands? at h
  split at h
  · cases h
    simp [Act.made]
  · cases h
    simp [Act.made]
  · cases h

theorem Current.made {log : List Event} {p : TokenPair} (h : Current log p) :
    (.access, p.access) ∈ made log := by
  obtain ⟨newer, e, older, rfl, hh, _⟩ := h
  exact List.mem_flatMap.2 ⟨e, by simp, made_of_hands hh⟩

theorem Granted.made {log : List Event} {p : TokenPair} (h : Granted log p) :
    (.refresh, p.refresh) ∈ made log := by
  obtain ⟨t, code, client, secret, hm⟩ := h
  exact List.mem_flatMap.2 ⟨_, hm, by simp [Act.made]⟩

/-- A refresh token was granted with one pair. -/
theorem Granted.unique {log : List Event} (ho : Orderly log) {p q : TokenPair}
    (h : Granted log p) (h' : Granted log q) (he : p.refresh = q.refresh) : p = q := by
  obtain ⟨t, code, client, secret, hm⟩ := h
  obtain ⟨t', code', client', secret', hm'⟩ := h'
  have h1 : (.refresh, p.refresh) ∈ (Act.exchange code client secret (.ok p)).made := by
    simp [Act.made]
  have h2 : (.refresh, p.refresh) ∈ (Act.exchange code' client' secret' (.ok q)).made := by
    simp [Act.made, he]
  have hsame := ho.one_maker hm hm' h1 h2
  simp only [Event.mk.injEq, Act.exchange.injEq, Except.ok.injEq] at hsame
  exact hsame.2.2.2.2

/-! ## The indexes of a run -/

/-- The access tokens that are out are the current ones of the log. Each
current pair comes from a grant, and each grant has a current pair until it is
revoked. -/
structure TokenIndex.Tracks (t : TokenIndex) (log : List Event) : Prop where
  access : ∀ access p, t.byAccess.get? access = some p ↔ Current log p ∧ p.access = access
  granted : ∀ p, Current log p →
    ∃ q, Granted log q ∧ p = { q with access := p.access, expiresAt := p.expiresAt }
  kept : ∀ q, Granted log q → ¬ Revoked log q.refresh →
    ∃ p, Current log p ∧ p.refresh = q.refresh
  unrevoked : ∀ p, Current log p → ¬ Revoked log p.refresh
  known : ∀ token, Revoked log token → (.refresh, token) ∈ made log

namespace TokenIndex

variable {t : TokenIndex} {log : List Event}

theorem tracks_empty : empty.Tracks [] := by
  have hc : ∀ p, ¬ Current [] p := fun p ⟨newer, e, older, heq, _⟩ => by simp at heq
  have hr : ∀ token, ¬ Revoked [] token := fun token ⟨newer, t, answer, older, p, heq, _⟩ => by
    simp at heq
  exact ⟨fun access p => by simp [empty, hc], fun p h => absurd h (hc p),
    fun q ⟨_, _, _, _, hm⟩ => by simp at hm, fun p h => absurd h (hc p),
    fun token h => absurd h (hr token)⟩

theorem Tracks.refresh_made (h : t.Tracks log) {p : TokenPair} (hc : Current log p) :
    (.refresh, p.refresh) ∈ made log := by
  obtain ⟨q, hq, he⟩ := h.granted p hc
  rw [he]
  exact hq.made

theorem Tracks.byRefresh (h : t.Tracks log) (ha : t.Agree) {p : TokenPair} (hc : Current log p) :
    t.byRefresh.get? p.refresh = some p.access :=
  (ha.of_access p.access p ((h.access p.access p).2 ⟨hc, rfl⟩)).2

/-- A refresh token has one current pair. -/
theorem Tracks.unique (h : t.Tracks log) (ha : t.Agree) {p q : TokenPair} (hp : Current log p)
    (hq : Current log q) (he : p.refresh = q.refresh) : p = q := by
  have h1 := h.byRefresh ha hp
  have h2 := h.byRefresh ha hq
  rw [he, h2] at h1
  have hacc : q.access = p.access := Option.some.inj h1
  have h3 := (h.access p.access p).2 ⟨hp, rfl⟩
  have h4 := (h.access p.access q).2 ⟨hq, hacc⟩
  rw [h3] at h4
  exact Option.some.inj h4

/-- A call that hands out nothing and ends nothing. -/
theorem Tracks.quiet {e : Event} (h : t.Tracks log) (hh : e.act.hands? = none)
    (he : ∀ p, e.act.ends p = false) : t.Tracks (e :: log) := by
  have hc : ∀ p, Current (e :: log) p ↔ Current log p := fun p => by
    simp [current_cons, hh, he]
  have hg : ∀ q, Granted (e :: log) q ↔ Granted log q := fun q => by
    rw [granted_cons, or_iff_right]
    rintro ⟨code, client, secret, ha⟩
    simp [ha, Act.hands?] at hh
  have hr : ∀ token, Revoked (e :: log) token ↔ Revoked log token := fun token => by
    rw [revoked_cons, or_iff_right]
    rintro ⟨answer, p, ha, _⟩
    have hend := he p
    simp [ha, Act.ends] at hend
  constructor
  · intro access p
    rw [hc]
    exact h.access access p
  · intro p hp
    obtain ⟨q, hq, hpq⟩ := h.granted p ((hc p).1 hp)
    exact ⟨q, (hg q).2 hq, hpq⟩
  · intro q hq hn
    obtain ⟨p, hp, hpq⟩ := h.kept q ((hg q).1 hq) fun hrev => hn ((hr _).2 hrev)
    exact ⟨p, (hc p).2 hp, hpq⟩
  · intro p hp hrev
    exact h.unrevoked p ((hc p).1 hp) ((hr _).1 hrev)
  · intro token hrev
    exact mem_made_cons.2 (.inr (h.known token ((hr token).1 hrev)))

/-- After a pair is stored the access tokens that are out are its own, and
those from before. -/
theorem Tracks.byAccess_store (h : t.Tracks log) {p : TokenPair}
    (hnew : (.access, p.access) ∉ made log) (access : String) (q : TokenPair) :
    (t.store p).byAccess.get? access = some q ↔
      (q = p ∨ Current log q) ∧ q.access = access := by
  rw [TokenIndex.byAccess_store]
  split
  · rename_i he
    constructor
    · rintro ⟨⟩
      exact ⟨.inl rfl, he.symm⟩
    · rintro ⟨rfl | hq, hqa⟩
      · rfl
      · have hm := hq.made
        rw [hqa, he] at hm
        exact absurd hm hnew
  · rename_i hne
    rw [h.access]
    constructor
    · exact fun ⟨hq, hqa⟩ => ⟨.inr hq, hqa⟩
    · rintro ⟨rfl | hq, hqa⟩
      · exact absurd hqa.symm hne
      · exact ⟨hq, hqa⟩

theorem Tracks.exchange {now : Instant} {code client secret : String} {p : TokenPair}
    (h : t.Tracks log) (ho : Orderly (⟨now, .exchange code client secret (.ok p)⟩ :: log)) :
    (t.store p).Tracks (⟨now, .exchange code client secret (.ok p)⟩ :: log) := by
  have hacc : (.access, p.access) ∉ made log := ho.new_text (k := .access) (by simp [Act.made])
  have href : (.refresh, p.refresh) ∉ made log := ho.new_text (k := .refresh) (by simp [Act.made])
  have hc : ∀ q, Current (⟨now, .exchange code client secret (.ok p)⟩ :: log) q ↔
      q = p ∨ Current log q := fun q => by
    simp [current_cons, Act.hands?, Act.ends, eq_comm]
  have hg : ∀ q, Granted (⟨now, .exchange code client secret (.ok p)⟩ :: log) q ↔
      q = p ∨ Granted log q := fun q => by
    simp [granted_cons, eq_comm]
  have hr : ∀ token, Revoked (⟨now, .exchange code client secret (.ok p)⟩ :: log) token ↔
      Revoked log token := fun token => by
    simp [revoked_cons]
  constructor
  · intro access q
    rw [hc]
    exact h.byAccess_store hacc access q
  · intro q hq
    rcases (hc q).1 hq with rfl | hq
    · exact ⟨q, (hg q).2 (.inl rfl), rfl⟩
    · obtain ⟨q', hq', he⟩ := h.granted q hq
      exact ⟨q', (hg q').2 (.inr hq'), he⟩
  · intro q hq hn
    rcases (hg q).1 hq with rfl | hq
    · exact ⟨q, (hc q).2 (.inl rfl), rfl⟩
    · obtain ⟨p', hp', he⟩ := h.kept q hq fun hrev => hn ((hr _).2 hrev)
      exact ⟨p', (hc p').2 (.inr hp'), he⟩
  · intro q hq hrev
    rw [hr] at hrev
    rcases (hc q).1 hq with rfl | hq
    · exact href (h.known _ hrev)
    · exact h.unrevoked q hq hrev
  · intro token hrev
    exact mem_made_cons.2 (.inr (h.known token ((hr token).1 hrev)))

/-- After a rotation the access tokens that are out are the new one, and those
of other refresh tokens. -/
theorem Tracks.byAccess_rotate (h : t.Tracks log) (ha : t.Agree) {p q : TokenPair}
    (hp : Current log p) (hnew : (.access, q.access) ∉ made log) (access : String)
    (p' : TokenPair) :
    (t.rotate p.refresh q).byAccess.get? access = some p' ↔
      (p' = q ∨ (Current log p' ∧ p'.refresh ≠ p.refresh)) ∧ p'.access = access := by
  rw [TokenIndex.byAccess_rotate, h.byRefresh ha hp]
  by_cases hx : access = q.access
  · rw [if_pos hx]
    constructor
    · rintro ⟨⟩
      exact ⟨.inl rfl, hx.symm⟩
    · rintro ⟨rfl | ⟨hp', _⟩, hpa⟩
      · rfl
      · have hm := hp'.made
        rw [hpa, hx] at hm
        exact absurd hm hnew
  rw [if_neg hx]
  -- the access token that was current until now is out of the index
  by_cases hy : access = p.access
  · rw [if_pos (by rw [hy])]
    constructor
    · rintro ⟨⟩
    · rintro ⟨rfl | ⟨hp', hne⟩, hpa⟩
      · exact absurd hpa.symm hx
      · have hsame := (h.access access p').2 ⟨hp', hpa⟩
        rw [hy, (h.access p.access p).2 ⟨hp, rfl⟩] at hsame
        cases hsame
        exact absurd rfl hne
  · rw [if_neg fun he => hy (Option.some.inj he).symm, h.access]
    constructor
    · rintro ⟨hp', hpa⟩
      refine ⟨.inr ⟨hp', fun he => hy ?_⟩, hpa⟩
      rw [← hpa, h.unique ha hp' hp he]
    · rintro ⟨rfl | ⟨hp', _⟩, hpa⟩
      · exact absurd hpa.symm hx
      · exact ⟨hp', hpa⟩

theorem Tracks.refresh {now expiresAt : Instant} {fresh token : String} {p : TokenPair}
    (h : t.Tracks log) (ha : t.Agree) (hp : t.ofRefresh? token = some p)
    (ho : Orderly (⟨now, .refresh token (.ok { p with access := fresh, expiresAt })⟩ :: log)) :
    (t.rotate token { p with access := fresh, expiresAt }).Tracks
      (⟨now, .refresh token (.ok { p with access := fresh, expiresAt })⟩ :: log) := by
  obtain ⟨old, _, hget⟩ := ofRefresh?_eq_some_iff.1 hp
  obtain ⟨hpc, rfl⟩ := (h.access old p).1 hget
  have hpr : p.refresh = token := ha.refresh_eq hp
  subst hpr
  have hacc : (.access, fresh) ∉ made log := ho.new_text (k := .access) (by simp [Act.made])
  generalize hq : { p with access := fresh, expiresAt } = q at ho ⊢
  have hqa : q.access = fresh := by rw [← hq]
  have hqr : q.refresh = p.refresh := by rw [← hq]
  have hc : ∀ p', Current (⟨now, .refresh p.refresh (.ok q)⟩ :: log) p' ↔
      p' = q ∨ (Current log p' ∧ p'.refresh ≠ p.refresh) := fun p' => by
    simp [current_cons, Act.hands?, Act.ends, eq_comm]
  have hg : ∀ p', Granted (⟨now, .refresh p.refresh (.ok q)⟩ :: log) p' ↔ Granted log p' :=
    fun p' => by simp [granted_cons]
  have hr : ∀ r, Revoked (⟨now, .refresh p.refresh (.ok q)⟩ :: log) r ↔ Revoked log r :=
    fun r => by simp [revoked_cons]
  constructor
  · intro access p'
    rw [hc]
    exact h.byAccess_rotate ha hpc (hqa ▸ hacc) access p'
  · intro p' hp'
    rcases (hc p').1 hp' with rfl | ⟨hp', _⟩
    · obtain ⟨q', hq', he⟩ := h.granted p hpc
      exact ⟨q', (hg q').2 hq', by rw [← hq, he]⟩
    · obtain ⟨q', hq', he⟩ := h.granted p' hp'
      exact ⟨q', (hg q').2 hq', he⟩
  · intro q' hq' hn
    by_cases he : q'.refresh = p.refresh
    · exact ⟨q, (hc q).2 (.inl rfl), hqr.trans he.symm⟩
    · obtain ⟨p', hp', hpr⟩ := h.kept q' ((hg q').1 hq') fun hrev => hn ((hr _).2 hrev)
      exact ⟨p', (hc p').2 (.inr ⟨hp', fun hpp => he (hpr.symm.trans hpp)⟩), hpr⟩
  · intro p' hp' hrev
    rw [hr] at hrev
    rcases (hc p').1 hp' with rfl | ⟨hp', _⟩
    · rw [hqr] at hrev
      exact h.unrevoked p hpc hrev
    · exact h.unrevoked p' hp' hrev
  · intro r hrev
    exact mem_made_cons.2 (.inr (h.known r ((hr r).1 hrev)))

theorem Tracks.revoke {now : Instant} {answer : Except Refusal Unit} (h : t.Tracks log)
    (ha : t.Agree) (revoked : String) :
    (t.revoke revoked).Tracks (⟨now, .revoke revoked answer⟩ :: log) := by
  have hc : ∀ p, Current (⟨now, .revoke revoked answer⟩ :: log) p ↔
      Current log p ∧ p.access ≠ revoked := fun p => by
    simp [current_cons, Act.hands?, Act.ends, eq_comm]
  have hg : ∀ q, Granted (⟨now, .revoke revoked answer⟩ :: log) q ↔ Granted log q := fun q => by
    simp [granted_cons]
  have hr : ∀ token, Revoked (⟨now, .revoke revoked answer⟩ :: log) token ↔
      (∃ p, p.access = revoked ∧ Current log p ∧ p.refresh = token) ∨ Revoked log token :=
    fun token => by simp [revoked_cons, eq_comm]
  constructor
  · intro access p
    rw [byAccess_revoke, hc]
    split
    · rename_i he
      constructor
      · rintro ⟨⟩
      · exact fun ⟨⟨_, hne⟩, hpa⟩ => absurd (hpa.trans he) hne
    · rename_i hne
      rw [h.access]
      constructor
      · exact fun ⟨hp, hpa⟩ => ⟨⟨hp, fun he => hne (hpa.symm.trans he)⟩, hpa⟩
      · exact fun ⟨⟨hp, _⟩, hpa⟩ => ⟨hp, hpa⟩
  · intro p hp
    obtain ⟨q, hq, he⟩ := h.granted p ((hc p).1 hp).1
    exact ⟨q, (hg q).2 hq, he⟩
  · intro q hq hn
    obtain ⟨p, hp, he⟩ := h.kept q ((hg q).1 hq) fun hrev => hn ((hr _).2 (.inr hrev))
    -- if this access token is the revoked one, its refresh token is revoked as well
    refine ⟨p, (hc p).2 ⟨hp, fun hpa => hn ?_⟩, he⟩
    exact (hr _).2 (.inl ⟨p, hpa, hp, he⟩)
  · intro p hp hrev
    obtain ⟨hp, hne⟩ := (hc p).1 hp
    rcases (hr _).1 hrev with ⟨p', hpa, hp', he⟩ | hrev
    · exact hne (h.unique ha hp hp' he.symm ▸ hpa)
    · exact h.unrevoked p hp hrev
  · intro token hrev
    refine mem_made_cons.2 (.inr ?_)
    rcases (hr token).1 hrev with ⟨p, _, hp, he⟩ | hrev
    · exact he ▸ h.refresh_made hp
    · exact h.known token hrev

end TokenIndex

theorem quiet_of_idle {a : Act} (h : a.idle = true) :
    a.hands? = none ∧ ∀ p, a.ends p = false := by
  cases a with
  | exchange code client secret answer =>
    cases answer with
    | error f => exact ⟨rfl, fun _ => rfl⟩
    | ok p => simp [Act.idle] at h
  | refresh token answer =>
    cases answer with
    | error f => exact ⟨rfl, fun _ => rfl⟩
    | ok p => simp [Act.idle] at h
  | revoke access answer => simp [Act.idle] at h
  | _ => exact ⟨rfl, fun _ => rfl⟩

theorem tracks_change {s s' : Server} {log : List Event} {now : Instant} {a : Act}
    (ho : Orderly (⟨now, a⟩ :: log)) (ha : s.tokens.Agree) (h : s.tokens.Tracks log)
    (hc : Change s now a s') : s'.tokens.Tracks (⟨now, a⟩ :: log) := by
  cases hc with
  | exchange fresh code secret g p hauth hg he hp => exact h.exchange ho
  | refresh fresh token p expiresAt hp ht => exact h.refresh ha hp ho
  | revoke access => exact h.revoke ha access
  | idle a hidle => exact h.quiet (quiet_of_idle hidle).1 (quiet_of_idle hidle).2
  | _ => exact h.quiet rfl fun _ => rfl

variable {settings : OAuthSettings}

theorem tracks_run (calls : List (Instant × Call)) (h : Orderly (run settings calls).log) :
    (run settings calls).server.tokens.Tracks (run settings calls).log :=
  run_induct (P := fun s log => s.tokens.Tracks log) TokenIndex.tracks_empty
    (fun earlier _ _ _ ho ih hc => tracks_change ho (agree_run earlier ho.tail) ih hc) calls h

/-! ## One lookup -/

namespace Server

variable {s : Server} {now : Instant}

/-- An access token that is out is looked at for its time only. -/
theorem validate_on_clock {access : String} {p : TokenPair} (h : s.Sane) (hnow : now.OnClock)
    (hp : s.tokens.byAccess.get? access = some p) :
    s.validate now access =
      if now ≤ p.expiresAt then .ok p else .error (.refused .tokenExpired) := by
  rw [validate, if_neg (by simp [h.2]), hp]
  dsimp only
  rw [TokenPair.isExpired, Instant.look_of_onClock hnow]
  by_cases he : now ≤ p.expiresAt
  · have hx : p.isOver now = false := (Instant.isAfter_eq_false_iff _ _).2 he
    rw [if_pos he, hx]
    rfl
  · have hx : p.isOver now = true := (Instant.isAfter_iff _ _).2 (not_le.1 he)
    rw [if_neg he, hx]
    rfl

theorem validate_off_clock {access : String} {p : TokenPair} (h : s.Sane) (hnow : ¬ now.OnClock)
    (hp : s.tokens.byAccess.get? access = some p) : s.validate now access = .error .died := by
  rw [validate, if_neg (by simp [h.2]), hp]
  dsimp only
  rw [TokenPair.isExpired, Instant.look_of_not_onClock hnow]
  rfl

theorem validate_held {access : String} {p : TokenPair} (h : s.Sane)
    (hp : s.tokens.byAccess.get? access = some p)
    (ha : s.validate now access ≠ .error .died) :
    s.validate now access =
      if now ≤ p.expiresAt then .ok p else .error (.refused .tokenExpired) := by
  by_cases hnow : now.OnClock
  · exact validate_on_clock h hnow hp
  · exact absurd (validate_off_clock h hnow hp) ha

/-- A refresh token that is out gives its pair a new access token. -/
theorem refresh_held {fresh token : String} {p : TokenPair} (h : s.Sane)
    (httl : s.settings.accessTtl.toNat < Word.half) (hp : s.tokens.ofRefresh? token = some p)
    (ha : (s.refresh now fresh token).2 ≠ .error .died) :
    (s.refresh now fresh token).2 =
      .ok { p with access := fresh, expiresAt := now.later s.settings.accessTtl.toNat } := by
  rw [Server.refresh, if_neg (by simp [h.2]), hp] at ha ⊢
  cases ht : s.accessExpiry? now with
  | none => simp [ht] at ha
  | some expiresAt =>
    have he := accessExpiry?_eq_some httl ht
    subst he
    rfl

end Server

/-! ## The laws -/

/-- The access token was made up once, and its pair is not current. -/
def Gone (log : List Event) (access : String) : Prop :=
  (.access, access) ∈ made log ∧ ∀ p, Current log p → p.access ≠ access

theorem Gone.cons {e : Event} {log : List Event} {access : String} (h : Gone log access)
    (ho : Orderly (e :: log)) : Gone (e :: log) access := by
  refine ⟨mem_made_cons.2 (.inr h.1), fun p hp hpa => ?_⟩
  rcases current_cons.1 hp with hh | ⟨hp, _⟩
  · exact ho.new_text (made_of_hands hh) (hpa ▸ h.1)
  · exact h.2 p hp hpa

theorem gone_later {calls : List (Instant × Call)} {access : String}
    (h : Gone (run settings calls).log access) (later : List (Instant × Call))
    (ho : Orderly (run settings (later ++ calls)).log) :
    Gone (run settings (later ++ calls)).log access := by
  induction later with
  | nil => exact h
  | cons q later ih =>
    obtain ⟨now, call⟩ := q
    rw [List.cons_append, run_cons] at ho ⊢
    exact (ih ho.tail).cons ho

theorem refused_of_not_current {calls : List (Instant × Call)} {access : String}
    (ho : Orderly (run settings calls).log)
    (h : ∀ p, Current (run settings calls).log p → p.access ≠ access) (now : Instant) :
    (run settings calls).server.validate now access = .error (.refused .invalidToken) := by
  refine (Server.refusesAccess (run_sane settings calls ho) ?_).1 now
  cases hp : (run settings calls).server.tokens.byAccess.get? access with
  | none => rfl
  | some p =>
    obtain ⟨hc, hpa⟩ := ((tracks_run calls ho).access access p).1 hp
    exact absurd hpa (h p hc)

theorem validate_after_run {calls : List (Instant × Call)} {now : Instant} {access : String}
    (ho : Orderly (run settings calls).log)
    (ha : (run settings calls).server.validate now access ≠ .error .died) :
    (∀ p, (run settings calls).server.validate now access = .ok p ↔
      Current (run settings calls).log p ∧ p.access = access ∧ now ≤ p.expiresAt) ∧
    ((run settings calls).server.validate now access = .error (.refused .tokenExpired) ↔
      ∃ p, Current (run settings calls).log p ∧ p.access = access ∧ ¬ now ≤ p.expiresAt) ∧
    ((run settings calls).server.validate now access = .error (.refused .invalidToken) ↔
      ¬ ∃ p, Current (run settings calls).log p ∧ p.access = access) := by
  have htrack := (tracks_run calls ho).access access
  cases hp : (run settings calls).server.tokens.byAccess.get? access with
  | none =>
    have hnone : ∀ p, Current (run settings calls).log p → p.access ≠ access := by
      intro p hc hpa
      have hget := (htrack p).2 ⟨hc, hpa⟩
      rw [hp] at hget
      cases hget
    rw [refused_of_not_current ho hnone now]
    refine ⟨fun p => ?_, ?_, ?_⟩
    · simpa using fun hc hpa => absurd hpa (hnone p hc)
    · simpa using fun p hc hpa => absurd hpa (hnone p hc)
    · simpa using hnone
  | some p =>
    obtain ⟨hc, hpa⟩ := (htrack p).1 hp
    have honly : ∀ q, Current (run settings calls).log q → q.access = access → q = p := by
      intro q hq hqa
      have hget := (htrack q).2 ⟨hq, hqa⟩
      rw [hp] at hget
      exact (Option.some.inj hget).symm
    rw [Server.validate_held (run_sane settings calls ho) hp ha]
    by_cases he : now ≤ p.expiresAt
    · rw [if_pos he]
      refine ⟨fun q => ?_, ?_, ?_⟩
      · constructor
        · rintro ⟨⟩
          exact ⟨hc, hpa, he⟩
        · rintro ⟨hq, hqa, _⟩
          rw [honly q hq hqa]
      · constructor
        · rintro ⟨⟩
        · rintro ⟨q, hq, hqa, hlate⟩
          exact absurd (honly q hq hqa ▸ he) hlate
      · constructor
        · rintro ⟨⟩
        · exact fun hn => absurd ⟨p, hc, hpa⟩ hn
    · rw [if_neg he]
      refine ⟨fun q => ?_, ?_, ?_⟩
      · constructor
        · rintro ⟨⟩
        · rintro ⟨hq, hqa, hin⟩
          exact absurd (honly q hq hqa ▸ hin) he
      · exact ⟨fun _ => ⟨p, hc, hpa, he⟩, fun _ => rfl⟩
      · constructor
        · rintro ⟨⟩
        · exact fun hn => absurd ⟨p, hc, hpa⟩ hn

/-- A refresh token with a pair was granted and never revoked, and a refresh
changed nothing but the access token and its time. -/
theorem granted_of_held {calls : List (Instant × Call)} {token : String} {p : TokenPair}
    (ho : Orderly (run settings calls).log)
    (hp : (run settings calls).server.tokens.ofRefresh? token = some p) :
    ¬ Revoked (run settings calls).log token ∧
      ∃ q, Granted (run settings calls).log q ∧ q.refresh = token ∧
        p = { q with access := p.access, expiresAt := p.expiresAt } := by
  have htrack := tracks_run calls ho
  have hpr : p.refresh = token := (agree_run calls ho).refresh_eq hp
  obtain ⟨access, _, hget⟩ := TokenIndex.ofRefresh?_eq_some_iff.1 hp
  have hc := ((htrack.access access p).1 hget).1
  obtain ⟨q, hq, he⟩ := htrack.granted p hc
  have hqr : p.refresh = q.refresh := by rw [he]
  exact ⟨hpr ▸ htrack.unrevoked p hc, q, hq, hqr.symm.trans hpr, he⟩

theorem held_of_granted {calls : List (Instant × Call)} {q : TokenPair}
    (ho : Orderly (run settings calls).log) (hq : Granted (run settings calls).log q)
    (hr : ¬ Revoked (run settings calls).log q.refresh) :
    ∃ p, (run settings calls).server.tokens.ofRefresh? q.refresh = some p := by
  have htrack := tracks_run calls ho
  obtain ⟨p, hp, hpr⟩ := htrack.kept q hq hr
  have hback := hpr ▸ htrack.byRefresh (agree_run calls ho) hp
  exact ⟨p, TokenIndex.ofRefresh?_eq_some_iff.2
    ⟨p.access, hback, (htrack.access p.access p).2 ⟨hp, rfl⟩⟩⟩

theorem refresh_after_run {calls : List (Instant × Call)} {now : Instant} {fresh token : String}
    (ho : Orderly (run settings calls).log) (httl : settings.accessTtl.toNat < Word.half)
    (ha : ((run settings calls).server.refresh now fresh token).2 ≠ .error .died) :
    (∀ p, ((run settings calls).server.refresh now fresh token).2 = .ok p ↔
      ¬ Revoked (run settings calls).log token ∧
        ∃ q, Granted (run settings calls).log q ∧ q.refresh = token ∧
          p = { q with
            access := fresh
            expiresAt := now.later settings.accessTtl.toNat }) ∧
    (((run settings calls).server.refresh now fresh token).2 =
        .error (.refused .invalidRefreshToken) ↔
      Revoked (run settings calls).log token ∨
        ¬ ∃ q, Granted (run settings calls).log q ∧ q.refresh = token) := by
  have hsane := run_sane settings calls ho
  have hset : (run settings calls).server.settings = settings := run_settings calls ho
  cases hp : (run settings calls).server.tokens.ofRefresh? token with
  | none =>
    have hnone : ∀ q, Granted (run settings calls).log q → q.refresh = token →
        Revoked (run settings calls).log token := by
      rintro q hq rfl
      by_contra hr
      obtain ⟨p, hheld⟩ := held_of_granted ho hq hr
      rw [hp] at hheld
      cases hheld
    rw [Server.refresh_unknown hsane hp]
    refine ⟨fun p => ⟨by rintro ⟨⟩, ?_⟩, fun _ => ?_, fun _ => rfl⟩
    · rintro ⟨hr, q, hq, hqr, _⟩
      exact absurd (hnone q hq hqr) hr
    · by_cases hr : Revoked (run settings calls).log token
      · exact .inl hr
      · exact .inr fun ⟨q, hq, hqr⟩ => hr (hnone q hq hqr)
  | some p =>
    obtain ⟨hr, q, hq, hqr, he⟩ := granted_of_held ho hp
    rw [Server.refresh_held hsane (by rwa [hset]) hp ha, hset, he]
    refine ⟨fun p' => ⟨?_, ?_⟩, by rintro ⟨⟩, ?_⟩
    · rintro ⟨⟩
      exact ⟨hr, q, hq, hqr, rfl⟩
    · rintro ⟨_, q', hq', hqr', rfl⟩
      rw [hq'.unique ho hq (hqr'.trans hqr.symm)]
    · rintro (hrev | hn)
      · exact absurd hrev hr
      · exact absurd ⟨q, hq, hqr⟩ hn

/-- An access token counts from the call that hands it out until its refresh
token is used or it is revoked, and up to its last instant. A refresh token
counts until its current access token is revoked, and gives what its exchange
granted. An access token that no longer counts never does again. -/
theorem a_token_counts_until_it_is_refreshed_or_revoked {calls : List (Instant × Call)}
    (ho : Orderly (run settings calls).log) (httl : settings.accessTtl.toNat < Word.half) :
    let s := (run settings calls).server
    let log := (run settings calls).log
    (∀ now access, s.validate now access ≠ .error .died →
      (∀ p, s.validate now access = .ok p ↔
        Current log p ∧ p.access = access ∧ now ≤ p.expiresAt) ∧
      (s.validate now access = .error (.refused .tokenExpired) ↔
        ∃ p, Current log p ∧ p.access = access ∧ ¬ now ≤ p.expiresAt) ∧
      (s.validate now access = .error (.refused .invalidToken) ↔
        ¬ ∃ p, Current log p ∧ p.access = access)) ∧
    (∀ now fresh token, (s.refresh now fresh token).2 ≠ .error .died →
      (∀ p, (s.refresh now fresh token).2 = .ok p ↔
        ¬ Revoked log token ∧ ∃ q, Granted log q ∧ q.refresh = token ∧
          p = { q with
            access := fresh
            expiresAt := now.later settings.accessTtl.toNat }) ∧
      ((s.refresh now fresh token).2 = .error (.refused .invalidRefreshToken) ↔
        Revoked log token ∨ ¬ ∃ q, Granted log q ∧ q.refresh = token)) ∧
    ∀ access, Gone log access → ∀ later, Orderly (run settings (later ++ calls)).log →
      ∀ now, (run settings (later ++ calls)).server.validate now access =
        .error (.refused .invalidToken) := by
  refine ⟨fun now access ha => validate_after_run ho ha,
    fun now fresh token ha => refresh_after_run ho httl ha, ?_⟩
  intro access hgone later ho' now
  exact refused_of_not_current ho' (gone_later hgone later ho').2 now

theorem a_visitor_uses_its_tokens :
    Orderly (run {} visit).log ∧
      (run {} visit).server.validate ⟨960, 0⟩ "access 1" =
        .ok ⟨"access 1", "refresh 1", "app", 7, ["read"], ⟨960, 0⟩⟩ ∧
      ((run {} visit).server.refresh ⟨961, 0⟩ "access 2" "refresh 1").2 =
        .ok ⟨"access 2", "refresh 1", "app", 7, ["read"], ⟨1861, 0⟩⟩ := by
  have ho : Orderly (run {} visit).log := by decide
  obtain ⟨hvalidate, hrefresh, _⟩ :=
    a_token_counts_until_it_is_refreshed_or_revoked ho (by decide)
  refine ⟨ho, ?_, ?_⟩
  · refine ((hvalidate ⟨960, 0⟩ "access 1" (by decide)).1 _).2 ⟨?_, rfl, by decide⟩
    exact ⟨[], _, _, rfl, rfl, by simp⟩
  · refine ((hrefresh ⟨961, 0⟩ "access 2" "refresh 1" (by decide)).1 _).2 ⟨?_, ?_⟩
    · rintro ⟨newer, t, answer, older, p, heq, _⟩
      have hm : ⟨t, .revoke p.access answer⟩ ∈ (run {} visit).log := heq ▸ by simp
      simp [run, visit, arrival, Server.step] at hm
    · exact ⟨_, ⟨⟨60, 0⟩, "code 1", "app", "hush", List.mem_cons_self⟩, rfl, by decide⟩

end Warrant.OAuth
