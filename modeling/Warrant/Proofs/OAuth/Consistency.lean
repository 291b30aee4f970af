-- The maps of the server agree in every run. Each access token leads to a
-- pair whose refresh token leads back to it, and the other way round. Records
-- stand under their own keys, and a text is a key of one map only.
--
-- The indexes agree because each new key is a text that was never made
-- before. So the invariant says of each key what it was made for.
import Warrant.Proofs.OAuth.Run

namespace Warrant.OAuth

/-! ## The two indexes -/

namespace TokenIndex

/-- The indexes are inverse to each other. -/
structure Agree (t : TokenIndex) : Prop where
  of_access : ∀ access p, t.byAccess.get? access = some p →
    p.access = access ∧ t.byRefresh.get? p.refresh = some access
  of_refresh : ∀ refresh access, t.byRefresh.get? refresh = some access →
    ∃ p, t.byAccess.get? access = some p ∧ p.refresh = refresh

variable {t : TokenIndex}

theorem ofRefresh?_eq_some_iff {refresh : String} {p : TokenPair} :
    t.ofRefresh? refresh = some p ↔
      ∃ access, t.byRefresh.get? refresh = some access ∧ t.byAccess.get? access = some p :=
  Option.bind_eq_some_iff

/-- The pair of a refresh token holds this token. -/
theorem Agree.refresh_eq (h : t.Agree) {refresh : String} {p : TokenPair}
    (hp : t.ofRefresh? refresh = some p) : p.refresh = refresh := by
  obtain ⟨access, hr, ha⟩ := ofRefresh?_eq_some_iff.1 hp
  obtain ⟨q, hq, hqr⟩ := h.of_refresh refresh access hr
  rw [ha] at hq
  cases hq
  exact hqr

theorem agree_empty : empty.Agree :=
  ⟨fun access p h => by simp [empty] at h, fun refresh access h => by simp [empty] at h⟩

theorem Agree.store (h : t.Agree) {p : TokenPair} (ha : t.byAccess.get? p.access = none)
    (hr : t.byRefresh.get? p.refresh = none) : (t.store p).Agree := by
  constructor
  · intro access q hq
    rw [byAccess_store] at hq
    rw [byRefresh_store]
    split at hq
    · rename_i he
      cases hq
      exact ⟨he.symm, by rw [if_pos rfl, he]⟩
    · obtain ⟨h1, h2⟩ := h.of_access access q hq
      refine ⟨h1, ?_⟩
      rw [if_neg]
      · exact h2
      · intro he
        rw [he, hr] at h2
        cases h2
  · intro refresh access hra
    rw [byRefresh_store] at hra
    rw [byAccess_store]
    split at hra
    · rename_i he
      cases hra
      exact ⟨p, if_pos rfl, he.symm⟩
    · obtain ⟨q, h1, h2⟩ := h.of_refresh refresh access hra
      refine ⟨q, ?_, h2⟩
      rw [if_neg]
      · exact h1
      · intro he
        rw [he, ha] at h1
        cases h1

theorem Agree.rotate (h : t.Agree) {refresh : String} {p q : TokenPair}
    (hp : t.ofRefresh? refresh = some p) (hq : q.refresh = p.refresh)
    (ha : t.byAccess.get? q.access = none) : (t.rotate refresh q).Agree := by
  have hqr : q.refresh = refresh := hq.trans (h.refresh_eq hp)
  constructor
  · intro access q' hq'
    rw [byAccess_rotate] at hq'
    rw [byRefresh_rotate]
    split at hq'
    · rename_i he
      cases hq'
      exact ⟨he.symm, by rw [if_pos hqr, he]⟩
    · split at hq'
      · cases hq'
      · rename_i hne
        obtain ⟨h1, h2⟩ := h.of_access access q' hq'
        refine ⟨h1, ?_⟩
        rw [if_neg]
        · exact h2
        · intro he
          exact hne (he ▸ h2)
  · intro r access hra
    rw [byRefresh_rotate] at hra
    rw [byAccess_rotate]
    split at hra
    · rename_i he
      cases hra
      exact ⟨q, if_pos rfl, hqr.trans he.symm⟩
    · rename_i hne
      obtain ⟨q', h1, h2⟩ := h.of_refresh r access hra
      refine ⟨q', ?_, h2⟩
      rw [if_neg, if_neg]
      · exact h1
      · intro he
        obtain ⟨q'', h3, h4⟩ := h.of_refresh refresh access he
        rw [h1] at h3
        cases h3
        exact hne (h2.symm.trans h4)
      · intro he
        rw [he, ha] at h1
        cases h1

theorem Agree.revoke (h : t.Agree) (revoked : String) : (t.revoke revoked).Agree := by
  constructor
  · intro access q hq
    rw [byAccess_revoke] at hq
    rw [byRefresh_revoke]
    split at hq
    · cases hq
    · rename_i hne
      obtain ⟨h1, h2⟩ := h.of_access access q hq
      refine ⟨h1, ?_⟩
      rw [if_neg]
      · exact h2
      · intro he
        obtain ⟨p, hp, hpr⟩ := Option.map_eq_some_iff.1 he
        have h3 := (h.of_access revoked p hp).2
        rw [hpr, h2] at h3
        exact hne (Option.some.inj h3)
  · intro refresh access hra
    rw [byRefresh_revoke] at hra
    rw [byAccess_revoke]
    split at hra
    · cases hra
    · rename_i hne
      obtain ⟨q, h1, h2⟩ := h.of_refresh refresh access hra
      refine ⟨q, ?_, h2⟩
      rw [if_neg]
      · exact h1
      · intro he
        apply hne
        rw [← he, h1, Option.map_some, h2]

end TokenIndex

/-! ## What a key was made for -/

/-- Each key of a map was made for this map. -/
structure Known (s : Server) (log : List Event) : Prop where
  code : ∀ code g, s.codes.get? code = some g → (.code, code) ∈ made log
  access : ∀ access p, s.tokens.byAccess.get? access = some p → (.access, access) ∈ made log
  refresh : ∀ refresh access, s.tokens.byRefresh.get? refresh = some access →
    (.refresh, refresh) ∈ made log

theorem known_new (settings : OAuthSettings) : Known (.new settings) [] :=
  ⟨by simp [Server.new], by simp [Server.new, TokenIndex.empty],
    by simp [Server.new, TokenIndex.empty]⟩

theorem known_erase {s : Server} {log : List Event} (h : Known s log) (code : String) :
    Known { s with codes := s.codes.erase code } log := by
  refine ⟨fun c g hg => ?_, h.access, h.refresh⟩
  exact h.code c g (KeyMap.get?_erase_eq_some_iff.1 hg).2

theorem known_insert {s : Server} {log : List Event} (h : Known s log) {g : AuthorizationCode}
    (hg : (.code, g.code) ∈ made log) : Known { s with codes := s.codes.insert g.code g } log := by
  refine ⟨fun code g' hg' => ?_, h.access, h.refresh⟩
  rw [KeyMap.get?_insert] at hg'
  split at hg'
  · rename_i he
    exact he ▸ hg
  · exact h.code code g' hg'

theorem known_store {s : Server} {log : List Event} (h : Known s log) {p : TokenPair}
    (ha : (.access, p.access) ∈ made log) (hr : (.refresh, p.refresh) ∈ made log) :
    Known { s with tokens := s.tokens.store p } log := by
  refine ⟨h.code, fun access q hq => ?_, fun refresh access hra => ?_⟩
  · rw [TokenIndex.byAccess_store] at hq
    split at hq
    · rename_i he
      exact he ▸ ha
    · exact h.access access q hq
  · rw [TokenIndex.byRefresh_store] at hra
    split at hra
    · rename_i he
      exact he ▸ hr
    · exact h.refresh refresh access hra

theorem known_older {s : Server} {e : Event} {log : List Event} (h : Known s log) :
    Known s (e :: log) :=
  ⟨fun c g hg => mem_made_cons.2 (.inr (h.code c g hg)),
    fun a p hp => mem_made_cons.2 (.inr (h.access a p hp)),
    fun r a hr => mem_made_cons.2 (.inr (h.refresh r a hr))⟩

theorem known_change {s s' : Server} {log : List Event} {now : Instant} {a : Act}
    (h : Known s log) (hc : Change s now a s') : Known s' (⟨now, a⟩ :: log) := by
  have hold : Known s (⟨now, a⟩ :: log) := known_older h
  cases hc with
  | register id secret redirectUri scopes => exact ⟨hold.code, hold.access, hold.refresh⟩
  | issue g hr ht => exact known_insert hold (mem_made_cons.2 (.inl (by simp [Act.made])))
  | exchange fresh code secret g p hauth hg he hp =>
    exact known_store (known_erase hold code) (mem_made_cons.2 (.inl (by simp [Act.made])))
      (mem_made_cons.2 (.inl (by simp [Act.made])))
  | expire code secret g hg he => exact known_erase hold code
  | refresh fresh refresh p expiresAt hp ht =>
    refine ⟨hold.code, fun access q hq => ?_, fun r access hra => ?_⟩
    · rw [TokenIndex.byAccess_rotate] at hq
      split at hq
      · rename_i he
        exact mem_made_cons.2 (.inl (by simp [Act.made, he]))
      · split at hq
        · cases hq
        · exact hold.access access q hq
    · rw [TokenIndex.byRefresh_rotate] at hra
      split at hra
      · rename_i he
        obtain ⟨current, hr, _⟩ := TokenIndex.ofRefresh?_eq_some_iff.1 hp
        exact he ▸ hold.refresh refresh current hr
      · exact hold.refresh r access hra
  | revoke access =>
    refine ⟨hold.code, fun access' q hq => ?_, fun r access' hra => ?_⟩
    · rw [TokenIndex.byAccess_revoke] at hq
      split at hq
      · cases hq
      · exact hold.access access' q hq
    · rw [TokenIndex.byRefresh_revoke] at hra
      split at hra
      · cases hra
      · exact hold.refresh r access' hra
  | purge kept hk =>
    refine ⟨fun code g hg => ?_, hold.access, hold.refresh⟩
    rw [hk, KeyMap.get?_filter_eq_some_iff] at hg
    exact hold.code code g hg.1
  | idle a ha => exact hold

/-- The text is no key of the map for a purpose. -/
def Server.Lacks (s : Server) (text : String) : Purpose → Prop
  | .code => s.codes.get? text = none
  | .access => s.tokens.byAccess.get? text = none
  | .refresh => s.tokens.byRefresh.get? text = none

theorem Known.lacks {s : Server} {log : List Event} (h : Known s log) {k : Purpose}
    {text : String} (hm : (k, text) ∉ made log) : s.Lacks text k := by
  cases k with
  | code => exact Option.eq_none_iff_forall_ne_some.2 fun g hg => hm (h.code text g hg)
  | access => exact Option.eq_none_iff_forall_ne_some.2 fun p hp => hm (h.access text p hp)
  | refresh => exact Option.eq_none_iff_forall_ne_some.2 fun a ha => hm (h.refresh text a ha)

/-- A text that was made for one purpose is no key for another. -/
theorem Known.lacks_other {s : Server} {log : List Event} (h : Known s log) (ho : Orderly log)
    {j k : Purpose} {text : String} (hm : (j, text) ∈ made log) (hne : j ≠ k) :
    s.Lacks text k :=
  h.lacks fun hk => hne (ho.one_purpose hm hk)

/-- A text of the next call is no key yet. -/
theorem Known.lacks_new {s : Server} {e : Event} {log : List Event} (h : Known s log)
    (ho : Orderly (e :: log)) {j : Purpose} {text : String} (hm : (j, text) ∈ e.act.made)
    (k : Purpose) : s.Lacks text k :=
  h.lacks (ho.new_text hm)

/-! ## The server -/

/-- The maps of a server fit together. -/
structure Server.Consistent (s : Server) : Prop where
  tokens : s.tokens.Agree
  code_key : ∀ code g, s.codes.get? code = some g → g.code = code
  client_key : ∀ id c, s.clients.get? id = some c → c.id = id
  code_not_access : ∀ text g, s.codes.get? text = some g → s.tokens.byAccess.get? text = none
  code_not_refresh : ∀ text g, s.codes.get? text = some g → s.tokens.byRefresh.get? text = none
  access_not_refresh : ∀ text p, s.tokens.byAccess.get? text = some p →
    s.tokens.byRefresh.get? text = none

theorem agree_change {s s' : Server} {log : List Event} {now : Instant} {a : Act}
    (ho : Orderly (⟨now, a⟩ :: log)) (hk : Known s log) (h : s.tokens.Agree)
    (hc : Change s now a s') : s'.tokens.Agree := by
  cases hc with
  | exchange fresh code secret g p hauth hg he hp =>
    have ha : (.access, p.access) ∈ (Act.exchange code g.client secret (.ok p)).made := by
      simp [Act.made]
    have hr : (.refresh, p.refresh) ∈ (Act.exchange code g.client secret (.ok p)).made := by
      simp [Act.made]
    exact h.store (hk.lacks_new ho ha .access) (hk.lacks_new ho hr .refresh)
  | refresh fresh refresh p expiresAt hp ht =>
    exact h.rotate hp rfl (hk.lacks_new ho (j := .access) (by simp [Act.made]) .access)
  | revoke access => exact h.revoke access
  | _ => exact h

theorem code_key_change {s s' : Server} {now : Instant} {a : Act} (hc : Change s now a s')
    (h : ∀ code g, s.codes.get? code = some g → g.code = code) (code : String)
    (g : AuthorizationCode) (hg : s'.codes.get? code = some g) : g.code = code := by
  cases hc with
  | issue g' hr ht =>
    rw [KeyMap.get?_insert] at hg
    split at hg
    · rename_i he
      cases hg
      exact he.symm
    · exact h code g hg
  | exchange fresh code' secret g' p hauth hg' he hp =>
    exact h code g (KeyMap.get?_erase_eq_some_iff.1 hg).2
  | expire code' secret g' hg' he =>
    exact h code g (KeyMap.get?_erase_eq_some_iff.1 hg).2
  | purge kept hk =>
    rw [hk, KeyMap.get?_filter_eq_some_iff] at hg
    exact h code g hg.1
  | _ => exact h code g hg

theorem client_key_change {s s' : Server} {now : Instant} {a : Act} (hc : Change s now a s')
    (h : ∀ id c, s.clients.get? id = some c → c.id = id) (id : String) (c : Client)
    (hid : s'.clients.get? id = some c) : c.id = id := by
  cases hc with
  | register id' secret redirectUri scopes =>
    unfold Server.register at hid
    rw [KeyMap.get?_insert] at hid
    split at hid
    · rename_i he
      cases hid
      exact he.symm
    · exact h id c hid
  | _ => exact h id c hid

/-! ## Every run -/

variable {settings : OAuthSettings}

theorem known_run (calls : List (Instant × Call)) (h : Orderly (run settings calls).log) :
    Known (run settings calls).server (run settings calls).log :=
  run_induct (P := Known) (known_new settings) (fun _ _ _ _ _ ih hc => known_change ih hc) calls h

theorem agree_run (calls : List (Instant × Call)) (h : Orderly (run settings calls).log) :
    (run settings calls).server.tokens.Agree :=
  run_induct (P := fun s _ => s.tokens.Agree) TokenIndex.agree_empty
    (fun earlier _ _ _ ho ih hc => agree_change ho (known_run earlier ho.tail) ih hc) calls h

theorem consistent_run (calls : List (Instant × Call)) (h : Orderly (run settings calls).log) :
    (run settings calls).server.Consistent := by
  have hk := known_run calls h
  constructor
  · exact agree_run calls h
  · exact run_induct (P := fun s _ => ∀ code g, s.codes.get? code = some g → g.code = code)
      (by simp [Server.new]) (fun _ _ _ _ _ ih hc => code_key_change hc ih) calls h
  · exact run_induct (P := fun s _ => ∀ id c, s.clients.get? id = some c → c.id = id)
      (by simp [Server.new]) (fun _ _ _ _ _ ih hc => client_key_change hc ih) calls h
  · intro text g hg
    exact hk.lacks_other h (hk.code text g hg) (k := .access) (by decide)
  · intro text g hg
    exact hk.lacks_other h (hk.code text g hg) (k := .refresh) (by decide)
  · intro text p hp
    exact hk.lacks_other h (hk.access text p hp) (k := .refresh) (by decide)

/-! ## Texts in the wrong place -/

namespace Server

/-- The text is not taken for an access token, to look it up or to revoke it. -/
def RefusesAccess (s : Server) (text : String) : Prop :=
  (∀ now, s.validate now text = .error (.refused .invalidToken)) ∧ s.revoke text = (s, .ok ())

/-- The text is not taken for a refresh token. -/
def RefusesRefresh (s : Server) (text : String) : Prop :=
  ∀ now fresh, s.refresh now fresh text = (s, .error (.refused .invalidRefreshToken))

/-- The text is not taken for a code. Credentials are looked at first. -/
def RefusesCode (s : Server) (text : String) : Prop :=
  ∀ now fresh client secret, s.exchange now fresh text client secret =
    (s, .error (.refused (if s.authenticates client secret then .invalidCode
      else .invalidClientCredentials)))

theorem refusesAccess {s : Server} {text : String} (h : s.Sane)
    (ht : s.tokens.byAccess.get? text = none) : s.RefusesAccess text := by
  constructor
  · intro now
    rw [validate, if_neg (by simp [h.2]), ht]
  · rw [revoke, if_neg (by simp [h.2]), TokenIndex.revoke, ht]

theorem refresh_unknown {s : Server} {now : Instant} {fresh text : String} (h : s.Sane)
    (hp : s.tokens.ofRefresh? text = none) :
    s.refresh now fresh text = (s, .error (.refused .invalidRefreshToken)) := by
  rw [Server.refresh, if_neg (by simp [h.2]), hp]

theorem refusesRefresh {s : Server} {text : String} (h : s.Sane)
    (ht : s.tokens.byRefresh.get? text = none) : s.RefusesRefresh text := by
  intro now fresh
  refine refresh_unknown h ?_
  rw [TokenIndex.ofRefresh?, ht]
  rfl

/-- A refresh token with a pair is not refused. -/
theorem refresh_not_refused {s : Server} {now : Instant} {fresh refresh : String} {p : TokenPair}
    (h : s.Sane) (hp : s.tokens.ofRefresh? refresh = some p) (f : Refusal) :
    (s.refresh now fresh refresh).2 ≠ .error (.refused f) := by
  rw [Server.refresh, if_neg (by simp [h.2]), hp]
  cases s.accessExpiry? now with
  | none => simp
  | some expiresAt => simp

theorem refusesCode {s : Server} {text : String} (h : s.Sane) (ht : s.codes.get? text = none) :
    s.RefusesCode text := by
  intro now fresh client secret
  rw [exchange, takeCode_unknown h client ht]
  split
  · rfl
  · rfl

end Server

/-- In every run the maps of the server fit together. So a refresh token that
is out has one access token, a refresh is refused only where the refresh
token is not out, and no text is taken for what it was not made for. -/
theorem the_maps_agree_in_every_run (calls : List (Instant × Call))
    (h : Orderly (run settings calls).log) :
    let s := (run settings calls).server
    s.Consistent ∧
      (∀ refresh, s.tokens.byRefresh.get? refresh ≠ none →
        ∃! access, ∃ p, s.tokens.byAccess.get? access = some p ∧ p.refresh = refresh) ∧
      (∀ now fresh refresh,
        (s.refresh now fresh refresh).2 = .error (.refused .invalidRefreshToken) ↔
          s.tokens.byRefresh.get? refresh = none) ∧
      ∀ purpose text, (purpose, text) ∈ made (run settings calls).log →
        (purpose ≠ .access → s.RefusesAccess text) ∧
          (purpose ≠ .refresh → s.RefusesRefresh text) ∧
          (purpose ≠ .code → s.RefusesCode text) := by
  intro s
  have hsane : s.Sane := run_sane settings calls h
  have hk : Known s (run settings calls).log := known_run calls h
  have hs : s.Consistent := consistent_run calls h
  refine ⟨hs, ?_, ?_, ?_⟩
  · intro refresh hr
    obtain ⟨access, ha⟩ := Option.ne_none_iff_exists'.1 hr
    refine ⟨access, hs.tokens.of_refresh refresh access ha, ?_⟩
    rintro access' ⟨p, hp, hpr⟩
    have hback := (hs.tokens.of_access access' p hp).2
    rw [hpr, ha] at hback
    exact (Option.some.inj hback).symm
  · intro now fresh refresh
    constructor
    · intro hrefused
      by_contra hr
      obtain ⟨access, ha⟩ := Option.ne_none_iff_exists'.1 hr
      obtain ⟨p, hp, _⟩ := hs.tokens.of_refresh refresh access ha
      have hpair := TokenIndex.ofRefresh?_eq_some_iff.2 ⟨access, ha, hp⟩
      exact Server.refresh_not_refused hsane hpair _ hrefused
    · intro hr
      rw [Server.refusesRefresh hsane hr]
  · intro purpose text hm
    exact ⟨fun hne => Server.refusesAccess hsane (hk.lacks_other h hm (k := .access) hne),
      fun hne => Server.refusesRefresh hsane (hk.lacks_other h hm (k := .refresh) hne),
      fun hne => Server.refusesCode hsane (hk.lacks_other h hm (k := .code) hne)⟩

theorem a_visit_leaves_one_access_token :
    Orderly (run {} visit).log ∧
      (∃! access, ∃ p, (run {} visit).server.tokens.byAccess.get? access = some p ∧
        p.refresh = "refresh 1") ∧
      (run {} visit).server.RefusesAccess "refresh 1" := by
  have ho : Orderly (run {} visit).log := by decide
  obtain ⟨_, hone, _, hwrong⟩ := the_maps_agree_in_every_run visit ho
  have hmade : (.refresh, "refresh 1") ∈ made (run {} visit).log := by decide
  exact ⟨ho, hone "refresh 1" (by decide), (hwrong .refresh "refresh 1" hmade).1 (by decide)⟩

end Warrant.OAuth
