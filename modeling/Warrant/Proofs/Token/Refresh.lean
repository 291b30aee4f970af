-- A refreshed token is for the user that the token was for before. The claims
-- of an accepted token were read from JSON, so they are read again as they are
-- once they are signed anew, in whatever order the extra claims are written, and
-- this goes on for as many refreshes as there are.
--
-- Claims with floating point numbers are left out, as their text is left out
-- where values are read back.
import Warrant.Proofs.Token.RoundTrip
import Warrant.Proofs.Token.Unverified
import Warrant.Proofs.Value.Reading

namespace Warrant.Token

/-! ## The claims of a token -/

/-- The claims are about the same user, and they say the same of the user. -/
structure Claims.SameUser (c c' : Claims) : Prop where
  subject : c'.subject = c.subject
  name : c'.name = c.name
  roles : c'.roles = c.roles
  extra : c'.extra = c.extra

theorem Claims.SameUser.refl (c : Claims) : c.SameUser c := ⟨rfl, rfl, rfl, rfl⟩

theorem Claims.SameUser.trans {c c' c'' : Claims} (h : c.SameUser c') (h' : c'.SameUser c'') :
    c.SameUser c'' where
  subject := h'.subject.trans h.subject
  name := h'.name.trans h.name
  roles := h'.roles.trans h.roles
  extra := h'.extra.trans h.extra

/-- Claims that were read are read again as they are, if they have no floating
point number. -/
theorem Claims.faithful_of_ofJson? {j : Json} {c : Claims} (h : Claims.ofJson? j = some c)
    (hfloats : ∀ x, ¬Value.Part (.float x) (.ofMap c.extra)) : c.Faithful := by
  obtain ⟨fields, _, hspelled⟩ := Claims.ofJson?_eq_some_iff.1 h
  have hextra := hspelled.extra
  cases hfield : fields.lookup "extra" with
  | none =>
    rw [hfield] at hextra
    have hempty : c.extra = .empty := (Option.some.inj hextra).symm
    have hlevels : (Value.ofMap KeyMap.empty).depth + 1 ≤ 127 := by decide
    constructor
    · rw [hempty]
      exact Value.faithful_empty
    · rw [hempty]
      exact hlevels
  | some e =>
    rw [hfield] at hextra
    have hread : Value.ofJson? 126 e = some (.ofMap c.extra) := Value.ofJson?_of_attributes? hextra
    exact ⟨Value.faithful_of_ofJson? hread hfloats,
      Nat.succ_le_succ (Value.depth_le_of_ofJson? hread)⟩

namespace Signer

variable {s : Signer} {now : Instant}

/-! ## Accepted tokens -/

theorem Signs.unverified {c : Claims} {token : String} (h : s.Signs c token)
    (hfaithful : c.Faithful) : unverified token = .ok c := by
  obtain ⟨j, hj, rfl⟩ := h
  obtain ⟨p, hp, rfl, _⟩ := Compact.readPayload_signJson hfaithful hj s.settings.secret
  exact unverified_of_formed ⟨Compact.read_signJson _ j, Compact.algorithm_signJson _ j, hp⟩

theorem faithful_of_validate {token : String} {c : Claims} (h : s.validate now token = .ok c)
    (hfloats : ∀ x, ¬Value.Part (.float x) (.ofMap c.extra)) : c.Faithful := by
  obtain ⟨payload, _, hclaims, _⟩ := terms_of_validate h
  exact Claims.faithful_of_ofJson? hclaims hfloats

/-- An accepted token has not ended. -/
theorem le_expiresAt_of_validate {token : String} {c : Claims} (h : s.validate now token = .ok c) :
    now.seconds ≤ c.expiresAt.toInt := by
  obtain ⟨_, terms, _, hagree, hterms⟩ := terms_of_validate h
  exact ((checkTerms_eq_ok_iff hagree).1 hterms).2.1

/-! ## One refresh -/

/-- A refresh signs the claims of an accepted token anew, on a clock. -/
theorem refresh_eq_ok_iff {id token token' : String} :
    s.refresh now id token = .ok token' ↔
      ∃ c, s.validate now token = .ok c ∧ now.OnClock ∧
        token' = s.sign (s.accessClaims now id c.subject c.name c.roles c.extra) := by
  unfold refresh
  cases hv : s.validate now token with
  | ok c =>
    dsimp only
    by_cases hclock : now.OnClock
    · rw [issueAccess_on_clock hclock]
      simp [hclock, eq_comm]
    · rw [issueAccess_off_clock hclock]
      simp [hclock]
  | error f => cases f <;> simp

/-- On a clock there is always a pair. -/
theorem issuePair_eq (hnow : now.OnClock) (ids : PairIds) (subject : UserId) (name : String)
    (roles : List String) (extra : Attributes) :
    s.issuePair now ids subject name roles extra =
      .ok (s.sign (s.accessClaims now ids.access subject name roles extra),
        s.sign (s.refreshClaims now ids.refresh subject name)) := by
  unfold issuePair
  rw [issueAccess_on_clock hnow, issueRefresh_on_clock hnow]
  rfl

/-- A token that is not accepted is not refreshed, whatever the cause. -/
theorem refresh_refused {token : String} {f : Failure} (h0 : 0 ≤ now.seconds)
    (h : s.validate now token = .error f) (id : String) :
    s.refresh now id token = .error (.refused .invalidRefreshToken) := by
  unfold refresh
  rw [h]
  cases f with
  | refused r => rfl
  | died => exact absurd h (s.validate_ne_died h0 token)

/-! ## Chains of refreshes -/

/-- The first token was refreshed to the second one, at some instant. The extra
claims of the second one may be written in any order. -/
def Renews (s : Signer) (token token' : String) : Prop :=
  ∃ now id c, s.validate now token = .ok c ∧ (∃ written, s.refresh now id token = .ok written) ∧
    s.Signs (s.accessClaims now id c.subject c.name c.roles c.extra) token'

theorem renews_of_refresh {id token token' : String} (h : s.refresh now id token = .ok token') :
    s.Renews token token' := by
  obtain ⟨c, hc, _, rfl⟩ := refresh_eq_ok_iff.1 h
  exact ⟨now, id, c, hc, ⟨_, h⟩, signs_sign ..⟩

/-- A refresh keeps the user, and claims that can be read again. -/
theorem Renews.keeps {token token' : String} {c : Claims} (h : s.Renews token token')
    (hc : unverified token = .ok c) (hfaithful : c.Faithful) :
    ∃ c', unverified token' = .ok c' ∧ c'.Faithful ∧ c.SameUser c' := by
  obtain ⟨now, id, own, hown, _, hsigns⟩ := h
  obtain rfl := eq_of_unverified hown hc
  have hfresh : (s.accessClaims now id own.subject own.name own.roles own.extra).Faithful :=
    ⟨hfaithful.extra, hfaithful.levels⟩
  exact ⟨_, hsigns.unverified hfresh, hfresh, rfl, rfl, rfl, rfl⟩

/-- And so does a chain of refreshes. -/
theorem renewals_keep {token token' : String} {c : Claims}
    (h : Relation.ReflTransGen s.Renews token token') (hc : unverified token = .ok c)
    (hfaithful : c.Faithful) : ∃ c', unverified token' = .ok c' ∧ c'.Faithful ∧ c.SameUser c' := by
  induction h with
  | refl => exact ⟨c, hc, hfaithful, .refl c⟩
  | tail _ hlast ih =>
    obtain ⟨c₁, hc₁, hfaithful₁, hsame₁⟩ := ih
    obtain ⟨c₂, hc₂, hfaithful₂, hsame₂⟩ := hlast.keeps hc₁ hfaithful₁
    exact ⟨c₂, hc₂, hfaithful₂, hsame₁.trans hsame₂⟩

/-! ## The law -/

/-- A token that is accepted has a refreshed token, if a clock shows the instant
and the new end fits a word. In whatever order its extra claims are written, the
refreshed token is accepted at once, it is for the same user, and it counts for
the lifetime of access tokens. After any number of refreshes, at any instants,
the user, the roles and the extra claims are still the first ones. A token that
is not accepted cannot be refreshed. -/
theorem a_refreshed_token_is_for_the_same_user (s : Signer) (token : String) :
    (∀ now c, s.validate now token = .ok c → (∀ x, ¬Value.Part (.float x) (.ofMap c.extra)) →
      (∀ id, now.OnClock → now.seconds + s.settings.accessTtl.toNat < 2 ^ 63 →
        (∃ token', s.refresh now id token = .ok token' ∧
          s.Signs (s.accessClaims now id c.subject c.name c.roles c.extra) token') ∧
        ∀ token', s.Signs (s.accessClaims now id c.subject c.name c.roles c.extra) token' →
          ∃ c', s.validate now token' = .ok c' ∧
            c.SameUser c' ∧ c'.issuer = s.settings.issuer ∧ c'.issuedAt.toInt = now.seconds ∧
            c'.notBefore.toInt = now.seconds ∧
            c'.expiresAt.toInt = now.seconds + s.settings.accessTtl.toNat) ∧
      ∀ token', Relation.ReflTransGen s.Renews token token' →
        (∃ c', unverified token' = .ok c' ∧ c.SameUser c') ∧
          ∀ now' c', s.validate now' token' = .ok c' → c.SameUser c') ∧
    (∀ now id token', s.refresh now id token = .ok token' → s.Renews token token') ∧
    ∀ now id f, 0 ≤ now.seconds → s.validate now token = .error f →
      s.refresh now id token = .error (.refused .invalidRefreshToken) := by
  refine ⟨?_, fun _ _ _ h => renews_of_refresh h, fun _ id _ h0 hf => refresh_refused h0 hf id⟩
  intro now c hc hfloats
  have hfaithful := faithful_of_validate hc hfloats
  constructor
  · intro id hclock hfits
    refine ⟨⟨_, refresh_eq_ok_iff.2 ⟨c, hc, hclock, rfl⟩, signs_sign ..⟩, ?_⟩
    intro token' hsigns
    obtain ⟨c', hsubject, hname, hroles, hextra, hissuer, hissued, hstart, hend, hcounts⟩ :=
      issued_starting hsigns hclock.1 hfits hfaithful.extra hfaithful.levels
    refine ⟨c', ?_, ⟨hsubject, hname, hroles, hextra⟩, hissuer, hissued, hstart, hend⟩
    exact (hcounts now hclock.1).1 (le_refl _) (by omega)
  · intro token' hchain
    obtain ⟨c', hc', _, hsame⟩ := renewals_keep hchain (unverified_of_validate hc) hfaithful
    refine ⟨⟨c', hc', hsame⟩, ?_⟩
    intro now' c'' hvalid
    obtain rfl := eq_of_unverified hvalid hc'
    exact hsame

/-- A badge is refreshed, and what it is refreshed to is refreshed again. It is
still the badge of Zoë, and of staff. After a quarter of an hour the first token
is refreshed no more. -/
theorem a_badge_is_refreshed_twice :
    ∃ first second third,
      briefSigner.issueAccess ⟨1700000000, 0⟩ "b" 7 "Zoë" ["staff", "staff"] badge = .ok first ∧
      briefSigner.refresh ⟨1700000800, 0⟩ "c" first = .ok second ∧
      briefSigner.refresh ⟨1700000800, 0⟩ "d" second = .ok third ∧
      (∃ c, unverified third = .ok c ∧ c.subject = 7 ∧ c.name = "Zoë" ∧
        c.roles = ["staff", "staff"] ∧ c.extra = badge) ∧
      briefSigner.refresh ⟨1700000901, 0⟩ "e" first = .error (.refused .invalidRefreshToken) := by
  have hlevels : (Value.ofMap badge).depth + 1 ≤ 127 := by decide
  have hclock : Instant.OnClock ⟨1700000800, 0⟩ := by decide
  have hfits : (1700000800 : Int) + briefSigner.settings.accessTtl.toNat < 2 ^ 63 := by decide
  have hfirst := issueAccess_on_clock (by decide : Instant.OnClock ⟨1700000000, 0⟩) briefSigner "b" 7
    "Zoë" ["staff", "staff"] badge
  have hissued : briefSigner.Issued
      (briefSigner.sign (briefSigner.accessClaims ⟨1700000000, 0⟩ "b" 7 "Zoë" ["staff", "staff"] badge))
      ⟨1700000000, 0⟩ briefSigner.settings.accessTtl 7 "Zoë" ["staff", "staff"] badge :=
    issued_starting (signs_sign ..) (by decide) (by decide) faithful_badge hlevels
  obtain ⟨c, hsubject, hname, hroles, hextra, _, _, _, _, hcounts⟩ := hissued
  have hvalid := (hcounts ⟨1700000800, 0⟩ (by decide)).1 (by decide) (by decide)
  have hexpired := (hcounts ⟨1700000901, 0⟩ (by decide)).2.1 (by decide)
  obtain ⟨haccepted, hrenews, hrefused⟩ := a_refreshed_token_is_for_the_same_user briefSigner _
  obtain ⟨hrefresh, hchain⟩ := haccepted _ c hvalid (hextra ▸ faithful_badge.floats)
  obtain ⟨⟨second, hsecond, hsigns⟩, hcurrent⟩ := hrefresh "c" hclock hfits
  obtain ⟨c₂, hvalid₂, hsame₂, _⟩ := hcurrent second hsigns
  have hfloats₂ : ∀ x, ¬Value.Part (.float x) (.ofMap c₂.extra) := by
    rw [hsame₂.extra, hextra]
    exact faithful_badge.floats
  obtain ⟨haccepted₂, hrenews₂, _⟩ := a_refreshed_token_is_for_the_same_user briefSigner second
  obtain ⟨⟨third, hthird, _⟩, _⟩ := (haccepted₂ _ c₂ hvalid₂ hfloats₂).1 "d" hclock hfits
  have htwice := Relation.ReflTransGen.tail (.single (hrenews _ _ _ hsecond))
    (hrenews₂ _ _ _ hthird)
  obtain ⟨⟨c₃, hc₃, hsame₃⟩, _⟩ := hchain third htwice
  refine ⟨_, second, third, hfirst, hsecond, hthird, ⟨c₃, hc₃, ?_⟩,
    hrefused _ "e" _ (by decide) hexpired⟩
  exact ⟨hsame₃.subject.trans hsubject, hsame₃.name.trans hname, hsame₃.roles.trans hroles,
    hsame₃.extra.trans hextra⟩

/-- Claims that last beyond the calendar. -/
def lastingClaims : Claims := ⟨7, "", [], .empty, 9000000000000, 0, 0, "a", ""⟩

/-- Behind the last second of the calendar a token can still be accepted, but
it is not refreshed. -/
theorem no_token_is_refreshed_behind_the_calendar :
    briefSigner.validate ⟨8210266876800, 0⟩ (briefSigner.sign lastingClaims) = .ok lastingClaims ∧
      (∀ x, ¬Value.Part (.float x) (.ofMap lastingClaims.extra)) ∧ (0 : Int) ≤ 8210266876800 ∧
      8210266876800 + (briefSigner.settings.accessTtl.toNat : Int) < 2 ^ 63 ∧
      ∀ id, ¬∃ token, briefSigner.refresh ⟨8210266876800, 0⟩ id (briefSigner.sign lastingClaims) =
        .ok token := by
  have hfaithful : lastingClaims.Faithful := ⟨Value.faithful_empty, by decide⟩
  have hcounts := (signs_sign briefSigner lastingClaims).countsFor hfaithful rfl (by decide)
    (by decide)
  refine ⟨(hcounts _ (by decide)).1 (by decide) (by decide), hfaithful.extra.floats, by decide,
    by decide, ?_⟩
  rintro id ⟨token, htoken⟩
  obtain ⟨_, _, hclock, _⟩ := refresh_eq_ok_iff.1 htoken
  have hbehind : ¬Instant.OnClock ⟨8210266876800, 0⟩ := by decide
  exact hbehind hclock

end Signer

end Warrant.Token
