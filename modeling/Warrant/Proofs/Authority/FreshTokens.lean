-- Tokens at the second of their issue. An authority whose settings come from
-- an environment can always issue a pair of tokens. But the end of a token is
-- its start and its lifetime, read with a sign, so a lifetime of 2 ^ 63
-- seconds or more ends before it starts. The check of the settings lets such
-- lifetimes pass. So a fresh token is accepted exactly if its lifetime is
-- smaller.
import Warrant.CommandLine
import Warrant.Proofs.Sequence
import Warrant.Proofs.Token.Refresh

namespace Warrant

open Warrant.Text

/-! ## Fresh tokens -/

namespace Token.Signer

variable {s : Signer} {now : Instant}

/-- The terms of a payload with a negative end have none. -/
theorem checkTerms_negative {t : Terms} {c : Claims} (h : t.Agree c)
    (hend : c.expiresAt.toInt < 0) : s.checkTerms now t = .error (.missingClaim "exp") := by
  have hnone : c.expiresAt.toInt.toNat? = none := by
    cases hn : c.expiresAt.toInt with
    | ofNat n =>
      rw [hn] at hend
      exact absurd hend (Int.not_lt.2 (Int.natCast_nonneg n))
    | negSucc n => rfl
  rw [checkTerms, h.expiresAt, hnone]

/-- A token that is over is refused. -/
theorem validate_sign_over {c : Claims} (h : c.Faithful) (hover : c.expiresAt.toInt < now.seconds) :
    s.validate now (s.sign c) = .error (.refused .tokenExpired) ∨
      s.validate now (s.sign c) = .error (.refused .invalidToken) := by
  obtain ⟨terms, hagree, _, hverify⟩ := (signs_sign s c).verify h
  have hfault : ∀ fault, s.checkTerms now terms = .error fault →
      s.verify now (s.sign c) = .error fault := by
    intro fault hterms
    rw [hverify, hterms]
    rfl
  rcases lt_or_ge c.expiresAt.toInt 0 with hend | hend
  · right
    exact validate_of_verify_error (hfault _ (checkTerms_negative hagree hend)) (by simp)
  · left
    exact validate_of_verify_error (hfault _ (checkTerms_after hagree hend hover)) (by simp)

/-- The end of claims that start now. The lifetime counts with its sign. -/
theorem expiresAt_starting {ttl : UInt64} (id : String) (subject : UserId) (name : String)
    (roles : List String) (extra : Attributes) (issuer : String) (h0 : 0 ≤ now.seconds)
    (hfits : now.seconds + ttl.toInt64.toInt < 2 ^ 63) :
    (Claims.starting now id subject name roles extra issuer ttl).expiresAt.toInt =
      now.seconds + ttl.toInt64.toInt := by
  have hlow : -(Word.half : Int) ≤ ttl.toInt64.toInt := ttl.toInt64.le_toInt
  exact Word.toInt_ofInt_add (by omega) hfits

/-- A token without extra claims, at the second of its issue. -/
theorem validate_starting {ttl : UInt64} (id : String) (subject : UserId) (name : String)
    (roles : List String) (hnow : now.OnClock)
    (hfits : now.seconds + ttl.toInt64.toInt < 2 ^ 63) :
    let c : Claims := .starting now id subject name roles .empty s.settings.issuer ttl
    (ttl.toNat < Word.half → s.validate now (s.sign c) = .ok c) ∧
      (¬ ttl.toNat < Word.half →
        s.validate now (s.sign c) = .error (.refused .tokenExpired) ∨
          s.validate now (s.sign c) = .error (.refused .invalidToken)) := by
  intro c
  obtain ⟨h0, hlast⟩ := hnow
  have hlevels : (Value.ofMap KeyMap.empty).depth + 1 ≤ 127 := by decide
  have hfaithful : c.Faithful := ⟨Value.faithful_empty, hlevels⟩
  have hend : c.expiresAt.toInt = now.seconds + ttl.toInt64.toInt :=
    expiresAt_starting id subject name roles .empty s.settings.issuer h0 hfits
  have hstart : c.notBefore.toInt = now.seconds := by
    have hbound : Instant.lastSecond < 2 ^ 63 := by decide
    exact Claims.toInt_notBefore_starting id subject name roles .empty _ ttl h0 (by omega)
  constructor
  · intro hsmall
    rw [Word.toInt_toInt64 hsmall] at hend
    have hcounts : s.CountsFor (s.sign c) c _ _ :=
      (signs_sign s c).countsFor hfaithful rfl (by omega) (by omega)
    exact (hcounts now h0).1 (by omega) (by omega)
  · intro hlarge
    rw [Word.toInt_toInt64_of_half_le (Nat.le_of_not_lt hlarge)] at hend
    have hword : ttl.toNat < Word.limit := ttl.toNat_lt
    exact validate_sign_over hfaithful (by omega)

end Token.Signer

/-! ## Settings from an environment -/

/-- The settings of an environment pass the check. -/
theorem Environment.check_settings {env : Environment} {settings : Settings}
    (h : env.settings = .ok settings) : settings.check = .ok () := by
  obtain ⟨credentials, _, h⟩ := ok_of_bind h
  obtain ⟨permissions, _, h⟩ := ok_of_bind h
  cases credentials with
  | jwt =>
    obtain ⟨jwt, _, h⟩ := ok_of_bind h
    obtain ⟨_, hcheck, h⟩ := ok_of_bind h
    cases h
    exact hcheck
  | oauth =>
    obtain ⟨_, _, h⟩ := ok_of_bind h
    obtain ⟨_, hcheck, h⟩ := ok_of_bind h
    cases h
    exact hcheck

/-- Checked settings for JWT credentials have a signer. -/
theorem Authority.ofSettings_jwt {settings : Settings} (hmode : settings.credentials = .jwt)
    (hcheck : settings.check = .ok ()) :
    ∃ a signer, Authority.ofSettings settings = .ok a ∧ a.credentials = .jwt signer ∧
      settings.jwt = some signer.settings := by
  cases hjwt : settings.jwt with
  | none => simp [Settings.check, hmode, hjwt, bind, Except.bind] at hcheck
  | some jwt =>
    have hsecret : jwt.secret ≠ "" := by
      intro hempty
      simp [Settings.check, hmode, hjwt, JwtSettings.check, hempty, bind, Except.bind] at hcheck
    refine ⟨⟨.jwt ⟨jwt, hsecret⟩, settings.permissions.map Permissions.empty⟩, ⟨jwt, hsecret⟩, ?_,
      rfl, rfl⟩
    unfold Authority.ofSettings Credentials.ofSettings
    rw [hcheck, hmode, hjwt]
    simp [Token.Signer.ofSettings, hsecret, Except.map, bind, Except.bind, pure, Except.pure]

/-! ## The command line -/

namespace CommandLine

/-- The command line ends well if the access token is accepted. -/
theorem answer_exitCode_iff {a : Authority} {now : Instant} {ids : Token.Signer.PairIds}
    {user : UserId} {name : String} {roles : List String} {access refresh : String}
    (hissue : a.issue now ids user name roles .empty = .ok (access, refresh)) :
    (answer a now ids ⟨user, name, roles⟩).exitCode = 0 ↔
      ∃ p, (a.validate none now access : Id (Except Failure Principal)) = .ok p := by
  unfold answer
  rw [hissue]
  dsimp only
  cases hv : (a.validate none now access : Id (Except Failure Principal)) with
  | ok p => simp
  | error f => cases f <;> simp [Outcome.failed]

theorem run_eq_answer {args : List String} {env : Environment} {now : Instant}
    {ids : Token.Signer.PairIds} {settings : Settings} {r : Request} {a : Authority}
    (henv : env.settings = .ok settings) (hr : Request.read args = some r)
    (ha : Authority.ofSettings settings = .ok a) : run args env now ids = answer a now ids r := by
  unfold run
  rw [henv]
  dsimp only
  rw [hr]
  dsimp only
  rw [ha]

end CommandLine

/-! ## The law -/

namespace Authority

variable {a : Authority} {signer : Token.Signer} {now : Instant}

theorem issue_jwt (ha : a.credentials = .jwt signer) (hnow : now.OnClock)
    (ids : Token.Signer.PairIds) (user : UserId) (name : String) (roles : List String) :
    a.issue now ids user name roles .empty =
      .ok (signer.sign (signer.accessClaims now ids.access user name roles .empty),
        signer.sign (signer.refreshClaims now ids.refresh user name)) := by
  unfold issue
  rw [ha]
  exact Token.Signer.issuePair_eq hnow ids user name roles .empty

theorem validate_jwt (ha : a.credentials = .jwt signer) (token : String) :
    (a.validate none now token : Id (Except Failure Principal)) =
      (signer.validate now token).map fun c => ⟨c.subject, c.name, c.roles⟩ := by
  unfold validate
  rw [ha]
  rfl

/-- A fresh access token tells who it was made for, if it is accepted at
all. -/
theorem validate_fresh (ha : a.credentials = .jwt signer) (hnow : now.OnClock) (id : String)
    (user : UserId) (name : String) (roles : List String)
    (hfits : now.seconds + signer.settings.accessTtl.toInt64.toInt < 2 ^ 63) (p : Principal) :
    (a.validate none now (signer.sign (signer.accessClaims now id user name roles .empty)) :
        Id (Except Failure Principal)) = .ok p ↔
      signer.settings.accessTtl.toNat < Word.half ∧ p = ⟨user, name, roles⟩ := by
  obtain ⟨hok, hover⟩ := signer.validate_starting id user name roles hnow hfits
  rw [validate_jwt ha, Token.Signer.accessClaims]
  by_cases hsmall : signer.settings.accessTtl.toNat < Word.half
  · rw [hok hsmall]
    constructor
    · intro hp
      exact ⟨hsmall, (Except.ok.inj hp).symm⟩
    · rintro ⟨_, rfl⟩
      rfl
  · rcases hover hsmall with hv | hv
    · rw [hv]
      simp [Except.map, hsmall]
    · rw [hv]
      simp [Except.map, hsmall]

theorem refresh_fresh (ha : a.credentials = .jwt signer) (hnow : now.OnClock) (id fresh : String)
    (user : UserId) (name : String)
    (hfits : now.seconds + signer.settings.refreshTtl.toInt64.toInt < 2 ^ 63) :
    (∃ token, (a.refresh now fresh (signer.sign (signer.refreshClaims now id user name))).2 =
        .ok token) ↔ signer.settings.refreshTtl.toNat < Word.half := by
  obtain ⟨hok, hover⟩ := signer.validate_starting id user name [] hnow hfits
  have hrefresh : ∀ token, (a.refresh now fresh token).2 = signer.refresh now fresh token := by
    intro token
    unfold refresh
    rw [ha]
  rw [hrefresh]
  constructor
  · rintro ⟨token, htoken⟩
    obtain ⟨c, hc, _⟩ := Token.Signer.refresh_eq_ok_iff.1 htoken
    by_contra hlarge
    rcases hover hlarge with hv | hv
    · exact absurd (hc.symm.trans hv) (by simp)
    · exact absurd (hc.symm.trans hv) (by simp)
  · intro hsmall
    exact ⟨_, Token.Signer.refresh_eq_ok_iff.2 ⟨_, hok hsmall, hnow, rfl⟩⟩

end Authority

/-- Settings of an environment, for JWT credentials, give an authority that
issues a pair of tokens at every instant of a clock. At this same instant the
access token tells who it was made for, the command line ends well, and the
refresh token gives a new access token, each exactly if its lifetime is
smaller than 2 ^ 63 seconds. -/
theorem a_fresh_token_counts_if_its_lifetime_is_no_negative_number {env : Environment}
    {settings : Settings} (henv : env.settings = .ok settings)
    (hmode : settings.credentials = .jwt) :
    ∃ jwt a, settings.jwt = some jwt ∧ Authority.ofSettings settings = .ok a ∧
      ∀ (now : Instant) (ids : Token.Signer.PairIds) (user : UserId) (name : String)
        (roles : List String), now.OnClock →
      ∃ access refresh, a.issue now ids user name roles .empty = .ok (access, refresh) ∧
        (now.seconds + jwt.accessTtl.toInt64.toInt < 2 ^ 63 →
          (∀ p, (a.validate none now access : Id (Except Failure Principal)) = .ok p ↔
            jwt.accessTtl.toNat < Word.half ∧ p = ⟨user, name, roles⟩) ∧
          ∀ args, CommandLine.Request.read args = some ⟨user, name, roles⟩ →
            ((CommandLine.run args env now ids).exitCode = 0 ↔
              jwt.accessTtl.toNat < Word.half)) ∧
        (now.seconds + jwt.refreshTtl.toInt64.toInt < 2 ^ 63 →
          ∀ fresh, (∃ token, (a.refresh now fresh refresh).2 = .ok token) ↔
            jwt.refreshTtl.toNat < Word.half) := by
  obtain ⟨a, signer, ha, hcred, hjwt⟩ :=
    Authority.ofSettings_jwt hmode (Environment.check_settings henv)
  refine ⟨signer.settings, a, hjwt, ha, ?_⟩
  intro now ids user name roles hnow
  have hissue := Authority.issue_jwt hcred hnow ids user name roles
  have hvalidate := Authority.validate_fresh hcred hnow ids.access user name roles
  have hrefresh := fun fresh => Authority.refresh_fresh hcred hnow ids.refresh fresh user name
  -- From here on only the three facts about the two tokens count.
  generalize signer.sign (signer.accessClaims now ids.access user name roles .empty) = access at *
  generalize signer.sign (signer.refreshClaims now ids.refresh user name) = refresh at *
  refine ⟨access, refresh, hissue, fun hfits => ?_, fun hfits fresh => ?_⟩
  · refine ⟨hvalidate hfits, fun args hargs => ?_⟩
    rw [CommandLine.run_eq_answer henv hargs ha, CommandLine.answer_exitCode_iff hissue]
    constructor
    · rintro ⟨p, hp⟩
      exact ((hvalidate hfits p).1 hp).1
    · intro hsmall
      exact ⟨_, (hvalidate hfits _).2 ⟨hsmall, rfl⟩⟩
  · exact hrefresh fresh hfits

/-- An environment with a secret and a lifetime of access tokens. -/
def plainEnvironment (ttl : String) : Environment :=
  KeyMap.empty.insert "JWT_SECRET" (Utf8.bytes "hush")
    |>.insert "AUTHZ_JWT_ACCESS_TTL_SECS" (Utf8.bytes ttl)

/-- With a minute to live, the tokens of user 7 count and the command line
ends well. -/
theorem a_minute_is_enough : ∃ a : Authority, ∀ ids : Token.Signer.PairIds,
    ∃ access refresh, a.issue ⟨1700000000, 0⟩ ids 7 "Seven" [] .empty = .ok (access, refresh) ∧
      (a.validate none ⟨1700000000, 0⟩ access : Id (Except Failure Principal)) =
        .ok ⟨7, "Seven", []⟩ ∧
      (CommandLine.run ["7", "Seven"] (plainEnvironment "60") ⟨1700000000, 0⟩ ids).exitCode = 0 ∧
      ∃ token, (a.refresh ⟨1700000000, 0⟩ "fresh" refresh).2 = .ok token := by
  have henv : (plainEnvironment "60").settings = .ok
      ⟨.jwt, some .roles, some { secret := "hush", accessTtl := 60 }, {}⟩ := rfl
  obtain ⟨jwt, a, hjwt, _, hfresh⟩ :=
    a_fresh_token_counts_if_its_lifetime_is_no_negative_number henv rfl
  cases hjwt
  refine ⟨a, fun ids => ?_⟩
  obtain ⟨access, refresh, hissue, haccess, hrefresh⟩ :=
    hfresh ⟨1700000000, 0⟩ ids 7 "Seven" [] (by decide)
  obtain ⟨hvalidate, hexit⟩ := haccess (by decide)
  exact ⟨access, refresh, hissue, (hvalidate _).2 ⟨by decide, rfl⟩,
    (hexit ["7", "Seven"] (by decide)).2 (by decide), (hrefresh (by decide) _).2 (by decide)⟩

/-- The longest lifetime passes the check of the settings, but no token with
it is ever accepted, and the command line fails. -/
theorem the_longest_lifetime_never_counts : ∃ (settings : Settings) (a : Authority),
    (plainEnvironment "18446744073709551615").settings = .ok settings ∧
      settings.credentials = .jwt ∧ Authority.ofSettings settings = .ok a ∧
      ∀ ids : Token.Signer.PairIds, ∃ access refresh,
        a.issue ⟨1700000000, 0⟩ ids 7 "Seven" [] .empty = .ok (access, refresh) ∧
        (∀ p, (a.validate none ⟨1700000000, 0⟩ access : Id (Except Failure Principal)) ≠ .ok p) ∧
        (CommandLine.run ["7", "Seven"] (plainEnvironment "18446744073709551615") ⟨1700000000, 0⟩
          ids).exitCode ≠ 0 := by
  have henv : (plainEnvironment "18446744073709551615").settings = .ok
      ⟨.jwt, some .roles, some { secret := "hush", accessTtl := 18446744073709551615 }, {}⟩ := rfl
  obtain ⟨a, signer, ha, hcred, hjwt⟩ :=
    Authority.ofSettings_jwt rfl (Environment.check_settings henv)
  have httl : signer.settings.accessTtl = 18446744073709551615 :=
    congrArg JwtSettings.accessTtl (Option.some.inj hjwt.symm)
  refine ⟨_, a, henv, rfl, ha, fun ids => ?_⟩
  have hissue := Authority.issue_jwt hcred (by decide : Instant.OnClock ⟨1700000000, 0⟩) ids 7
    "Seven" []
  have hnever : ∀ p, (a.validate none ⟨1700000000, 0⟩ (signer.sign
      (signer.accessClaims ⟨1700000000, 0⟩ ids.access 7 "Seven" [] .empty)) :
        Id (Except Failure Principal)) ≠ .ok p := by
    intro p hp
    have hsmall := ((Authority.validate_fresh hcred (by decide) ids.access 7 "Seven" []
      (by rw [httl]; decide) p).1 hp).1
    rw [httl] at hsmall
    exact absurd hsmall (by decide)
  generalize signer.sign (signer.accessClaims _ ids.access 7 "Seven" [] .empty) = access at *
  refine ⟨access, _, hissue, hnever, ?_⟩
  rw [CommandLine.run_eq_answer henv (by decide : CommandLine.Request.read ["7", "Seven"] =
    some ⟨7, "Seven", []⟩) ha, Ne, CommandLine.answer_exitCode_iff hissue]
  rintro ⟨p, hp⟩
  exact hnever p hp

end Warrant
