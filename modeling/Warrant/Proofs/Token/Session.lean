-- How long the holder of a pair of tokens can go on. A refresh asks for a token
-- that counts, and not for a refresh token, so an access token is refreshed as
-- well. The token that is handed in has not ended, so each refresh moves the
-- end by one lifetime of access tokens at most. And there is a session in which
-- each refresh does, so the end of the refresh token is not the end of the
-- session.
import Warrant.Proofs.Instant
import Warrant.Proofs.Token.Refresh

namespace Warrant.Token

/-- A call to refresh a token. The new token gets the id. -/
structure RefreshCall where
  now : Instant
  id : String
  token : String

namespace Signer

variable {s : Signer} {start now : Instant} {tokens : List String} {last : Int}

/-! ## Sessions -/

/-- The tokens that calls obtain, newest first. -/
def obtained (s : Signer) (calls : List RefreshCall) : List String :=
  calls.filterMap fun call => (s.refresh call.now call.id call.token).toOption

/-- The instant of the newest call. -/
def clockAfter (start : Instant) : List RefreshCall → Instant
  | [] => start
  | call :: _ => call.now

/-- The calls of someone who has some tokens at the start, newest first. Each
call hands in one of these tokens, or one that an earlier call obtained. The
clock does not go back. -/
def Session (s : Signer) (start : Instant) (tokens : List String) : List RefreshCall → Prop
  | [] => True
  | call :: earlier =>
    call.token ∈ s.obtained earlier ++ tokens ∧ clockAfter start earlier ≤ call.now ∧
      s.Session start tokens earlier

theorem obtained_of_ok (call : RefreshCall) (earlier : List RefreshCall) {token : String}
    (h : s.refresh call.now call.id call.token = .ok token) :
    s.obtained (call :: earlier) = token :: s.obtained earlier := by
  simp [obtained, h, Except.toOption]

theorem obtained_of_error (call : RefreshCall) (earlier : List RefreshCall) {f : Failure}
    (h : s.refresh call.now call.id call.token = .error f) :
    s.obtained (call :: earlier) = s.obtained earlier := by
  simp [obtained, h, Except.toOption]

/-- The end of a token after some refreshes, each in the last second of the
token that is handed in. -/
def endAfter (s : Signer) (last : Int) (refreshes : Nat) : Int :=
  last + refreshes * s.settings.accessTtl.toNat

theorem endAfter_zero (s : Signer) (last : Int) : s.endAfter last 0 = last := by
  simp [endAfter]

theorem endAfter_succ (s : Signer) (last : Int) (n : Nat) :
    s.endAfter last (n + 1) = s.endAfter last n + s.settings.accessTtl.toNat := by
  unfold endAfter
  push_cast
  ring

theorem le_endAfter (s : Signer) (last : Int) (n : Nat) : last ≤ s.endAfter last n := by
  have hn : (0 : Int) ≤ n * s.settings.accessTtl.toNat := by positivity
  unfold endAfter
  omega

/-! ## No session lasts longer -/

/-- The claims of the token end by a second, and they can be read again. -/
def EndsBy (token : String) (last : Int) : Prop :=
  ∃ c, unverified token = .ok c ∧ c.Faithful ∧ c.expiresAt.toInt ≤ last

theorem EndsBy.mono {token : String} {later : Int} (h : EndsBy token last) (hle : last ≤ later) :
    EndsBy token later := by
  obtain ⟨c, hc, hfaithful, hend⟩ := h
  exact ⟨c, hc, hfaithful, by omega⟩

/-- A new token ends by the end of its lifetime. If that end does not fit a
word, the token ends before. -/
theorem endsBy_sign {ttl : UInt64} {extra : Attributes} (h0 : 0 ≤ now.seconds)
    (hextra : Value.Faithful (.ofMap extra)) (hlevels : (Value.ofMap extra).depth + 1 ≤ 127)
    (id : String) (subject : UserId) (name : String) (roles : List String) (issuer : String) :
    EndsBy (s.sign (.starting now id subject name roles extra issuer ttl))
      (now.seconds + ttl.toNat) := by
  have hfaithful : (Claims.starting now id subject name roles extra issuer ttl).Faithful :=
    ⟨hextra, hlevels⟩
  exact ⟨_, (signs_sign s _).unverified hfaithful, hfaithful, Word.toInt_ofInt_le (by omega)⟩

/-- A refresh moves the end by one lifetime at most. -/
theorem EndsBy.refresh {token token' id : String} (h : EndsBy token last)
    (hrefresh : s.refresh now id token = .ok token') :
    EndsBy token' (last + s.settings.accessTtl.toNat) := by
  obtain ⟨c, hvalid, hclock, rfl⟩ := refresh_eq_ok_iff.1 hrefresh
  obtain ⟨c', hc', hfaithful, hend⟩ := h
  obtain rfl := eq_of_unverified hvalid hc'
  have hnow : now.seconds ≤ c.expiresAt.toInt := le_expiresAt_of_validate hvalid
  exact (endsBy_sign hclock.1 hfaithful.extra hfaithful.levels id c.subject c.name c.roles _).mono
    (by omega)

/-- And so a session moves the end by one lifetime at most for each token that
it obtains. -/
theorem Session.endsBy {calls : List RefreshCall} (h : s.Session start tokens calls)
    (htokens : ∀ token ∈ tokens, EndsBy token last) :
    ∀ token ∈ s.obtained calls ++ tokens,
      EndsBy token (s.endAfter last (s.obtained calls).length) := by
  induction calls with
  | nil =>
    intro token htoken
    exact (htokens token htoken).mono (s.le_endAfter last _)
  | cons call earlier ih =>
    obtain ⟨hhas, _, hearlier⟩ := h
    have hends := ih hearlier
    cases hrefresh : s.refresh call.now call.id call.token with
    | error f =>
      rw [obtained_of_error call earlier hrefresh]
      exact hends
    | ok new =>
      intro token htoken
      rw [obtained_of_ok call earlier hrefresh] at htoken ⊢
      rw [List.length_cons, endAfter_succ]
      rcases List.mem_cons.1 htoken with rfl | htoken
      · exact (hends _ hhas).refresh hrefresh
      · exact (hends token htoken).mono (by omega)

/-! ## Some sessions last as long -/

/-- The token is signed here, and it is accepted up to a second. -/
def CountsUntil (s : Signer) (token : String) (last : Int) : Prop :=
  ∃ c : Claims, token = s.sign c ∧ c.Faithful ∧ c.issuer = s.settings.issuer ∧
    0 ≤ c.notBefore.toInt ∧ c.notBefore.toInt ≤ last ∧ c.expiresAt.toInt = last

theorem countsUntil_sign {ttl : UInt64} {extra : Attributes} (h0 : 0 ≤ now.seconds)
    (hfits : now.seconds + ttl.toNat < 2 ^ 63) (hextra : Value.Faithful (.ofMap extra))
    (hlevels : (Value.ofMap extra).depth + 1 ≤ 127) (id : String) (subject : UserId) (name : String)
    (roles : List String) :
    s.CountsUntil (s.sign (.starting now id subject name roles extra s.settings.issuer ttl))
      (now.seconds + ttl.toNat) := by
  have hstart := Claims.toInt_notBefore_starting id subject name roles extra s.settings.issuer ttl h0
    (by omega)
  have hend := Claims.toInt_expiresAt_starting id subject name roles extra s.settings.issuer ttl h0
    hfits
  exact ⟨_, rfl, ⟨hextra, hlevels⟩, rfl, by omega, by omega, hend⟩

theorem CountsUntil.validate {token : String} (h : s.CountsUntil token last) {t : Instant}
    (ht : t.seconds = last) : ∃ c, s.validate t token = .ok c ∧ c.Faithful ∧
      c.expiresAt.toInt = last := by
  obtain ⟨c, rfl, hfaithful, hissuer, h0, hle, rfl⟩ := h
  have hcounts := (signs_sign s c).countsFor hfaithful hissuer h0 hle
  exact ⟨c, (hcounts t (by omega)).1 (by omega) (by omega), hfaithful, rfl⟩

/-- A refresh in the last second of a token moves the end by a whole
lifetime. -/
theorem CountsUntil.refresh {token : String} (h : s.CountsUntil token last) {t : Instant}
    (ht : t.seconds = last) (hclock : t.OnClock)
    (hfits : last + s.settings.accessTtl.toNat < 2 ^ 63) (id : String) :
    ∃ token', s.refresh t id token = .ok token' ∧
      s.CountsUntil token' (last + s.settings.accessTtl.toNat) := by
  obtain ⟨c, hvalid, hfaithful, _⟩ := h.validate ht
  subst ht
  exact ⟨_, refresh_eq_ok_iff.2 ⟨c, hvalid, hclock, rfl⟩,
    countsUntil_sign hclock.1 hfits hfaithful.extra hfaithful.levels id c.subject c.name c.roles⟩

/-- A session has got a token that counts until a second, and its clock is not
behind that second. -/
structure Reaches (s : Signer) (start : Instant) (tokens : List String)
    (calls : List RefreshCall) (token : String) (last : Int) : Prop where
  session : s.Session start tokens calls
  clock : clockAfter start calls ≤ ⟨last, start.nanos⟩
  has : token ∈ s.obtained calls ++ tokens
  counts : s.CountsUntil token last

theorem Reaches.first {token : String} (hhas : token ∈ tokens) (hcounts : s.CountsUntil token last)
    (hstart : start.seconds ≤ last) : s.Reaches start tokens [] token last := by
  refine ⟨trivial, ?_, hhas, hcounts⟩
  rw [Instant.le_iff]
  simp only [clockAfter]
  omega

/-- It can get one more, in the last second of this token. -/
theorem Reaches.next {calls : List RefreshCall} {token : String}
    (h : s.Reaches start tokens calls token last) (h0 : 0 ≤ last)
    (hcalendar : last + s.settings.accessTtl.toNat ≤ Instant.lastSecond) :
    ∃ call renewed, s.obtained (call :: calls) = renewed :: s.obtained calls ∧
      s.Reaches start tokens (call :: calls) renewed (last + s.settings.accessTtl.toNat) := by
  have hword : Instant.lastSecond < 2 ^ 63 := by decide
  let call : RefreshCall := ⟨⟨last, start.nanos⟩, "", token⟩
  have hclock : call.now.OnClock := ⟨h0, by dsimp only [call]; omega⟩
  obtain ⟨renewed, hrefresh, hcounts⟩ := h.counts.refresh rfl hclock (by omega) call.id
  have hobtained := obtained_of_ok call calls hrefresh
  refine ⟨call, renewed, hobtained, ⟨h.has, h.clock, h.session⟩, ?_, ?_, hcounts⟩
  · rw [Instant.le_iff]
    simp only [clockAfter, call]
    omega
  · rw [hobtained]
    exact List.mem_cons_self

/-- A session in which each token is refreshed in its last second. -/
theorem exists_session {token : String} (h : s.Reaches start tokens [] token last)
    (h0 : 0 ≤ last) (n : Nat) (hcalendar : s.endAfter last n ≤ Instant.lastSecond) :
    ∃ calls newest, (s.obtained calls).length = n ∧
      s.Reaches start tokens calls newest (s.endAfter last n) := by
  induction n with
  | zero => exact ⟨[], token, rfl, by rwa [endAfter_zero]⟩
  | succ n ih =>
    rw [endAfter_succ] at hcalendar ⊢
    obtain ⟨earlier, newest, hlength, hreaches⟩ := ih (by omega)
    have hle := s.le_endAfter last n
    obtain ⟨call, renewed, hobtained, hnext⟩ := hreaches.next (by omega) hcalendar
    exact ⟨call :: earlier, renewed, by rw [hobtained, List.length_cons, hlength], hnext⟩

/-! ## The law -/

/-- The second in which the longer one of the two tokens of a pair ends. -/
def pairEnd (s : Signer) (start : Instant) : Int :=
  start.seconds + max s.settings.accessTtl.toNat s.settings.refreshTtl.toNat

theorem le_pairEnd (s : Signer) (start : Instant) : start.seconds ≤ s.pairEnd start := by
  unfold pairEnd
  omega

/-- One of the tokens of a pair counts until then. -/
theorem pair_countsUntil (s : Signer) (hstart : start.OnClock) (hcalendar : s.pairEnd start ≤ Instant.lastSecond)
    (ids : PairIds) (subject : UserId) (name : String) (roles : List String) {extra : Attributes}
    (hextra : Value.Faithful (.ofMap extra)) (hlevels : (Value.ofMap extra).depth + 1 ≤ 127) :
    ∃ token ∈ [s.sign (s.accessClaims start ids.access subject name roles extra),
      s.sign (s.refreshClaims start ids.refresh subject name)],
      s.CountsUntil token (s.pairEnd start) := by
  have hword : Instant.lastSecond < 2 ^ 63 := by decide
  unfold pairEnd at hcalendar ⊢
  rcases Nat.le_total s.settings.accessTtl.toNat s.settings.refreshTtl.toNat with hle | hle
  · rw [Nat.max_eq_right hle] at hcalendar ⊢
    refine ⟨_, List.mem_cons_of_mem _ List.mem_cons_self, ?_⟩
    exact countsUntil_sign hstart.1 (by omega) Value.faithful_empty (by decide) ids.refresh subject
      name []
  · rw [Nat.max_eq_left hle] at hcalendar ⊢
    refine ⟨_, List.mem_cons_self, ?_⟩
    exact countsUntil_sign hstart.1 (by omega) hextra hlevels ids.access subject name roles

/-- The end of a session is not the end of its refresh token. In a session with
a new pair of tokens, each refresh that succeeds moves the end by one lifetime
of access tokens at most, from the end of the pair on, and up to the end of the
calendar there is a session in which each refresh does. What the refresh token
itself obtains ends one lifetime of access tokens after it. -/
theorem each_refresh_moves_the_end_of_a_session (hstart : start.OnClock) (ids : PairIds)
    (subject : UserId) (name : String) (roles : List String) {extra : Attributes}
    (hextra : Value.Faithful (.ofMap extra)) (hlevels : (Value.ofMap extra).depth + 1 ≤ 127) :
    ∃ access refresh,
      s.issuePair start ids subject name roles extra = .ok (access, refresh) ∧
      (∀ calls, s.Session start [access, refresh] calls → ∀ token ∈ s.obtained calls,
        ∃ c, unverified token = .ok c ∧
          c.expiresAt.toInt ≤ s.endAfter (s.pairEnd start) (s.obtained calls).length) ∧
      (∀ now id token, s.refresh now id refresh = .ok token → ∃ c, unverified token = .ok c ∧
        c.expiresAt.toInt ≤
          start.seconds + s.settings.refreshTtl.toNat + s.settings.accessTtl.toNat) ∧
      ∀ n, s.endAfter (s.pairEnd start) (n + 1) ≤ Instant.lastSecond →
        ∃ calls, s.Session start [access, refresh] calls ∧ (s.obtained calls).length = n + 1 ∧
          ∃ token ∈ s.obtained calls, ∃ c,
            s.validate ⟨s.endAfter (s.pairEnd start) (n + 1), 0⟩ token = .ok c ∧
              c.expiresAt.toInt = s.endAfter (s.pairEnd start) (n + 1) := by
  have hnone : (Value.ofMap KeyMap.empty).depth + 1 ≤ 127 := by decide
  have haccess : EndsBy (s.sign (s.accessClaims start ids.access subject name roles extra))
      (start.seconds + s.settings.accessTtl.toNat) :=
    endsBy_sign hstart.1 hextra hlevels _ _ _ _ _
  have hrefresh : EndsBy (s.sign (s.refreshClaims start ids.refresh subject name))
      (start.seconds + s.settings.refreshTtl.toNat) :=
    endsBy_sign hstart.1 Value.faithful_empty hnone _ _ _ _ _
  refine ⟨_, _, issuePair_eq hstart ids subject name roles extra, ?_, ?_, ?_⟩
  · intro calls hsession token htoken
    have hpair : ∀ token ∈ [s.sign (s.accessClaims start ids.access subject name roles extra),
        s.sign (s.refreshClaims start ids.refresh subject name)],
        EndsBy token (s.pairEnd start) := by
      unfold pairEnd
      simp only [List.forall_mem_cons]
      exact ⟨haccess.mono (by omega), hrefresh.mono (by omega), by simp⟩
    obtain ⟨c, hc, _, hend⟩ := hsession.endsBy hpair token (List.mem_append_left _ htoken)
    exact ⟨c, hc, hend⟩
  · intro now id token htoken
    obtain ⟨c, hc, _, hend⟩ := hrefresh.refresh htoken
    exact ⟨c, hc, hend⟩
  · intro n hcalendar
    have hle := s.le_endAfter (s.pairEnd start) n
    have hstarted := s.le_pairEnd start
    have h0 := hstart.1
    rw [endAfter_succ] at hcalendar ⊢
    obtain ⟨first, hhas, hcounts⟩ :=
      s.pair_countsUntil hstart (by omega) ids subject name roles hextra hlevels
    have hfirst := Reaches.first hhas hcounts hstarted
    obtain ⟨earlier, _, hlength, hreaches⟩ := exists_session hfirst (by omega) n (by omega)
    obtain ⟨call, newest, hobtained, hnext⟩ := hreaches.next (by omega) hcalendar
    obtain ⟨c, hvalid, _, hend⟩ := hnext.counts.validate (t := ⟨_, 0⟩) rfl
    refine ⟨call :: earlier, hnext.session, ?_, newest, ?_, c, hvalid, hend⟩
    · rw [hobtained, List.length_cons, hlength]
    · rw [hobtained]
      exact List.mem_cons_self

/-- A signer whose access tokens count for ten seconds, and whose refresh tokens
count for fifteen. -/
def hastySigner : Signer :=
  ⟨{ secret := "hush", issuer := "a", accessTtl := 10, refreshTtl := 15 }, by decide⟩

/-- Three refreshes can lead half a minute behind the end of the refresh token,
and no further. -/
theorem a_hasty_session_ends_in_time :
    ∃ access refresh,
      hastySigner.issuePair ⟨1700000000, 0⟩ ⟨"a", "r"⟩ 7 "" [] .empty = .ok (access, refresh) ∧
      (∀ calls, hastySigner.Session ⟨1700000000, 0⟩ [access, refresh] calls →
        (hastySigner.obtained calls).length = 3 → ∀ token ∈ hastySigner.obtained calls,
          ∃ c, unverified token = .ok c ∧ c.expiresAt.toInt ≤ 1700000045) ∧
      ∃ calls, hastySigner.Session ⟨1700000000, 0⟩ [access, refresh] calls ∧
        (hastySigner.obtained calls).length = 3 ∧ ∃ token ∈ hastySigner.obtained calls, ∃ c,
          hastySigner.validate ⟨1700000045, 0⟩ token = .ok c ∧ c.expiresAt.toInt = 1700000045 := by
  have hlevels : (Value.ofMap KeyMap.empty).depth + 1 ≤ 127 := by decide
  have hend : hastySigner.endAfter (hastySigner.pairEnd ⟨1700000000, 0⟩) 3 = 1700000045 := by decide
  obtain ⟨access, refresh, hpair, hbound, _, hreach⟩ :=
    each_refresh_moves_the_end_of_a_session (s := hastySigner)
      (by decide : Instant.OnClock ⟨1700000000, 0⟩) ⟨"a", "r"⟩ 7 "" [] Value.faithful_empty hlevels
  have hlast := hreach 2 (by decide)
  rw [hend] at hlast
  refine ⟨access, refresh, hpair, ?_, hlast⟩
  intro calls hsession hthree token htoken
  obtain ⟨c, hc, hle⟩ := hbound calls hsession token htoken
  rw [hthree, hend] at hle
  exact ⟨c, hc, hle⟩

/-- An access token is refreshed in its last second, and so is what it is
refreshed to. By then the refresh token is over. The last token ends later than
what the refresh token could have obtained. -/
theorem an_access_token_outlives_its_refresh_token :
    ∃ access refresh renewed newest,
      hastySigner.issuePair ⟨1700000000, 0⟩ ⟨"a", "r"⟩ 7 "" [] .empty = .ok (access, refresh) ∧
      hastySigner.Session ⟨1700000000, 0⟩ [access, refresh]
        [⟨⟨1700000020, 0⟩, "u", renewed⟩, ⟨⟨1700000010, 0⟩, "t", access⟩] ∧
      hastySigner.refresh ⟨1700000010, 0⟩ "t" access = .ok renewed ∧
      hastySigner.refresh ⟨1700000020, 0⟩ "v" refresh =
        .error (.refused .invalidRefreshToken) ∧
      hastySigner.refresh ⟨1700000020, 0⟩ "u" renewed = .ok newest ∧
      ∃ c, unverified newest = .ok c ∧ (1700000000 + 15 + 10 : Int) < c.expiresAt.toInt := by
  have hlevels : (Value.ofMap KeyMap.empty).depth + 1 ≤ 127 := by decide
  have hclock : Instant.OnClock ⟨1700000000, 0⟩ := by decide
  have hpair := hastySigner.issuePair_eq hclock ⟨"a", "r"⟩ 7 "" [] .empty
  have haccess : hastySigner.CountsUntil (hastySigner.sign
      (hastySigner.accessClaims ⟨1700000000, 0⟩ "a" 7 "" [] .empty)) 1700000010 :=
    countsUntil_sign hclock.1 (by decide) Value.faithful_empty hlevels "a" 7 "" []
  have hrefresh : hastySigner.Issued (hastySigner.sign
      (hastySigner.refreshClaims ⟨1700000000, 0⟩ "r" 7 "")) ⟨1700000000, 0⟩
        hastySigner.settings.refreshTtl 7 "" [] .empty :=
    issued_starting (signs_sign ..) hclock.1 (by decide) Value.faithful_empty hlevels
  generalize hastySigner.sign (hastySigner.accessClaims _ "a" 7 "" [] .empty) = access at *
  generalize hastySigner.sign (hastySigner.refreshClaims _ "r" 7 "") = refresh at *
  obtain ⟨_, _, _, _, _, _, _, _, _, hcounts⟩ := hrefresh
  have hover := (hcounts ⟨1700000020, 0⟩ (by decide)).2.1 (by decide)
  obtain ⟨renewed, hfirst, hrenewed⟩ :=
    haccess.refresh (t := ⟨1700000010, 0⟩) rfl (by decide) (by decide) "t"
  obtain ⟨newest, hsecond, hnewest⟩ :=
    hrenewed.refresh (t := ⟨1700000020, 0⟩) rfl (by decide) (by decide) "u"
  obtain ⟨c, hvalid, _, hend⟩ := hnewest.validate (t := ⟨1700000030, 0⟩) rfl
  have hobtained := obtained_of_ok ⟨⟨1700000010, 0⟩, "t", access⟩ [] hfirst
  have hforward : (⟨1700000000, 0⟩ : Instant) ≤ ⟨1700000010, 0⟩ ∧
      (⟨1700000010, 0⟩ : Instant) ≤ ⟨1700000020, 0⟩ := by
    simp only [Instant.le_iff]
    decide
  refine ⟨access, refresh, renewed, newest, hpair, ?_, hfirst, refresh_refused (by decide) hover "v",
    hsecond, c, unverified_of_validate hvalid, ?_⟩
  · refine ⟨?_, hforward.2, List.mem_cons_self, hforward.1, trivial⟩
    rw [hobtained]
    exact List.mem_cons_self
  · rw [hend]
    decide

end Signer

end Warrant.Token
