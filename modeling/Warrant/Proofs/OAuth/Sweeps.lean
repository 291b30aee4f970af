-- The sweep only reclaims memory. Of two runs with the same calls, one has
-- more sweeps. Its server holds fewer codes, and is the same otherwise, and
-- its calls succeed alike.
--
-- What a sweep took out is expired, and stays so since the clock does not go
-- back. An exchange would look at such a code only to refuse it.
import Mathlib.Data.List.Induction
import Warrant.OAuth.Sweep
import Warrant.Proofs.OAuth.CodeGrant

namespace Warrant.OAuth

/-! ## Answers that are alike -/

namespace Act

/-- The call was not refused, and did not die. -/
def succeeds : Act → Bool
  | issueCode _ _ _ _ answer => answer.isOk
  | exchange _ _ _ answer => answer.isOk
  | validate _ answer => answer.isOk
  | refresh _ answer => answer.isOk
  | revoke _ answer => answer.isOk
  | purge answer => answer.isOk
  | countCodes answer => answer.isOk
  | _ => true

/-- The act without the number that it tells, if it tells one. -/
def uncounted : Act → Act
  | purge (.ok _) => purge (.ok 0)
  | countCodes (.ok _) => countCodes (.ok 0)
  | a => a

/-- What a call answers on a server, and on one where more was swept. The same,
but a code that is expired may be unknown, and there is less to count. -/
inductive Alike (s : Server) (now : Instant) : Act → Act → Prop
  | same (a : Act) : Alike s now a a
  | late (code client secret : String) (g : AuthorizationCode) (f : Refusal) :
      s.codes.get? code = some g → g.isOver now = true →
      f = .codeExpired ∨ f = .clientMismatch →
      Alike s now (.exchange code client secret (.error (.refused f)))
        (.exchange code client secret (.error (.refused .invalidCode)))
  | purge (m n : Nat) : n ≤ m → Alike s now (.purge (.ok m)) (.purge (.ok n))
  | countCodes (m n : Nat) : n ≤ m → Alike s now (.countCodes (.ok m)) (.countCodes (.ok n))

/-- No success is gained, lost or changed, but for the numbers. -/
theorem Alike.success {s : Server} {now : Instant} {a b : Act} (h : Alike s now a b) :
    b.succeeds = a.succeeds ∧ (a.succeeds = true → b.uncounted = a.uncounted) := by
  cases h with
  | same a => exact ⟨rfl, fun _ => rfl⟩
  | late code client secret g f hg he hf => exact ⟨rfl, fun h => nomatch h⟩
  | purge m n hle => exact ⟨rfl, fun _ => rfl⟩
  | countCodes m n hle => exact ⟨rfl, fun _ => rfl⟩

end Act

/-! ## Fewer codes -/

/-- A sweep came after the code's last instant. -/
def Reclaimed (more : List (Instant × Call)) (g : AuthorizationCode) : Prop :=
  ∃ t, (t, .purge) ∈ more ∧ g.expiresAt < t

/-- The codes that are kept are some of these codes, and the others were
swept. -/
structure Thinned (more : List (Instant × Call)) (codes kept : KeyMap String AuthorizationCode) :
    Prop where
  held : ∀ code g, kept.get? code = some g → codes.get? code = some g
  missing : ∀ code g, codes.get? code = some g → kept.get? code = none → Reclaimed more g

namespace Thinned

variable {more : List (Instant × Call)} {codes kept : KeyMap String AuthorizationCode}

theorem refl (more : List (Instant × Call)) (codes : KeyMap String AuthorizationCode) :
    Thinned more codes codes := by
  refine ⟨fun _ _ hg => hg, fun code g hg hnone => ?_⟩
  rw [hg] at hnone
  cases hnone

theorem later (h : Thinned more codes kept) (q : Instant × Call) :
    Thinned (q :: more) codes kept := by
  refine ⟨h.held, fun code g hg hnone => ?_⟩
  obtain ⟨t, hm, ht⟩ := h.missing code g hg hnone
  exact ⟨t, List.mem_cons_of_mem q hm, ht⟩

theorem insert (h : Thinned more codes kept) (code : String) (g : AuthorizationCode) :
    Thinned more (codes.insert code g) (kept.insert code g) := by
  constructor
  · intro code' g' hg
    rw [KeyMap.get?_insert] at hg ⊢
    split at hg
    · rename_i he
      rwa [if_pos he]
    · rename_i hne
      rw [if_neg hne]
      exact h.held code' g' hg
  · intro code' g' hg hnone
    rw [KeyMap.get?_insert] at hg hnone
    split at hnone
    · cases hnone
    · rename_i hne
      rw [if_neg hne] at hg
      exact h.missing code' g' hg hnone

theorem erase (h : Thinned more codes kept) (code : String) :
    Thinned more (codes.erase code) (kept.erase code) := by
  constructor
  · intro code' g hg
    obtain ⟨hne, hg⟩ := KeyMap.get?_erase_eq_some_iff.1 hg
    exact KeyMap.get?_erase_eq_some_iff.2 ⟨hne, h.held code' g hg⟩
  · intro code' g hg hnone
    obtain ⟨hne, hg⟩ := KeyMap.get?_erase_eq_some_iff.1 hg
    rw [KeyMap.get?_erase, if_neg hne] at hnone
    exact h.missing code' g hg hnone

/-- A code that is not kept can go. -/
theorem erase_missing (h : Thinned more codes kept) {code : String}
    (hnone : kept.get? code = none) : Thinned more (codes.erase code) kept := by
  constructor
  · intro code' g hg
    refine KeyMap.get?_erase_eq_some_iff.2 ⟨?_, h.held code' g hg⟩
    rintro rfl
    rw [hg] at hnone
    cases hnone
  · intro code' g hg hnone'
    exact h.missing code' g (KeyMap.get?_erase_eq_some_iff.1 hg).2 hnone'

/-- A sweep at a later instant leaves the same codes of both. -/
theorem filter_eq (h : Thinned more codes kept) {now : Instant}
    (hlate : ∀ g, Reclaimed more g → g.isOver now = true) :
    kept.filter (fun _ g => !g.isOver now) = codes.filter (fun _ g => !g.isOver now) := by
  refine KeyMap.ext fun code => ?_
  rw [KeyMap.get?_filter, KeyMap.get?_filter]
  cases hk : kept.get? code with
  | some g => rw [h.held code g hk]
  | none =>
    cases hg : codes.get? code with
    | none => rfl
    | some g => simp [Option.filter_some, hlate g (h.missing code g hg hk)]

/-- A sweep takes out what is expired. -/
theorem sweep (h : Thinned more codes kept) (now : Instant) :
    Thinned ((now, .purge) :: more) codes (kept.filter fun _ g => !g.isOver now) := by
  constructor
  · intro code g hg
    exact h.held code g (KeyMap.get?_filter_eq_some_iff.1 hg).1
  · intro code g hg hnone
    cases hk : kept.get? code with
    | none => exact (h.later _).missing code g hg hk
    | some g' =>
      have hsame := h.held code g' hk
      rw [hg] at hsame
      cases hsame
      refine ⟨now, List.mem_cons_self, (Instant.isAfter_iff now g.expiresAt).1 ?_⟩
      rw [KeyMap.get?_filter, hk] at hnone
      simpa [AuthorizationCode.isOver] using hnone

theorem size_le (h : Thinned more codes kept) : kept.size ≤ codes.size := by
  have hpart : kept = codes.filter fun code _ => kept.contains code := by
    refine KeyMap.ext fun code => ?_
    rw [KeyMap.get?_filter, KeyMap.contains]
    cases hk : kept.get? code with
    | some g => simp [Option.filter_some, h.held code g hk]
    | none => cases codes.get? code <;> simp
  rw [hpart]
  exact codes.size_filter_le _

end Thinned

/-! ## One call -/

namespace Server

/-- The server with these codes in place of its own. -/
def withCodes (s : Server) (kept : KeyMap String AuthorizationCode) : Server :=
  { s with codes := kept }

variable {s : Server} {more : List (Instant × Call)} {kept : KeyMap String AuthorizationCode}
  {now : Instant}

theorem codes_withCodes (s : Server) (kept : KeyMap String AuthorizationCode) :
    (s.withCodes kept).codes = kept :=
  rfl

/-- The call does the same whatever the codes are, and leaves them alone. -/
structure IgnoresCodes {α : Type} (f : Server → Server × α) : Prop where
  same : ∀ s kept, f (s.withCodes kept) = ((f s).1.withCodes kept, (f s).2)
  poisoned : ∀ s, (f s).1.codesPoisoned = s.codesPoisoned

theorem IgnoresCodes.codes {α : Type} {f : Server → Server × α} (hf : IgnoresCodes f)
    (s : Server) : (f s).1.codes = s.codes :=
  congrArg (fun r => r.1.codes) (hf.same s s.codes)

theorem storeTokens_ignoresCodes (p : TokenPair) : IgnoresCodes fun s => s.storeTokens p := by
  constructor
  · intro s kept
    unfold storeTokens withCodes
    dsimp only
    split <;> rfl
  · intro s
    unfold storeTokens
    split <;> rfl

theorem refresh_ignoresCodes (now : Instant) (fresh refresh : String) :
    IgnoresCodes fun s => s.refresh now fresh refresh := by
  constructor
  · intro s kept
    have hexp : (s.withCodes kept).accessExpiry? now = s.accessExpiry? now := rfl
    unfold Server.refresh
    rw [hexp]
    unfold withCodes
    dsimp only
    split
    · rfl
    · split
      · rfl
      · split <;> rfl
  · intro s
    unfold Server.refresh
    split
    · rfl
    · split
      · rfl
      · split <;> rfl

theorem revoke_ignoresCodes (access : String) : IgnoresCodes fun s => s.revoke access := by
  constructor
  · intro s kept
    unfold revoke withCodes
    dsimp only
    split <;> rfl
  · intro s
    unfold revoke
    split <;> rfl

/-- On a clock nothing dies while a code is taken. -/
theorem takeCode_on_clock (hopen : s.codesPoisoned = false) (hnow : now.OnClock)
    (code client : String) :
    s.takeCode now code client =
      match s.codes.get? code with
      | none => (s, .error (.refused .invalidCode))
      | some g =>
        if g.client ≠ client then (s, .error (.refused .clientMismatch))
        else (s.withCodes (s.codes.erase code),
          if g.isOver now then .error (.refused .codeExpired) else .ok g) := by
  rw [takeCode, if_neg (by simp [hopen])]
  cases s.codes.get? code with
  | none => rfl
  | some g =>
    dsimp only
    rw [AuthorizationCode.isExpired, Instant.look_of_onClock hnow]
    dsimp only
    split
    · rfl
    · split
      · rfl
      · rfl

/-- A code is taken alike by both, or it is late and only one of them still
knows it. -/
theorem takeCode_thinned (hopen : s.codesPoisoned = false) (hnow : now.OnClock)
    (hlate : ∀ g, Reclaimed more g → g.isOver now = true) (h : Thinned more s.codes kept)
    (code client : String) :
    (∃ left kept' answer, s.takeCode now code client = (s.withCodes left, answer) ∧
      (s.withCodes kept).takeCode now code client = (s.withCodes kept', answer) ∧
      Thinned more left kept') ∨
    ∃ left g f, s.takeCode now code client = (s.withCodes left, .error (.refused f)) ∧
      (s.withCodes kept).takeCode now code client =
        (s.withCodes kept, .error (.refused .invalidCode)) ∧
      Thinned more left kept ∧ s.codes.get? code = some g ∧ g.isOver now = true ∧
      (f = .codeExpired ∨ f = .clientMismatch) := by
  have hopen' : (s.withCodes kept).codesPoisoned = false := hopen
  rw [takeCode_on_clock hopen hnow, takeCode_on_clock hopen' hnow, codes_withCodes]
  cases hk : kept.get? code with
  | some g =>
    left
    rw [h.held code g hk]
    by_cases hc : g.client = client
    · exact ⟨s.codes.erase code, kept.erase code, _, if_neg (by simp [hc]),
        if_neg (by simp [hc]), h.erase code⟩
    · exact ⟨s.codes, kept, _, if_pos hc, if_pos hc, h⟩
  | none =>
    cases hg : s.codes.get? code with
    | none => exact .inl ⟨s.codes, kept, _, rfl, rfl, h⟩
    | some g =>
      right
      have he : g.isOver now = true := hlate g (h.missing code g hg hk)
      by_cases hc : g.client = client
      · refine ⟨s.codes.erase code, g, .codeExpired, ?_, rfl, h.erase_missing hk, rfl, he, .inl rfl⟩
        dsimp only
        rw [if_neg (by simp [hc]), if_pos he]
      · exact ⟨s.codes, g, .clientMismatch, if_pos hc, rfl, h, rfl, he, .inr rfl⟩

/-- What a call does on a server, and on one where more was swept. -/
structure Matched (more : List (Instant × Call)) (s : Server) (now : Instant)
    (r r' : Server × Act) : Prop where
  unpoisoned : r.1.codesPoisoned = false
  thinned : ∃ kept, r'.1 = r.1.withCodes kept ∧ Thinned more r.1.codes kept
  alike : Act.Alike s now r.2 r'.2

theorem IgnoresCodes.matched {f : Server → Server × Act} (hf : IgnoresCodes f)
    (hopen : s.codesPoisoned = false) (h : Thinned more s.codes kept) :
    Matched more s now (f s) (f (s.withCodes kept)) := by
  rw [hf.same]
  refine ⟨(hf.poisoned s).trans hopen, ⟨kept, rfl, ?_⟩, .same _⟩
  rwa [hf.codes]

theorem issueCode_matched (hopen : s.codesPoisoned = false) (h : Thinned more s.codes kept)
    (fresh client : String) (subject : UserId) (redirectUri : String) (scopes : List String) :
    let call := Call.issueCode fresh client subject redirectUri scopes
    Matched more s now (s.step now call) ((s.withCodes kept).step now call) := by
  have hcheck : (s.withCodes kept).checkRedirect client redirectUri =
      s.checkRedirect client redirectUri := rfl
  have hstore : ∀ (t : Server) (g : AuthorizationCode), t.codesPoisoned = false →
      t.storeCode g = (t.withCodes (t.codes.insert g.code g), .ok g.code) := by
    intro t g ht
    rw [storeCode, if_neg (by simp [ht])]
    rfl
  dsimp only [step]
  unfold issueCode
  rw [hcheck]
  cases s.checkRedirect client redirectUri with
  | error e => exact ⟨hopen, ⟨kept, rfl, h⟩, .same _⟩
  | ok u =>
    cases now.plusSeconds? codeTtl with
    | none => exact ⟨hopen, ⟨kept, rfl, h⟩, .same _⟩
    | some expiresAt =>
      dsimp only
      rw [hstore s _ hopen, hstore (s.withCodes kept) _ hopen]
      exact ⟨hopen, ⟨_, rfl, h.insert fresh _⟩, .same _⟩

/-- An exchange that gets no code ends there. -/
theorem exchange_of_refused {t : Server} {f : Failure} (fresh : FreshPair)
    {code client secret : String} (hauth : s.authenticates client secret = true)
    (ht : s.takeCode now code client = (t, .error f)) :
    s.exchange now fresh code client secret = (t, .error f) := by
  rw [exchange, if_pos hauth, ht]

/-- An exchange goes on with the code that it took. -/
theorem exchange_of_taken {t : Server} {g : AuthorizationCode} (fresh : FreshPair)
    {code client secret : String} (hauth : s.authenticates client secret = true)
    (ht : s.takeCode now code client = (t, .ok g)) :
    s.exchange now fresh code client secret =
      match t.pairFor? now fresh g with
      | none => (t, .error .died)
      | some p => ((t.storeTokens p).1, (t.storeTokens p).2.mapError .refused) := by
  cases hp : t.pairFor? now fresh g with
  | none => simp only [exchange, if_pos hauth, ht, hp]
  | some p => simp only [exchange, if_pos hauth, ht, hp]

theorem exchange_matched (hopen : s.codesPoisoned = false) (hnow : now.OnClock)
    (hlate : ∀ g, Reclaimed more g → g.isOver now = true) (h : Thinned more s.codes kept)
    (fresh : FreshPair) (code client secret : String) :
    let call := Call.exchange fresh code client secret
    Matched more s now (s.step now call) ((s.withCodes kept).step now call) := by
  dsimp only [step]
  by_cases hauth : s.authenticates client secret = true
  · have hauth' : (s.withCodes kept).authenticates client secret = true := hauth
    rcases takeCode_thinned hopen hnow hlate h code client with
      ⟨left, kept', answer, ht, ht', hthin⟩ | ⟨left, g, f, ht, ht', hthin, hg, he, hf⟩
    · cases answer with
      | error f =>
        rw [exchange_of_refused fresh hauth ht, exchange_of_refused fresh hauth' ht']
        exact ⟨hopen, ⟨kept', rfl, hthin⟩, .same _⟩
      | ok g =>
        rw [exchange_of_taken fresh hauth ht, exchange_of_taken fresh hauth' ht']
        have hpair : ∀ codes, (s.withCodes codes).pairFor? now fresh g = s.pairFor? now fresh g :=
          fun _ => rfl
        rw [hpair, hpair]
        cases s.pairFor? now fresh g with
        | none => exact ⟨hopen, ⟨kept', rfl, hthin⟩, .same _⟩
        | some p =>
          have hstore := storeTokens_ignoresCodes p
          dsimp only
          rw [hstore.same, hstore.same]
          exact ⟨(hstore.poisoned s).trans hopen, ⟨kept', rfl, hthin⟩, .same _⟩
    · rw [exchange_of_refused fresh hauth ht, exchange_of_refused fresh hauth' ht']
      exact ⟨hopen, ⟨kept, rfl, hthin⟩, .late code client secret g f hg he hf⟩
  · have hauth' : ¬ (s.withCodes kept).authenticates client secret = true := hauth
    rw [exchange_refused fresh code hauth, exchange_refused fresh code hauth']
    exact ⟨hopen, ⟨kept, rfl, h⟩, .same _⟩

theorem purge_on_clock (hopen : s.codesPoisoned = false) (hnow : now.OnClock) :
    s.purge now = (s.withCodes (s.codes.filter fun _ g => !g.isOver now),
      .ok (s.codes.size - (s.codes.filter fun _ g => !g.isOver now).size)) := by
  rw [purge, if_neg (by simp [hopen]), if_pos (.inl hnow)]
  rfl

theorem purge_matched (hopen : s.codesPoisoned = false) (hnow : now.OnClock)
    (hlate : ∀ g, Reclaimed more g → g.isOver now = true) (h : Thinned more s.codes kept) :
    Matched more s now (s.step now .purge) ((s.withCodes kept).step now .purge) := by
  have hopen' : (s.withCodes kept).codesPoisoned = false := hopen
  dsimp only [step]
  rw [purge_on_clock hopen hnow, purge_on_clock hopen' hnow, codes_withCodes, h.filter_eq hlate]
  refine ⟨hopen, ⟨_, rfl, .refl more _⟩, .purge _ _ ?_⟩
  have hle := h.size_le
  omega

theorem countCodes_matched (hopen : s.codesPoisoned = false) (h : Thinned more s.codes kept) :
    Matched more s now (s.step now .countCodes) ((s.withCodes kept).step now .countCodes) := by
  have hcount : ∀ codes, (s.withCodes codes).pendingCodes = .ok codes.size := fun codes => by
    rw [pendingCodes, if_neg (by simp [withCodes, hopen])]
    rfl
  refine ⟨hopen, ⟨kept, rfl, h⟩, ?_⟩
  dsimp only [step]
  rw [hcount kept, show s.pendingCodes = _ from hcount s.codes]
  exact .countCodes _ _ h.size_le

theorem step_matched (hopen : s.codesPoisoned = false) (hnow : now.OnClock)
    (hlate : ∀ g, Reclaimed more g → g.isOver now = true) (h : Thinned more s.codes kept)
    (call : Call) : Matched more s now (s.step now call) ((s.withCodes kept).step now call) := by
  cases call with
  | register id secret redirectUri scopes =>
    have hf : IgnoresCodes fun s => s.step now (.register id secret redirectUri scopes) :=
      ⟨fun _ _ => rfl, fun _ => rfl⟩
    exact hf.matched hopen h
  | findClient id =>
    have hf : IgnoresCodes fun s => s.step now (.findClient id) :=
      ⟨fun _ _ => rfl, fun _ => rfl⟩
    exact hf.matched hopen h
  | issueCode fresh client subject redirectUri scopes =>
    exact issueCode_matched hopen h fresh client subject redirectUri scopes
  | exchange fresh code client secret =>
    exact exchange_matched hopen hnow hlate h fresh code client secret
  | validate access =>
    have hf : IgnoresCodes fun s => s.step now (.validate access) :=
      ⟨fun _ _ => rfl, fun _ => rfl⟩
    exact hf.matched hopen h
  | refresh fresh refresh =>
    have hr := refresh_ignoresCodes now fresh refresh
    have hf : IgnoresCodes fun s => s.step now (.refresh fresh refresh) := by
      refine ⟨fun s kept => ?_, hr.poisoned⟩
      dsimp only [step]
      rw [hr.same]
    exact hf.matched hopen h
  | revoke access =>
    have hr := revoke_ignoresCodes access
    have hf : IgnoresCodes fun s => s.step now (.revoke access) := by
      refine ⟨fun s kept => ?_, hr.poisoned⟩
      dsimp only [step]
      rw [hr.same]
    exact hf.matched hopen h
  | purge => exact purge_matched hopen hnow hlate h
  | countCodes => exact countCodes_matched hopen h

end Server

/-! ## Two runs -/

/-- The second list has the same calls, and more sweeps. The newest call stands
first. -/
inductive Swept : List (Instant × Call) → List (Instant × Call) → Prop
  | nil : Swept [] []
  | same {calls more : List (Instant × Call)} (q : Instant × Call) :
      Swept calls more → Swept (q :: calls) (q :: more)
  | sweep {calls more : List (Instant × Call)} (now : Instant) :
      Swept calls more → Swept calls ((now, .purge) :: more)

variable {settings : OAuthSettings} {calls more : List (Instant × Call)}

/-- What a sweep took out is expired at each later instant. -/
theorem Reclaimed.isOver {g : AuthorizationCode} {q : Instant × Call} (h : Reclaimed more g)
    (hf : Forward (q :: more)) : g.isOver q.1 = true := by
  obtain ⟨t, hm, ht⟩ := h
  have hle : t ≤ q.1 := List.rel_of_pairwise_cons hf hm
  exact (Instant.isAfter_iff q.1 g.expiresAt).2 (lt_of_lt_of_le ht hle)

theorem swept_run (hp : Swept calls more) (hf : Forward more) (hc : ∀ q ∈ more, q.1.OnClock) :
    (run settings calls).server.codesPoisoned = false ∧
      ∃ kept, (run settings more).server = (run settings calls).server.withCodes kept ∧
        Thinned more (run settings calls).server.codes kept := by
  induction hp with
  | nil => exact ⟨rfl, _, rfl, .refl [] _⟩
  | @same calls more q hp ih =>
    obtain ⟨now, call⟩ := q
    obtain ⟨hopen, kept, heq, hthin⟩ := ih hf.of_cons fun q hq => hc q (List.mem_cons_of_mem _ hq)
    have hstep := Server.step_matched hopen (hc _ List.mem_cons_self) (fun g hg => hg.isOver hf)
      hthin call
    rw [← heq] at hstep
    obtain ⟨kept', heq', hthin'⟩ := hstep.thinned
    exact ⟨hstep.unpoisoned, kept', heq', hthin'.later _⟩
  | @sweep calls more now hp ih =>
    obtain ⟨hopen, kept, heq, hthin⟩ := ih hf.of_cons fun q hq => hc q (List.mem_cons_of_mem _ hq)
    refine ⟨hopen, _, ?_, hthin.sweep now⟩
    have hopen' : ((run settings calls).server.withCodes kept).codesPoisoned = false := hopen
    rw [run_cons, heq]
    dsimp only [Server.step]
    rw [Server.purge_on_clock hopen' (hc _ List.mem_cons_self)]
    rfl

/-! ## The task that sweeps -/

/-- The calls of the task at some of its ticks. The newest call stands first. -/
def sweeps (wall : Nat → Instant) (ticks : List Nat) : List (Instant × Call) :=
  (ticks.map fun t => (wall t, Call.purge)).reverse

theorem sweeps_concat (wall : Nat → Instant) (ticks : List Nat) (t : Nat) :
    sweeps wall (ticks ++ [t]) = (wall t, .purge) :: sweeps wall ticks := by
  simp [sweeps]

/-- The ticks of the task are sweeps. -/
theorem run_sweeps (settings : OAuthSettings) (calls : List (Instant × Call))
    (wall : Nat → Instant) (ticks : List Nat) :
    (run settings (sweeps wall ticks ++ calls)).server =
      Sweep.run (run settings calls).server wall ticks := by
  induction ticks using List.reverseRecOn with
  | nil => rfl
  | append_singleton ticks t ih =>
    rw [sweeps_concat, List.cons_append, run_cons, ih]
    simp [Sweep.run, Server.step]

theorem Swept.sweeps (hp : Swept calls more) (wall : Nat → Instant) (ticks : List Nat) :
    Swept calls (sweeps wall ticks ++ more) := by
  induction ticks using List.reverseRecOn with
  | nil => exact hp
  | append_singleton ticks t ih =>
    rw [sweeps_concat]
    exact .sweep (wall t) ih

/-! ## The law -/

/-- A run with more sweeps, on a clock that does not go back, leaves the same
clients and the same tokens, and the same codes but for some that are expired.
Each call after both succeeds alike: only an exchange of an expired code may be
refused for another reason, and there may be less to count. The ticks of the
task that sweeps are such sweeps. -/
theorem a_sweep_only_reclaims_memory (hp : Swept calls more) (hf : Forward more)
    (hc : ∀ q ∈ more, q.1.OnClock) :
    let s := (run settings calls).server
    let s' := (run settings more).server
    s'.clients = s.clients ∧ s'.tokens = s.tokens ∧
      (∀ code g, s'.codes.get? code = some g → s.codes.get? code = some g) ∧
      (∀ code g, s.codes.get? code = some g → s'.codes.get? code = none →
        ∃ t, (t, .purge) ∈ more ∧ g.isOver t = true) ∧
      (∀ now call, now.OnClock → Forward ((now, call) :: more) →
        let a := (s.step now call).2
        let b := (s'.step now call).2
        Act.Alike s now a b ∧ b.succeeds = a.succeeds ∧
          (a.succeeds = true → b.uncounted = a.uncounted)) ∧
      ∀ wall ticks, Swept calls (sweeps wall ticks ++ more) ∧
        (run settings (sweeps wall ticks ++ more)).server = Sweep.run s' wall ticks := by
  intro s s'
  obtain ⟨hopen, kept, heq, hthin⟩ := @swept_run settings _ _ hp hf hc
  change s' = s.withCodes kept at heq
  have hcodes : s'.codes = kept := congrArg Server.codes heq
  refine ⟨by rw [heq]; rfl, by rw [heq]; rfl, ?_, ?_, ?_, ?_⟩
  · rw [hcodes]
    exact hthin.held
  · intro code g hg hnone
    rw [hcodes] at hnone
    obtain ⟨t, hm, ht⟩ := hthin.missing code g hg hnone
    exact ⟨t, hm, (Instant.isAfter_iff t g.expiresAt).2 ht⟩
  · intro now call hnow hf'
    have hstep := Server.step_matched hopen hnow (fun g hg => hg.isOver hf') hthin call
    rw [← heq] at hstep
    exact ⟨hstep.alike, hstep.alike.success⟩
  · intro wall ticks
    exact ⟨hp.sweeps wall ticks, run_sweeps settings more wall ticks⟩

/-- The code of the arrival counts up to second 630. A sweep after that takes
it out, and a late exchange is refused for another reason. -/
theorem a_late_visitor_is_refused_all_the_same :
    Swept arrival ((⟨631, 0⟩, .purge) :: arrival) ∧
      Forward ((⟨631, 0⟩, .purge) :: arrival) ∧
      (run {} ((⟨631, 0⟩, .purge) :: arrival)).server.clients = (run {} arrival).server.clients ∧
      ((run {} ((⟨631, 0⟩, .purge) :: arrival)).server.step ⟨640, 0⟩
        (.exchange ⟨"access 1", "refresh 1"⟩ "code 1" "app" "hush")).2.succeeds = false := by
  have hp : Swept arrival ((⟨631, 0⟩, .purge) :: arrival) := .sweep _ (.same _ (.same _ .nil))
  have hf : Forward ((⟨631, 0⟩, .purge) :: arrival) := by decide
  have hc : ∀ q ∈ (⟨631, 0⟩, .purge) :: arrival, q.1.OnClock := by decide
  obtain ⟨hclients, _, _, _, hcalls, _⟩ := @a_sweep_only_reclaims_memory {} _ _ hp hf hc
  obtain ⟨_, hlate, _⟩ := hcalls ⟨640, 0⟩
    (.exchange ⟨"access 1", "refresh 1"⟩ "code 1" "app" "hush") (by decide) (by decide)
  exact ⟨hp, hf, hclients, hlate.trans (by decide)⟩

end Warrant.OAuth
