-- The laws of codes and tokens under concurrent calls. Steps of other calls
-- can fall between the steps of an exchange, while it holds a code that is in
-- no map any more.
--
-- So the invariant speaks of the calls in flight: a code that a call took out
-- stays the call's own, from the step that takes it to the answer and after.
-- The code is not in the map, no other call has it, and since its text was
-- made up once it never comes back.
import Warrant.Proofs.OAuth.Interleaving
import Warrant.Proofs.OAuth.IssuedCodes
import Warrant.Proofs.OAuth.TokenLife

namespace Warrant.OAuth

variable {settings : OAuthSettings} {calls : Nat → Call} {schedule : List (Instant × Nat)}

/-! ## Tokens between the steps -/

section

variable {s s' : Server} {log : List Event} {now : Instant} {call : Call} {stage next : Stage}

end

/-- Answers are in the log, and no two calls made up one text. -/
structure World.Distinct (w : World) : Prop where
  logged : ∀ i a, w.stage i = .answered a → ∃ t, ⟨t, a⟩ ∈ w.log
  apart : ∀ i j a b, i ≠ j → w.stage i = .answered a → w.stage j = .answered b →
    ∀ k k' text, (k, text) ∈ a.made → (k', text) ∉ b.made

theorem World.Distinct.made {w : World} (h : w.Distinct) {i : Nat} {a : Act}
    (hi : w.stage i = .answered a) {k : Purpose} {text : String} (hk : (k, text) ∈ a.made) :
    (k, text) ∈ made w.log := by
  obtain ⟨t, hm⟩ := h.logged i a hi
  exact List.mem_flatMap.2 ⟨_, hm, hk⟩

theorem World.Distinct.reach {w : World} (h : w.Distinct) {now : Instant} {i : Nat} {s' : Server}
    {next : Stage} (ho : Orderly (next.events now ++ w.log)) :
    (w.reach now i s' next).Distinct := by
  -- a text of this answer is in no answer before it
  have hnew : ∀ j a b, j ≠ i → next = .answered a → w.stage j = .answered b →
      ∀ k k' text, (k, text) ∈ a.made → (k', text) ∉ b.made := by
    rintro j a b hj rfl hb k k' text hk hk'
    exact ho.new_text (e := ⟨now, a⟩) hk (h.made hb hk')
  constructor
  · intro j a hj
    by_cases hji : j = i
    · subst hji
      rw [reach_stage] at hj
      subst hj
      exact ⟨now, List.mem_cons_self⟩
    · rw [reach_stage_of_ne hji] at hj
      obtain ⟨t, hm⟩ := h.logged j a hj
      exact ⟨t, List.mem_append_right _ hm⟩
  · intro j l a b hne ha hb k k' text hk hk'
    by_cases hji : j = i
    · subst hji
      rw [reach_stage] at ha
      rw [reach_stage_of_ne (Ne.symm hne)] at hb
      exact hnew l a b (Ne.symm hne) ha hb k k' text hk hk'
    · rw [reach_stage_of_ne hji] at ha
      by_cases hli : l = i
      · subst hli
        rw [reach_stage] at hb
        exact hnew j b a hji hb ha k' k text hk' hk
      · rw [reach_stage_of_ne hli] at hb
        exact h.apart j l a b hne ha hb k k' text hk hk'

/-- The call took a code out, and has it in hand or answered with tokens for
it. -/
def Stage.spends : Stage → Bool
  | holds _ => true
  | brings _ => true
  | answered (.exchange _ _ _ (.ok _)) => true
  | _ => false

theorem Stage.grants_of_spends {a : Act} (h : (answered a).spends = true) : a.grants = true := by
  cases a with
  | exchange code client secret answer =>
    cases answer with
    | error f => cases h
    | ok p => rfl
  | _ => cases h

/-- The call took out this code. -/
def World.Claims (calls : Nat → Call) (w : World) (i : Nat) (code : String) : Prop :=
  (∃ fresh client secret, calls i = .exchange fresh code client secret) ∧
    (w.stage i).spends = true

/-- A code that a call took out is not in the map, and no other call took
it. -/
structure World.Exclusive (calls : Nat → Call) (w : World) : Prop where
  gone : ∀ i code, w.Claims calls i code → w.server.codes.get? code = none
  made : ∀ i code, w.Claims calls i code → (.code, code) ∈ made w.log
  one : ∀ i j code, w.Claims calls i code → w.Claims calls j code → i = j

section

variable {s s' : Server} {now : Instant} {call : Call} {stage next : Stage}

/-- A call of one step, or a call that is refused, brings in no code. -/
theorem Change.codes {a : Act} (hc : Change s now a s') (ha : a.grants = false) {code : String}
    {g : AuthorizationCode} (hg : s'.codes.get? code = some g) : s.codes.get? code = some g := by
  cases hc with
  | issue g' hr ht => cases ha
  | exchange fresh code' secret g' p hauth hg' he hp => cases ha
  | expire code' secret g' hg' he => exact (KeyMap.get?_erase_eq_some_iff.1 hg).2
  | purge kept hk =>
    subst hk
    exact (KeyMap.get?_filter_eq_some_iff.1 hg).1
  | _ => exact hg

/-- A code comes into the map only from a call that offers it. -/
theorem Move.codes (hm : Move s now call stage next s') {code : String} {g : AuthorizationCode}
    (hg : s'.codes.get? code = some g) :
    s.codes.get? code = some g ∨ code = g.code ∧ stage = .offers g ∧
      ∃ fresh client subject redirectUri scopes,
        call = .issueCode fresh client subject redirectUri scopes ∧
        next = .answered (.issueCode client subject redirectUri scopes (.ok g.code)) := by
  cases hm with
  | publish fresh client subject redirectUri scopes g' =>
    rw [KeyMap.get?_insert] at hg
    split at hg
    · rename_i he
      cases hg
      exact .inr ⟨he, rfl, fresh, client, subject, redirectUri, scopes, rfl, rfl⟩
    · exact .inl hg
  | take fresh code' secret g' hg' he => exact .inl (KeyMap.get?_erase_eq_some_iff.1 hg).2
  | settle _ _ a _ _ ha hc => exact .inl (hc.codes ha hg)
  | _ => exact .inl hg

/-- A call that spends a code did so before, or takes it now. -/
theorem Move.spends (hm : Move s now call stage next s') (hn : next.spends = true) :
    stage.spends = true ∨ ∃ fresh code secret g, call = .exchange fresh code g.client secret ∧
      s.codes.get? code = some g ∧ s'.codes.get? code = none := by
  cases hm with
  | take fresh code secret g hg he =>
    refine .inr ⟨fresh, code, secret, g, rfl, hg, ?_⟩
    exact (KeyMap.get?_erase ..).trans (if_pos rfl)
  | mint fresh code client secret g p hp => exact .inl rfl
  | grant fresh code client secret p => exact .inl rfl
  | settle _ _ a _ _ ha hc =>
    rw [Stage.grants_of_spends hn] at ha
    cases ha
  | _ => cases hn

end

theorem World.Exclusive.reach {w : World} (h : w.Exclusive calls) (hk : Known w.server w.log)
    {now : Instant} {i : Nat} {s' : Server} {next : Stage}
    (ho : Orderly (next.events now ++ w.log))
    (hm : Move w.server now (calls i) (w.stage i) next s') :
    (w.reach now i s' next).Exclusive calls := by
  -- a claim is an old one, or this call took the code out of the map
  have hclaims : ∀ j code, (w.reach now i s' next).Claims calls j code →
      w.Claims calls j code ∨ j = i ∧ (∃ g, w.server.codes.get? code = some g) ∧
        s'.codes.get? code = none := by
    rintro j code ⟨hj, hspends⟩
    by_cases hji : j = i
    · subst hji
      rw [reach_stage] at hspends
      rcases hm.spends hspends with hold | ⟨fresh, code', secret, g, hcall, hg, hgone⟩
      · exact .inl ⟨hj, hold⟩
      · obtain ⟨fresh', client, secret', hcall'⟩ := hj
        rw [hcall'] at hcall
        cases hcall
        exact .inr ⟨rfl, ⟨g, hg⟩, hgone⟩
    · rw [reach_stage_of_ne hji] at hspends
      exact .inl ⟨hj, hspends⟩
  constructor
  · intro j code hj
    rcases hclaims j code hj with hold | ⟨_, _, hgone⟩
    · refine Option.eq_none_iff_forall_ne_some.2 fun g hg => ?_
      rcases hm.codes hg with hin | ⟨rfl, _, _, _, _, _, _, _, rfl⟩
      · rw [h.gone j code hold] at hin
        cases hin
      · exact ho.new_text (k := .code) (by simp [Act.made]) (h.made j g.code hold)
    · exact hgone
  · intro j code hj
    have hmade : (.code, code) ∈ OAuth.made w.log := by
      rcases hclaims j code hj with hold | ⟨_, ⟨g, hg⟩, _⟩
      · exact h.made j code hold
      · exact hk.code code g hg
    obtain ⟨e, he, hm⟩ := List.mem_flatMap.1 hmade
    exact List.mem_flatMap.2 ⟨e, List.mem_append_right _ he, hm⟩
  · intro j l code hj hl
    rcases hclaims j code hj with hold | ⟨hji, ⟨g, hg⟩, _⟩
    · rcases hclaims l code hl with hold' | ⟨_, ⟨g, hg⟩, _⟩
      · exact h.one j l code hold hold'
      · rw [h.gone j code hold] at hg
        cases hg
    · rcases hclaims l code hl with hold' | ⟨hli, _, _⟩
      · rw [h.gone l code hold'] at hg
        cases hg
      · exact hji.trans hli.symm

/-- The call issued the code, ten minutes before its last instant. -/
def IssuedBy (settings : OAuthSettings) (calls : Nat → Call) (schedule : List (Instant × Nat))
    (k : Nat) (g : AuthorizationCode) : Prop :=
  (play settings calls schedule).stage k = .answered g.issue ∧
    ∃ t, Went settings calls schedule k t .admitted (.offers g) ∧
      g.expiresAt = t.later Server.codeTtl

/-- The exchange took the code out in time. The code was issued to its
client. -/
def TookBy (settings : OAuthSettings) (calls : Nat → Call) (schedule : List (Instant × Nat))
    (i : Nat) (g : AuthorizationCode) : Prop :=
  (∃ fresh secret, calls i = .exchange fresh g.code g.client secret) ∧
    (∃ t, Went settings calls schedule i t .admitted (.holds g) ∧ t ≤ g.expiresAt) ∧
    ∃ k, IssuedBy settings calls schedule k g

theorem IssuedBy.later {older : List (Instant × Nat)} {k : Nat} {g : AuthorizationCode}
    (h : IssuedBy settings calls older k g) (newer : List (Instant × Nat)) :
    IssuedBy settings calls (newer ++ older) k g := by
  obtain ⟨ha, t, hw, ht⟩ := h
  exact ⟨answered_later ha newer, t, hw.later newer, ht⟩

theorem TookBy.later {older : List (Instant × Nat)} {i : Nat} {g : AuthorizationCode}
    (h : TookBy settings calls older i g) (newer : List (Instant × Nat)) :
    TookBy settings calls (newer ++ older) i g := by
  obtain ⟨hcall, ⟨t, hw, ht⟩, k, hk⟩ := h
  exact ⟨hcall, ⟨t, hw.later newer, ht⟩, k, hk.later newer⟩

/-- The call answered with this pair, as the exchange of the client's code. -/
def World.Exchanged (w : World) (i : Nat) (code client : String) (p : TokenPair) : Prop :=
  ∃ secret, w.stage i = .answered (.exchange code client secret (.ok p))

theorem World.Distinct.texts {w : World} (h : w.Distinct) {i j : Nat} (hne : i ≠ j)
    {code client code' client' : String} {p q : TokenPair} (hi : w.Exchanged i code client p)
    (hj : w.Exchanged j code' client' q) :
    p.access ≠ q.access ∧ p.refresh ≠ q.refresh ∧ p.access ≠ q.refresh := by
  obtain ⟨secret, hi⟩ := hi
  obtain ⟨secret', hj⟩ := hj
  have happart := h.apart i j _ _ hne hi hj
  refine ⟨fun he => ?_, fun he => ?_, fun he => ?_⟩
  · exact happart .access .access p.access (by simp [Act.made]) (by simp [Act.made, he])
  · exact happart .refresh .refresh p.refresh (by simp [Act.made]) (by simp [Act.made, he])
  · exact happart .access .refresh p.access (by simp [Act.made]) (by simp [Act.made, he])

end Warrant.OAuth
