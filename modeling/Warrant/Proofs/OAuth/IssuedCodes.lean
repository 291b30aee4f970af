-- What a log says of clients and codes, and that the server follows it. A code
-- leaves the server when it is exchanged, when it is looked up too late, and in
-- a sweep. The last two take out only what is expired at that instant.
import Warrant.Proofs.OAuth.Run

namespace Warrant.OAuth

/-! ## What a log says of clients and codes -/

/-- The client that a call registers under an id. -/
def Act.registers? (id : String) : Act → Option Client
  | register id' secret redirectUri scopes =>
    if id' = id then some ⟨id', secret, redirectUri, KeySet.ofList scopes⟩ else none
  | _ => none

/-- The client of the latest registration under an id. -/
def latestClient (log : List Event) (id : String) : Option Client :=
  log.findSome? fun e => e.act.registers? id

/-- The call that issues a code. -/
abbrev AuthorizationCode.issue (g : AuthorizationCode) : Act :=
  .issueCode g.client g.subject g.redirectUri g.scopes (.ok g.code)

/-- The code was issued with this record. -/
def Issued (log : List Event) (g : AuthorizationCode) : Prop :=
  ∃ t, ⟨t, g.issue⟩ ∈ log ∧ g.expiresAt = t.later Server.codeTtl

/-- The client exchanged the code for tokens. -/
def SpentBy (log : List Event) (client code : String) : Prop :=
  ∃ t secret p, ⟨t, .exchange code client secret (.ok p)⟩ ∈ log

/-- Some client exchanged the code for tokens. -/
def Spent (log : List Event) (code : String) : Prop := ∃ client, SpentBy log client code

theorem latestClient_cons {e : Event} {log : List Event} {id : String} :
    latestClient (e :: log) id = (e.act.registers? id).or (latestClient log id) := by
  unfold latestClient
  rw [List.findSome?_cons]
  cases e.act.registers? id <;> rfl

theorem issued_cons {e : Event} {log : List Event} {g : AuthorizationCode} :
    Issued (e :: log) g ↔
      (e.act = g.issue ∧ g.expiresAt = e.now.later Server.codeTtl) ∨ Issued log g := by
  constructor
  · rintro ⟨t, hm, ht⟩
    rcases List.mem_cons.1 hm with rfl | hm
    · exact .inl ⟨rfl, ht⟩
    · exact .inr ⟨t, hm, ht⟩
  · rintro (⟨ha, ht⟩ | ⟨t, hm, ht⟩)
    · exact ⟨e.now, ha ▸ List.mem_cons_self, ht⟩
    · exact ⟨t, List.mem_cons_of_mem e hm, ht⟩

theorem spentBy_cons {e : Event} {log : List Event} {client code : String} :
    SpentBy (e :: log) client code ↔
      (∃ secret p, e.act = .exchange code client secret (.ok p)) ∨ SpentBy log client code := by
  constructor
  · rintro ⟨t, secret, p, hm⟩
    rcases List.mem_cons.1 hm with rfl | hm
    · exact .inl ⟨secret, p, rfl⟩
    · exact .inr ⟨t, secret, p, hm⟩
  · rintro (⟨secret, p, ha⟩ | ⟨t, secret, p, hm⟩)
    · exact ⟨e.now, secret, p, ha ▸ List.mem_cons_self⟩
    · exact ⟨t, secret, p, List.mem_cons_of_mem e hm⟩

theorem Issued.made {log : List Event} {g : AuthorizationCode} (h : Issued log g) :
    (.code, g.code) ∈ made log := by
  obtain ⟨t, hm, _⟩ := h
  exact List.mem_flatMap.2 ⟨_, hm, by simp [Act.made]⟩

/-- A code was issued with one record. -/
theorem Issued.unique {log : List Event} (ho : Orderly log) {g g' : AuthorizationCode}
    (h : Issued log g) (h' : Issued log g') (hcode : g.code = g'.code) : g = g' := by
  obtain ⟨t, hm, ht⟩ := h
  obtain ⟨t', hm', ht'⟩ := h'
  have h1 : (.code, g.code) ∈ g.issue.made := by simp [Act.made]
  have h2 : (.code, g.code) ∈ g'.issue.made := by simp [Act.made, hcode]
  have he := ho.one_maker hm hm' h1 h2
  cases g
  cases g'
  simp_all

/-! ## The clients of a run -/

variable {settings : OAuthSettings}

theorem client?_change {s s' : Server} {log : List Event} {now : Instant} {a : Act}
    (h : ∀ id, s.client? id = latestClient log id) (hc : Change s now a s') (id : String) :
    s'.client? id = latestClient (⟨now, a⟩ :: log) id := by
  rw [latestClient_cons, ← h id]
  cases hc with
  | register id' secret redirectUri scopes =>
    unfold Server.client? Server.register
    rw [KeyMap.get?_insert, Act.registers?]
    by_cases he : id = id'
    · simp [he]
    · simp [he, Ne.symm he]
  | idle a ha =>
    cases a with
    | register => simp [Act.idle] at ha
    | _ => rfl
  | _ => rfl

theorem client?_run (calls : List (Instant × Call)) (h : Orderly (run settings calls).log)
    (id : String) : (run settings calls).server.client? id =
      latestClient (run settings calls).log id :=
  run_induct (P := fun s log => ∀ id, s.client? id = latestClient log id) (fun _ => rfl)
    (fun _ _ _ _ _ ih hc => client?_change ih hc) calls h id

/-! ## The codes of a run -/

/-- The codes that the server holds, against those of the log. A code that is
missing was exchanged, or its time was over at some call. -/
structure Follows (s : Server) (log : List Event) : Prop where
  held : ∀ code g, s.codes.get? code = some g → g.code = code ∧ Issued log g ∧ ¬ Spent log code
  owned : ∀ client code, SpentBy log client code →
    ∃ g, Issued log g ∧ g.client = client ∧ g.code = code
  kept : ∀ g, Issued log g → ¬ Spent log g.code →
    s.codes.get? g.code = some g ∨ ∃ e ∈ log, g.expiresAt < e.now

theorem Follows.made_of_spent {s : Server} {log : List Event} (h : Follows s log) {code : String}
    (hsp : Spent log code) : (.code, code) ∈ made log := by
  obtain ⟨client, hsp⟩ := hsp
  obtain ⟨g, hg, _, rfl⟩ := h.owned client code hsp
  exact hg.made

/-- A call that issues and exchanges nothing, and only drops expired codes. -/
theorem Follows.thin {s s' : Server} {e : Event} {log : List Event} (h : Follows s log)
    (hi : ∀ g, Issued (e :: log) g → Issued log g)
    (hs : ∀ client code, SpentBy (e :: log) client code → SpentBy log client code)
    (hless : ∀ code g, s'.codes.get? code = some g → s.codes.get? code = some g)
    (hgone : ∀ code g, s.codes.get? code = some g →
      s'.codes.get? code = some g ∨ g.expiresAt < e.now) : Follows s' (e :: log) := by
  constructor
  · intro code g hg
    obtain ⟨h1, h2, h3⟩ := h.held code g (hless code g hg)
    exact ⟨h1, issued_cons.2 (.inr h2), fun ⟨client, hsp⟩ => h3 ⟨client, hs client code hsp⟩⟩
  · intro client code hsp
    obtain ⟨g, hg, hc⟩ := h.owned client code (hs client code hsp)
    exact ⟨g, issued_cons.2 (.inr hg), hc⟩
  · intro g hg hsp
    have hold : ¬ Spent log g.code := fun ⟨client, hc⟩ => hsp ⟨client, spentBy_cons.2 (.inr hc)⟩
    rcases h.kept g (hi g hg) hold with hget | ⟨e', he', ht⟩
    · rcases hgone g.code g hget with hget' | ht
      · exact .inl hget'
      · exact .inr ⟨e, List.mem_cons_self, ht⟩
    · exact .inr ⟨e', List.mem_cons_of_mem e he', ht⟩

/-- A call that issues and exchanges nothing, and leaves the codes alone. -/
theorem Follows.untouched {s s' : Server} {e : Event} {log : List Event} (h : Follows s log)
    (hi : ∀ g, Issued (e :: log) g → Issued log g)
    (hs : ∀ client code, SpentBy (e :: log) client code → SpentBy log client code)
    (hcodes : s'.codes = s.codes) : Follows s' (e :: log) :=
  h.thin hi hs (fun _ _ hg => hcodes ▸ hg) (fun _ _ hg => .inl (hcodes ▸ hg))

theorem Follows.issue {s : Server} {log : List Event} {now : Instant} {g : AuthorizationCode}
    (h : Follows s log) (ho : Orderly (⟨now, g.issue⟩ :: log))
    (ht : g.expiresAt = now.later Server.codeTtl) :
    Follows { s with codes := s.codes.insert g.code g } (⟨now, g.issue⟩ :: log) := by
  have hnew : (.code, g.code) ∉ made log := ho.new_text (k := .code) (by simp [Act.made])
  have hspent : ∀ client code,
      SpentBy (⟨now, g.issue⟩ :: log) client code ↔ SpentBy log client code :=
    fun client code => by simp [spentBy_cons]
  constructor
  · intro code g' hg'
    simp only [Spent, hspent]
    rw [KeyMap.get?_insert] at hg'
    split at hg'
    · rename_i he
      cases hg'
      subst he
      exact ⟨rfl, issued_cons.2 (.inl ⟨rfl, ht⟩), fun hsp => hnew (h.made_of_spent hsp)⟩
    · obtain ⟨h1, h2, h3⟩ := h.held code g' hg'
      exact ⟨h1, issued_cons.2 (.inr h2), h3⟩
  · intro client code hsp
    obtain ⟨g', hg', hc⟩ := h.owned client code ((hspent client code).1 hsp)
    exact ⟨g', issued_cons.2 (.inr hg'), hc⟩
  · intro g' hg' hsp
    simp only [Spent, hspent] at hsp
    rcases issued_cons.1 hg' with ⟨ha, hx⟩ | hold
    · left
      have hgg : g' = g := by
        cases g'
        cases g
        simp_all
      rw [hgg, KeyMap.get?_insert, if_pos rfl]
    · have hne : g'.code ≠ g.code := fun he => hnew (he ▸ hold.made)
      rw [KeyMap.get?_insert, if_neg hne]
      rcases h.kept g' hold hsp with hget | ⟨e, he, hx⟩
      · exact .inl hget
      · exact .inr ⟨e, List.mem_cons_of_mem _ he, hx⟩

theorem Follows.exchange {s : Server} {log : List Event} {now : Instant} {code secret : String}
    {g : AuthorizationCode} {p : TokenPair} {tokens : TokenIndex} (h : Follows s log)
    (hg : s.codes.get? code = some g) :
    Follows { s with codes := s.codes.erase code, tokens := tokens }
      (⟨now, .exchange code g.client secret (.ok p)⟩ :: log) := by
  obtain ⟨hcode, hissued, _⟩ := h.held code g hg
  have hi : ∀ g', Issued (⟨now, .exchange code g.client secret (.ok p)⟩ :: log) g' ↔
      Issued log g' := fun g' => by simp [issued_cons]
  have hspent : ∀ client code', SpentBy (⟨now, .exchange code g.client secret (.ok p)⟩ :: log)
      client code' ↔ (code' = code ∧ client = g.client) ∨ SpentBy log client code' :=
    fun client code' => by simp [spentBy_cons, eq_comm]
  constructor
  · intro code' g' hg'
    obtain ⟨hne, hget⟩ := KeyMap.get?_erase_eq_some_iff.1 hg'
    obtain ⟨h1, h2, h3⟩ := h.held code' g' hget
    refine ⟨h1, (hi g').2 h2, fun ⟨client, hsp⟩ => ?_⟩
    rcases (hspent client code').1 hsp with ⟨he, _⟩ | hsp
    · exact hne he
    · exact h3 ⟨client, hsp⟩
  · intro client code' hsp
    rcases (hspent client code').1 hsp with ⟨rfl, rfl⟩ | hsp
    · exact ⟨g, (hi g).2 hissued, rfl, hcode⟩
    · obtain ⟨g', hg', hc⟩ := h.owned client code' hsp
      exact ⟨g', (hi g').2 hg', hc⟩
  · intro g' hg' hsp
    have hne : g'.code ≠ code :=
      fun he => hsp ⟨g.client, (hspent g.client g'.code).2 (.inl ⟨he, rfl⟩)⟩
    have hold : ¬ Spent log g'.code :=
      fun ⟨client, hc⟩ => hsp ⟨client, (hspent client g'.code).2 (.inr hc)⟩
    rw [KeyMap.get?_erase, if_neg hne]
    rcases h.kept g' ((hi g').1 hg') hold with hget | ⟨e, he, hx⟩
    · exact .inl hget
    · exact .inr ⟨e, List.mem_cons_of_mem _ he, hx⟩

theorem expiresAt_lt {g : AuthorizationCode} {now : Instant} (h : g.isOver now = true) :
    g.expiresAt < now :=
  (Instant.isAfter_iff now g.expiresAt).1 h

theorem follows_change {s s' : Server} {log : List Event} {now : Instant} {a : Act}
    (ho : Orderly (⟨now, a⟩ :: log)) (h : Follows s log) (hc : Change s now a s') :
    Follows s' (⟨now, a⟩ :: log) := by
  cases hc with
  | issue g hr ht => exact h.issue ho (Instant.plusSeconds?_eq_some ht)
  | exchange fresh code secret g p hauth hg he hp => exact h.exchange hg
  | expire code secret g hg he =>
    refine h.thin (by simp [issued_cons]) (by simp [spentBy_cons]) ?_ ?_
    · exact fun code' g' hg' => (KeyMap.get?_erase_eq_some_iff.1 hg').2
    · intro code' g' hg'
      by_cases hcode : code' = code
      · rw [hcode, hg] at hg'
        cases hg'
        exact .inr (expiresAt_lt he)
      · exact .inl (KeyMap.get?_erase_eq_some_iff.2 ⟨hcode, hg'⟩)
  | purge kept hk =>
    subst hk
    refine h.thin (by simp [issued_cons]) (by simp [spentBy_cons]) ?_ ?_
    · exact fun code g hg => (KeyMap.get?_filter_eq_some_iff.1 hg).1
    · intro code g hg
      cases he : g.isOver now with
      | true => exact .inr (expiresAt_lt he)
      | false => exact .inl (KeyMap.get?_filter_eq_some_iff.2 ⟨hg, by simp [he]⟩)
  | register id secret redirectUri scopes =>
    exact h.untouched (by simp [issued_cons]) (by simp [spentBy_cons]) rfl
  | refresh fresh refresh p expiresAt hp ht =>
    exact h.untouched (by simp [issued_cons]) (by simp [spentBy_cons]) rfl
  | revoke access =>
    exact h.untouched (by simp [issued_cons]) (by simp [spentBy_cons]) rfl
  | idle a ha =>
    refine h.untouched ?_ ?_ rfl
    · intro g hg
      refine (issued_cons.1 hg).resolve_left ?_
      rintro ⟨rfl, _⟩
      simp [Act.idle] at ha
    · intro client code hsp
      refine (spentBy_cons.1 hsp).resolve_left ?_
      rintro ⟨secret, p, rfl⟩
      simp [Act.idle] at ha

theorem follows_run (calls : List (Instant × Call)) (h : Orderly (run settings calls).log) :
    Follows (run settings calls).server (run settings calls).log :=
  run_induct (P := Follows)
    ⟨by simp [Server.new], by simp [SpentBy], by simp [Issued]⟩
    (fun _ _ _ _ ho ih hc => follows_change ho ih hc) calls h

end Warrant.OAuth
