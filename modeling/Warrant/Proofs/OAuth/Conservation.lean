-- Codes are neither lost nor counted twice. Each call that issues a code adds
-- one, and a code leaves in one of three ways: it is exchanged, it is found
-- expired, or a purge drops it and counts it.
--
-- The clock may go either way: an expired code that is still held may count
-- again. So the balance goes by what was answered and by the number of codes
-- that are held, and never by what is expired.
import Mathlib.Algebra.GroupWithZero.Nat
import Warrant.Proofs.OAuth.Run

namespace Warrant.OAuth

/-! ## What a log says of codes -/

namespace Act

/-- The code that a call issues. -/
def issued? : Act → Option String
  | issueCode _ _ _ _ (.ok code) => some code
  | _ => none

/-- The call exchanged its code for tokens. -/
def exchanges : Act → Bool
  | exchange _ _ _ (.ok _) => true
  | _ => false

/-- The call found its code expired. -/
def findsExpired : Act → Bool
  | exchange _ _ _ (.error (.refused .codeExpired)) => true
  | _ => false

/-- The number of codes that a purge says it dropped. -/
def purged : Act → Nat
  | purge (.ok n) => n
  | _ => 0

end Act

/-- The codes of all calls that issued one. -/
def issuedCodes (log : List Event) : List String := log.filterMap fun e => e.act.issued?

/-- The number of codes that all purges say they dropped. -/
def purgedCodes (log : List Event) : Nat := (log.map fun e => e.act.purged).sum

/-- No call died, and no code was issued twice. -/
structure IssuesOnce (log : List Event) : Prop where
  alive : Alive log
  once : (issuedCodes log).Nodup

instance (log : List Event) : Decidable (IssuesOnce log) :=
  decidable_of_iff ((∀ e ∈ log, e.act.died = false) ∧ (issuedCodes log).Nodup)
    ⟨fun h => ⟨h.1, h.2⟩, fun h => ⟨h.alive, h.once⟩⟩

theorem issuedCodes_cons (e : Event) (log : List Event) :
    issuedCodes (e :: log) = e.act.issued?.toList ++ issuedCodes log := by
  unfold issuedCodes
  rw [List.filterMap_cons]
  cases e.act.issued? <;> rfl

theorem purgedCodes_cons (e : Event) (log : List Event) :
    purgedCodes (e :: log) = e.act.purged + purgedCodes log := by
  simp [purgedCodes]

theorem IssuesOnce.tail {e : Event} {log : List Event} (h : IssuesOnce (e :: log)) :
    IssuesOnce log := by
  refine ⟨h.alive.tail, ?_⟩
  have honce := h.once
  rw [issuedCodes_cons] at honce
  exact (List.nodup_append.1 honce).2.1

/-- A code that is issued now was not issued before. -/
theorem IssuesOnce.new_code {e : Event} {log : List Event} (h : IssuesOnce (e :: log))
    {code : String} (hcode : e.act.issued? = some code) : code ∉ issuedCodes log := by
  have honce := h.once
  rw [issuedCodes_cons, hcode] at honce
  exact (List.nodup_cons.1 honce).1

/-! ## The balance -/

/-- The codes that a server holds were issued, and each issued code is either
held or was counted once when it left. -/
structure Balanced (s : Server) (log : List Event) : Prop where
  held : ∀ code g, s.codes.get? code = some g → code ∈ issuedCodes log
  count : (issuedCodes log).length =
    log.countP (·.act.exchanges) + log.countP (·.act.findsExpired) + purgedCodes log + s.codes.size

variable {s s' : Server} {now : Instant} {a : Act} {log : List Event}

theorem balanced_new (settings : OAuthSettings) : Balanced (.new settings) [] :=
  ⟨by simp [Server.new], rfl⟩

/-- A call that issues no code. The codes after it were held before, and those
that are missing are the ones that it counts. -/
theorem Balanced.thin (h : Balanced s log) (hissued : a.issued? = none)
    (hheld : ∀ code g, s'.codes.get? code = some g → s.codes.get? code = some g)
    (hcount : s.codes.size =
      a.exchanges.toNat + a.findsExpired.toNat + a.purged + s'.codes.size) :
    Balanced s' (⟨now, a⟩ :: log) := by
  have hcodes : issuedCodes (⟨now, a⟩ :: log) = issuedCodes log := by
    rw [issuedCodes_cons, hissued]
    rfl
  refine ⟨fun code g hg => ?_, ?_⟩
  · rw [hcodes]
    exact h.held code g (hheld code g hg)
  · have hbefore := h.count
    have hbit : ∀ b : Bool, (if b = true then 1 else 0) = b.toNat := by decide
    simp only [hcodes, purgedCodes_cons, List.countP_cons, hbit]
    omega

/-- A call that takes one code away, and counts it. -/
theorem Balanced.taken (h : Balanced s log) (hissued : a.issued? = none)
    (hcounted : a.exchanges.toNat + a.findsExpired.toNat = 1) (hpurged : a.purged = 0)
    {code : String} {g : AuthorizationCode} (hg : s.codes.get? code = some g)
    (hcodes : s'.codes = s.codes.erase code) : Balanced s' (⟨now, a⟩ :: log) := by
  apply h.thin hissued
  · intro code' g' hg'
    rw [hcodes] at hg'
    exact (KeyMap.get?_erase_eq_some_iff.1 hg').2
  · have hsize := KeyMap.size_erase hg
    rw [hcounted, hpurged, hcodes]
    omega

/-- A call that leaves the codes alone. -/
theorem Balanced.untouched (h : Balanced s log) (hissued : a.issued? = none)
    (hexchanges : a.exchanges = false) (hexpired : a.findsExpired = false) (hpurged : a.purged = 0)
    (hcodes : s'.codes = s.codes) : Balanced s' (⟨now, a⟩ :: log) := by
  apply h.thin hissued
  · intro code g hg
    exact hcodes ▸ hg
  · simp [hexchanges, hexpired, hpurged, hcodes]

/-- A new code is one more that is held. -/
theorem Balanced.issue (h : Balanced s log) {g : AuthorizationCode}
    {subject : UserId} {client redirectUri : String} {scopes : List String}
    (ho : IssuesOnce
      (⟨now, .issueCode client subject redirectUri scopes (.ok g.code)⟩ :: log)) :
    Balanced { s with codes := s.codes.insert g.code g }
      (⟨now, .issueCode client subject redirectUri scopes (.ok g.code)⟩ :: log) := by
  have hnew : s.codes.get? g.code = none := by
    apply Option.eq_none_iff_forall_ne_some.2
    intro g' hg'
    exact ho.new_code rfl (h.held g.code g' hg')
  refine ⟨fun code g' hg' => ?_, ?_⟩
  · rw [issuedCodes_cons, List.mem_append]
    rw [KeyMap.get?_insert] at hg'
    split at hg'
    · rename_i he
      exact .inl (by simp [Act.issued?, he])
    · exact .inr (h.held code g' hg')
  · have hbefore := h.count
    have hsize : (s.codes.insert g.code g).size = s.codes.size + 1 := KeyMap.size_insert hnew g
    rw [issuedCodes_cons, purgedCodes_cons, List.countP_cons_of_neg (by simp [Act.exchanges]),
      List.countP_cons_of_neg (by simp [Act.findsExpired])]
    simp only [Act.issued?, Act.purged, Option.toList, List.length_append, List.length_singleton]
    omega

theorem balanced_change (ho : IssuesOnce (⟨now, a⟩ :: log)) (h : Balanced s log)
    (hc : Change s now a s') : Balanced s' (⟨now, a⟩ :: log) := by
  cases hc with
  | issue g hr ht => exact h.issue ho
  | exchange fresh code secret g p hauth hg he hp => exact h.taken rfl rfl rfl hg rfl
  | expire code secret g hg he => exact h.taken rfl rfl rfl hg rfl
  | purge kept hk =>
    subst hk
    apply h.thin rfl
    · intro code g hg
      exact (KeyMap.get?_filter_eq_some_iff.1 hg).1
    · have hle := s.codes.size_filter_le fun _ g => !g.isOver now
      simp only [Act.exchanges, Act.findsExpired, Act.purged, Bool.toNat_false]
      omega
  | register id secret redirectUri scopes => exact h.untouched rfl rfl rfl rfl rfl
  | refresh fresh refresh p expiresAt hp ht => exact h.untouched rfl rfl rfl rfl rfl
  | revoke access => exact h.untouched rfl rfl rfl rfl rfl
  | idle a ha =>
    cases a with
    | register => simp [Act.idle] at ha
    | revoke => simp [Act.idle] at ha
    | purge => simp [Act.idle] at ha
    | issueCode client subject redirectUri scopes answer =>
      cases answer with
      | ok code => simp [Act.idle] at ha
      | error f => exact h.untouched rfl rfl rfl rfl rfl
    | exchange code client secret answer =>
      cases answer with
      | ok p => simp [Act.idle] at ha
      | error f =>
        have hexpired : (Act.exchange code client secret (.error f)).findsExpired = false := by
          unfold Act.findsExpired
          split
          · rename_i heq
            cases heq
            simp [Act.idle] at ha
          · rfl
        exact h.untouched rfl rfl hexpired rfl rfl
    | _ => exact h.untouched rfl rfl rfl rfl rfl

/-! ## The law -/

/-- After a run in which no call died, and no code was issued twice, the codes
can be counted. The codes that were issued are those that were exchanged, those
that were found expired, those that the purges counted, and those that are
held. -/
theorem every_code_is_accounted_for {settings : OAuthSettings} (calls : List (Instant × Call))
    (h : IssuesOnce (run settings calls).log) :
    let r := run settings calls
    ∃ pending, r.server.pendingCodes = .ok pending ∧
      (issuedCodes r.log).length =
        r.log.countP (·.act.exchanges) + r.log.countP (·.act.findsExpired) + purgedCodes r.log +
          pending := by
  intro r
  have hsane : r.server.Sane := h.alive.sane calls
  have hbalanced : Balanced r.server r.log :=
    Alive.induct IssuesOnce.alive IssuesOnce.tail (balanced_new settings)
      (fun _ _ _ _ ho ih hc => balanced_change ho ih hc) calls h
  refine ⟨r.server.codes.size, ?_, hbalanced.count⟩
  unfold Server.pendingCodes
  rw [if_neg (by simp [hsane.1])]

/-- A client asks for four codes. One is exchanged, one is found expired, and
one is purged after that. The clock goes back, and the last code is held. -/
def errand : List (Instant × Call) :=
  [(⟨100, 0⟩, .countCodes), (⟨2000, 0⟩, .purge),
    (⟨650, 0⟩, .exchange ⟨"access 2", "refresh 2"⟩ "code 2" "app" "hush"),
    (⟨3000, 0⟩, .issueCode "code 4" "app" 7 "/back" []),
    (⟨80, 0⟩, .issueCode "code 3" "app" 7 "/back" []),
    (⟨40, 0⟩, .issueCode "code 2" "app" 7 "/back" [])] ++ visit

theorem an_errand_accounts_for_its_codes :
    IssuesOnce (run {} errand).log ∧ (issuedCodes (run {} errand).log).length = 4 ∧
      ∃ pending, (run {} errand).server.pendingCodes = .ok pending ∧ 4 = 1 + 1 + 1 + pending := by
  have hfine : IssuesOnce (run {} errand).log := by decide
  obtain ⟨pending, hpending, hcount⟩ := every_code_is_accounted_for errand hfine
  exact ⟨hfine, rfl, pending, hpending, hcount⟩

end Warrant.OAuth
