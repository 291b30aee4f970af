-- What a token says can be read without a secret and without a clock. A check
-- goes through the same stages of reading, with two of its own between them
-- and behind them: the signature stands before the payload is read, and the
-- terms come last. So the two part only where one of these stops the check.
import Warrant.Proofs.Sequence
import Warrant.Proofs.Token.Verification

namespace Warrant.Token

/-! ## The form of a token -/

/-- The text is read as a token: its parts, its algorithm and its payload. -/
structure Formed (token : String) (parts : Compact) (a : Algorithm) (p : Payload) : Prop where
  read : Compact.read token = .ok parts
  algorithm : parts.algorithm = .ok a
  payload : parts.readPayload = .ok p

/-- The text has not the form of a token, and this is what the reader says. It
stops at the first thing that it cannot read. -/
inductive Malformed (token : String) (m : Malformation) : Prop
  | parts (h : Compact.read token = .error m)
  | header {parts : Compact} (h : Compact.read token = .ok parts) (ha : parts.algorithm = .error m)
  | payload {parts : Compact} {a : Algorithm} (h : Compact.read token = .ok parts)
      (ha : parts.algorithm = .ok a) (hp : parts.readPayload = .error m)

/-- A text has the form of a token, or there is something that it lacks. -/
theorem formed_or_malformed (token : String) :
    (∃ parts a p, Formed token parts a p) ∨ ∃ m, Malformed token m := by
  cases h : Compact.read token with
  | error m => exact .inr ⟨m, .parts h⟩
  | ok parts =>
    cases ha : parts.algorithm with
    | error m => exact .inr ⟨m, .header h ha⟩
    | ok a =>
      cases hp : parts.readPayload with
      | error m => exact .inr ⟨m, .payload h ha hp⟩
      | ok p => exact .inl ⟨parts, a, p, h, ha, hp⟩

theorem unverified_of_formed {token : String} {parts : Compact} {a : Algorithm} {p : Payload}
    (h : Formed token parts a p) : unverified token = .ok p.claims := by
  unfold unverified
  simp only [h.read, h.algorithm, h.payload, bind, Except.bind, pure, Except.pure, Except.mapError]

theorem unverified_of_malformed {token : String} {m : Malformation} (h : Malformed token m) :
    unverified token = .error (.tokenMalformed m) := by
  unfold unverified
  cases h with
  | parts h => simp only [h, bind, Except.bind, Except.mapError]
  | header h ha => simp only [h, ha, bind, Except.bind, Except.mapError]
  | payload h ha hp => simp only [h, ha, hp, bind, Except.bind, Except.mapError]

theorem unverified_eq_ok_iff {token : String} {c : Claims} :
    unverified token = .ok c ↔ ∃ parts a p, Formed token parts a p ∧ p.claims = c := by
  constructor
  · intro h
    rcases formed_or_malformed token with ⟨parts, a, p, hform⟩ | ⟨m, hm⟩
    · rw [unverified_of_formed hform] at h
      exact ⟨parts, a, p, hform, Except.ok.inj h⟩
    · rw [unverified_of_malformed hm] at h
      cases h
  · rintro ⟨parts, a, p, hform, rfl⟩
    exact unverified_of_formed hform

/-- The reader has one complaint only. -/
theorem unverified_eq_error_iff {token : String} {r : Refusal} :
    unverified token = .error r ↔ ∃ m, Malformed token m ∧ r = .tokenMalformed m := by
  constructor
  · intro h
    rcases formed_or_malformed token with ⟨parts, a, p, hform⟩ | ⟨m, hm⟩
    · rw [unverified_of_formed hform] at h
      cases h
    · rw [unverified_of_malformed hm] at h
      exact ⟨m, hm, (Except.error.inj h).symm⟩
  · rintro ⟨m, hm, rfl⟩
    exact unverified_of_malformed hm

namespace Signer

variable {s : Signer} {now : Instant} {token : String}

/-! ## Where a check stops -/

theorem checkSignature_eq_error {c : Compact} {a : Algorithm} {fault : Fault}
    (h : s.checkSignature c a = .error fault) :
    fault = .wrongAlgorithm ∨ fault = .wrongSignature := by
  unfold checkSignature at h
  split at h
  · cases h
    exact .inl rfl
  · split at h
    · cases h
    · cases h
      exact .inr rfl

/-- The refusals of a token whose signature is right. -/
def lapses : List Refusal := [.tokenExpired, .tokenNotYetValid, .invalidToken]

theorem checkTerms_eq_error (h0 : 0 ≤ now.seconds) {t : Terms} {fault : Fault}
    (h : s.checkTerms now t = .error fault) : ∃ r ∈ lapses, fault.failure = .refused r := by
  unfold checkTerms at h
  split at h
  · cases h
    exact ⟨.invalidToken, by simp [lapses], rfl⟩
  · rw [if_neg (Int.not_lt.2 h0)] at h
    split at h
    · cases h
      exact ⟨.tokenExpired, by simp [lapses], rfl⟩
    split at h
    · cases h
      exact ⟨.tokenNotYetValid, by simp [lapses], rfl⟩
    split at h
    · cases h
      exact ⟨.invalidToken, by simp [lapses], rfl⟩
    split at h
    · cases h
      exact ⟨.invalidToken, by simp [lapses], rfl⟩
    · cases h

/-- A check that fails reads like everyone, up to the stage where it stops. -/
theorem verify_eq_error {fault : Fault} (h : s.verify now token = .error fault) :
    (∃ m, Malformed token m ∧ fault = .malformed m) ∨
    (∃ parts a, Compact.read token = .ok parts ∧ parts.algorithm = .ok a ∧
      s.checkSignature parts a = .error fault) ∨
    ∃ parts a p, Formed token parts a p ∧ s.checkSignature parts a = .ok () ∧
      s.checkTerms now p.terms = .error fault := by
  unfold verify at h
  rcases error_of_bind h with h | ⟨parts, hread, h⟩
  · obtain ⟨m, hread, rfl⟩ := error_of_mapError h
    exact .inl ⟨m, .parts hread, rfl⟩
  have hread := ok_of_mapError hread
  rcases error_of_bind h with h | ⟨a, ha, h⟩
  · obtain ⟨m, ha, rfl⟩ := error_of_mapError h
    exact .inl ⟨m, .header hread ha, rfl⟩
  have ha := ok_of_mapError ha
  rcases error_of_bind h with h | ⟨_, hs, h⟩
  · exact .inr (.inl ⟨parts, a, hread, ha, h⟩)
  rcases error_of_bind h with h | ⟨p, hp, h⟩
  · obtain ⟨m, hp, rfl⟩ := error_of_mapError h
    exact .inl ⟨m, .payload hread ha hp, rfl⟩
  have hp := ok_of_mapError hp
  rcases error_of_bind h with h | ⟨_, _, h⟩
  · exact .inr (.inr ⟨parts, a, p, ⟨hread, ha, hp⟩, hs, h⟩)
  · cases h

/-- A check that stops at the signature says so. -/
theorem validate_of_unsigned {parts : Compact} {a : Algorithm} {fault : Fault}
    (h : s.verify now token = .error fault) (hs : s.checkSignature parts a = .error fault) :
    s.validate now token = .error (.refused .invalidSignature) := by
  rcases checkSignature_eq_error hs with rfl | rfl
  · exact validate_of_verify_error h (by simp)
  · exact validate_of_verify_error h (by simp)

/-! ## What a check answers -/

/-- The answers that a check can give, beside what anyone reads. -/
inductive Answer (token : String) : Except Failure Claims → Prop
  | accepted {parts : Compact} {a : Algorithm} {p : Payload} (h : Formed token parts a p) :
      Answer token (.ok p.claims)
  | lapsed {parts : Compact} {a : Algorithm} {p : Payload} {r : Refusal}
      (h : Formed token parts a p) (hr : r ∈ lapses) : Answer token (.error (.refused r))
  | unsigned : Answer token (.error (.refused .invalidSignature))
  | malformed {m : Malformation} (h : Malformed token m) :
      Answer token (.error (.refused (.tokenMalformed m)))

theorem answer_validate (s : Signer) (h0 : 0 ≤ now.seconds) (token : String) :
    Answer token (s.validate now token) := by
  cases hv : s.verify now token with
  | ok c =>
    have hvalid := validate_eq_ok_iff.2 hv
    obtain ⟨parts, a, _, p, hread, ha, _, _, hp, rfl, _⟩ := accepted hvalid
    rw [hvalid]
    exact .accepted ⟨hread, ha, hp⟩
  | error fault =>
    rcases verify_eq_error hv with ⟨m, hm, rfl⟩ | ⟨_, _, _, _, hs⟩ | ⟨parts, a, p, hform, _, ht⟩
    · rw [validate_of_malformed hv]
      split
      · exact .unsigned
      · exact .malformed hm
    · rw [validate_of_unsigned hv hs]
      exact .unsigned
    · obtain ⟨r, hr, hfailure⟩ := checkTerms_eq_error h0 ht
      have hknown : ∀ m, fault ≠ .malformed m := by
        rintro m rfl
        cases hfailure
        simp [lapses] at hr
      rw [validate_of_verify_error hv hknown, hfailure]
      exact .lapsed hform hr

/-- From 1970 on no check dies. -/
theorem validate_ne_died (h0 : 0 ≤ now.seconds) (token : String) :
    s.validate now token ≠ .error .died := by
  intro h
  have hanswer := s.answer_validate h0 token
  rw [h] at hanswer
  cases hanswer

/-- The claims of an accepted token are the ones that anyone can read. -/
theorem unverified_of_validate {token : String} {c : Claims} (h : s.validate now token = .ok c) :
    unverified token = .ok c := by
  obtain ⟨parts, a, _, p, hread, ha, _, _, hp, rfl, _⟩ := accepted h
  exact unverified_of_formed ⟨hread, ha, hp⟩

/-- So an accepted token has no other claims than those. -/
theorem eq_of_unverified {token : String} {c c' : Claims} (h : s.validate now token = .ok c)
    (hc : unverified token = .ok c') : c = c' := by
  rw [unverified_of_validate h] at hc
  exact Except.ok.inj hc

/-- A token whose signature is right has claims that anyone can read. -/
theorem unverified_of_lapsed {r : Refusal} (h0 : 0 ≤ now.seconds)
    (h : s.validate now token = .error (.refused r)) (hr : r ∈ lapses) :
    ∃ c, unverified token = .ok c := by
  have hanswer := s.answer_validate h0 token
  rw [h] at hanswer
  cases hanswer with
  | lapsed hform _ => exact ⟨_, unverified_of_formed hform⟩
  | unsigned => simp [lapses] at hr
  | malformed _ => simp [lapses] at hr

/-- What a check cannot read, nobody can. -/
theorem unverified_of_validate_malformed {m : Malformation} (h0 : 0 ≤ now.seconds)
    (h : s.validate now token = .error (.refused (.tokenMalformed m))) :
    unverified token = .error (.tokenMalformed m) := by
  have hanswer := s.answer_validate h0 token
  rw [h] at hanswer
  cases hanswer with
  | lapsed _ hr => simp [lapses] at hr
  | malformed hm => exact unverified_of_malformed hm

/-- Where the claims can be read, a check gives these or says why they do not
count. -/
theorem validate_of_unverified {c : Claims} (s : Signer) (h0 : 0 ≤ now.seconds)
    (h : unverified token = .ok c) :
    s.validate now token = .ok c ∨
      ∃ r ∈ .invalidSignature :: lapses, s.validate now token = .error (.refused r) := by
  have hanswer := s.answer_validate h0 token
  generalize s.validate now token = answer at hanswer ⊢
  cases hanswer with
  | accepted hform =>
    rw [unverified_of_formed hform] at h
    cases h
    exact .inl rfl
  | lapsed _ hr => exact .inr ⟨_, List.mem_cons_of_mem _ hr, rfl⟩
  | unsigned => exact .inr ⟨_, List.mem_cons_self, rfl⟩
  | malformed hm =>
    rw [unverified_of_malformed hm] at h
    cases h

/-- Where the claims cannot be read, a check says so, or it does not come to
read them. -/
theorem validate_of_unreadable {m : Malformation} (s : Signer) (h0 : 0 ≤ now.seconds)
    (h : unverified token = .error (.tokenMalformed m)) :
    s.validate now token = .error (.refused (.tokenMalformed m)) ∨
      s.validate now token = .error (.refused .invalidSignature) := by
  have hanswer := s.answer_validate h0 token
  generalize s.validate now token = answer at hanswer ⊢
  cases hanswer with
  | accepted hform =>
    rw [unverified_of_formed hform] at h
    cases h
  | lapsed hform _ =>
    rw [unverified_of_formed hform] at h
    cases h
  | unsigned => exact .inr rfl
  | malformed hm =>
    rw [unverified_of_malformed hm] at h
    cases h
    exact .inl rfl

/-! ## The law -/

/-- The reading of a text takes no signer and no instant: it is there if the text
has the form of a token, and else it names what is malformed. From 1970 on all
checks of all signers agree with it. Accepted claims are the ones that are read,
so no two signers accept different ones. A token that lapsed or that is for
someone else can be read. What a check calls malformed cannot be read, for the
same cause, and no signer reads it. A check reports the reading, unless it stops
at the signature or at the terms. -/
theorem every_check_agrees_with_the_reading (token : String) :
    (∀ c, unverified token = .ok c ↔ ∃ parts a p, Formed token parts a p ∧ p.claims = c) ∧
    (∀ r, unverified token = .error r ↔ ∃ m, Malformed token m ∧ r = .tokenMalformed m) ∧
    ∀ (s : Signer) (now : Instant), 0 ≤ now.seconds →
      (∀ c, s.validate now token = .ok c → unverified token = .ok c) ∧
      (∀ r ∈ [Refusal.tokenExpired, .tokenNotYetValid, .invalidToken],
        s.validate now token = .error (.refused r) → ∃ c, unverified token = .ok c) ∧
      (∀ m, s.validate now token = .error (.refused (.tokenMalformed m)) →
        unverified token = .error (.tokenMalformed m)) ∧
      (∀ parts a p, Formed token parts a p → s.checkSignature parts a = .ok () →
        s.checkTerms now p.terms = .ok () → s.validate now token = .ok p.claims) ∧
      (∀ c, unverified token = .ok c → s.validate now token = .ok c ∨
        ∃ r ∈ [Refusal.invalidSignature, .tokenExpired, .tokenNotYetValid, .invalidToken],
          s.validate now token = .error (.refused r)) ∧
      (∀ m, unverified token = .error (.tokenMalformed m) →
        s.validate now token = .error (.refused (.tokenMalformed m)) ∨
          s.validate now token = .error (.refused .invalidSignature)) ∧
      ∀ (s' : Signer) (now' : Instant), 0 ≤ now'.seconds →
        (∀ c c', s.validate now token = .ok c → s'.validate now' token = .ok c' → c' = c) ∧
        ∀ m, s.validate now token = .error (.refused (.tokenMalformed m)) →
          s'.validate now' token = .error (.refused (.tokenMalformed m)) ∨
            s'.validate now' token = .error (.refused .invalidSignature) := by
  refine ⟨fun _ => unverified_eq_ok_iff, fun _ => unverified_eq_error_iff, ?_⟩
  intro s now h0
  refine ⟨fun c h => unverified_of_validate h, fun r hr h => unverified_of_lapsed h0 h hr,
    fun m h => unverified_of_validate_malformed h0 h, ?_,
    fun c h => s.validate_of_unverified h0 h, fun m h => s.validate_of_unreadable h0 h, ?_⟩
  · intro parts a p hform hs ht
    rw [validate_eq_ok_iff, verify_eq_ok_iff]
    exact ⟨parts, a, p, hform.read, hform.algorithm, hs, hform.payload, ht, rfl⟩
  · intro s' now' h0'
    constructor
    · intro c c' h h'
      exact eq_of_unverified h' (unverified_of_validate h)
    · intro m h
      exact s'.validate_of_unreadable h0' (unverified_of_validate_malformed h0 h)

/-- A signer with another secret. -/
def strangeSigner : Signer := ⟨{ secret := "h", issuer := "a" }, by decide⟩

/-- The brief token has one reading. Its signer accepts what is read for nine
seconds and not for ten, and a strange signer never does. A text with one dot
has no reading, and neither has one with an empty object as its header. -/
theorem a_brief_token_has_one_reading :
    (∃ c, unverified briefToken = .ok c ∧ briefSigner.validate ⟨9, 0⟩ briefToken = .ok c ∧
      briefSigner.validate ⟨10, 0⟩ briefToken = .error (.refused .tokenExpired) ∧
      strangeSigner.validate ⟨9, 0⟩ briefToken = .error (.refused .invalidSignature)) ∧
    (briefSigner.validate ⟨9, 0⟩ "a.b" = .error (.refused (.tokenMalformed .parts)) ∧
      unverified "a.b" = .error (.tokenMalformed .parts)) ∧
    briefSigner.validate ⟨9, 0⟩ "e30.." =
      .error (.refused (.tokenMalformed (.json .header [123, 125]))) ∧
    unverified "e30.." = .error (.tokenMalformed (.json .header [123, 125])) := by
  have hlapsed : briefSigner.validate ⟨10, 0⟩ briefToken = .error (.refused .tokenExpired) := by
    apply error_of_map (g := fun _ => ())
    decide +kernel
  have hunsigned : strangeSigner.validate ⟨9, 0⟩ briefToken =
      .error (.refused .invalidSignature) := by
    apply error_of_map (g := fun _ => ())
    decide +kernel
  have hagree := (every_check_agrees_with_the_reading briefToken).2.2 briefSigner
  have hdots := (every_check_agrees_with_the_reading "a.b").2.2 briefSigner ⟨9, 0⟩ (by decide)
  have hheader : briefSigner.validate ⟨9, 0⟩ "e30.." =
      .error (.refused (.tokenMalformed (.json .header [123, 125]))) := by
    apply error_of_map (g := fun _ => ())
    decide +kernel
  have hobject := (every_check_agrees_with_the_reading "e30..").2.2 briefSigner ⟨9, 0⟩ (by decide)
  refine ⟨?_, ⟨rfl, hdots.2.2.1 .parts rfl⟩, hheader, hobject.2.2.1 _ hheader⟩
  obtain ⟨c, hc⟩ := (hagree ⟨10, 0⟩ (by decide)).2.1 .tokenExpired (by simp) hlapsed
  obtain ⟨own, hvalid⟩ := exists_claims_brief
  obtain rfl := eq_of_unverified hvalid hc
  exact ⟨own, hc, hvalid, hlapsed, hunsigned⟩

end Signer

end Warrant.Token
