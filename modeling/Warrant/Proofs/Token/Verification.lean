-- What an accepted token is worth. Its last part is the keyed digest of all
-- that stands before it, so the text before the last dot and the secret leave
-- one last part only. Its claims are the ones of the payload, for this issuer
-- and for this second.
--
-- A check goes through stages, and each stage that lets a token pass says what
-- it has seen: the parts, the algorithm, the signature, the payload, the terms.
import Mathlib
import Warrant.Proofs.Sequence
import Warrant.Proofs.Token.Claims
import Warrant.Token.Signer

namespace Warrant.Token

open Warrant.Text Warrant.Digest

/-! ## The parts -/

theorem not_mem_of_splitLastDot {cs : List Char} (h : splitLastDot cs = none) : '.' ∉ cs := by
  induction cs with
  | nil => simp
  | cons c r ih =>
    unfold splitLastDot at h
    split at h
    · cases h
    · rename_i hr
      split at h
      · cases h
      · rename_i hc
        rw [List.mem_cons, not_or]
        exact ⟨Ne.symm hc, ih hr⟩

theorem splitLastDot_eq_some_iff {cs before after : List Char} :
    splitLastDot cs = some (before, after) ↔ cs = before ++ '.' :: after ∧ '.' ∉ after := by
  constructor
  · intro h
    induction cs generalizing before after with
    | nil => cases h
    | cons c r ih =>
      unfold splitLastDot at h
      split at h
      · rename_i b a hr
        cases h
        obtain ⟨rfl, hdot⟩ := ih hr
        exact ⟨rfl, hdot⟩
      · rename_i hr
        split at h
        · rename_i hc
          cases h
          exact ⟨by rw [hc, List.nil_append], not_mem_of_splitLastDot hr⟩
        · cases h
  · rintro ⟨rfl, hdot⟩
    exact splitLastDot_append before hdot

namespace Compact

/-- A token is read as its message, the last dot and its signature. -/
theorem read_eq_ok_iff {token : String} {c : Compact} :
    read token = .ok c ↔
      token.toList = c.message ++ '.' :: c.signature ∧ '.' ∉ c.signature ∧ '.' ∉ c.payload := by
  constructor
  · intro h
    unfold read at h
    split at h
    · cases h
    · rename_i message signature hm
      split at h
      · cases h
      · rename_i header payload hp
        cases h
        obtain ⟨htoken, hsig⟩ := splitLastDot_eq_some_iff.1 hm
        obtain ⟨hmessage, hpay⟩ := splitLastDot_eq_some_iff.1 hp
        exact ⟨by rw [htoken, hmessage]; rfl, hsig, hpay⟩
  · rintro ⟨htoken, hsig, hpay⟩
    have hm := splitLastDot_eq_some_iff.2 ⟨htoken, hsig⟩
    have hp : splitLastDot c.message = some (c.header, c.payload) :=
      splitLastDot_eq_some_iff.2 ⟨rfl, hpay⟩
    unfold read
    rw [hm]
    dsimp only
    rw [hp]

/-- A part has a content if there is a tree in it that has one. -/
theorem readJson_eq_ok_iff {α : Type} {content : Content} {value? : Json → Option α}
    {part : List Char} {a : α} :
    readJson content value? part = .ok a ↔ ∃ j, json? part = some j ∧ value? j = some a := by
  unfold readJson json?
  cases decode part with
  | error m => simp [bind, Except.bind, Except.toOption]
  | ok bytes =>
    cases hj : Json.ofBytes? bytes with
    | none => simp [bind, Except.bind, Except.toOption, hj]
    | some j =>
      cases ha : value? j with
      | none => simp [bind, Except.bind, Except.toOption, hj, ha]
      | some b => simp [bind, Except.bind, Except.toOption, pure, Except.pure, hj, ha]

theorem algorithm_eq_ok_iff {c : Compact} {a : Algorithm} :
    c.algorithm = .ok a ↔
      ∃ header, json? c.header = some header ∧ Header.algorithm? header = some a :=
  readJson_eq_ok_iff

/-- The claims and the terms of a payload are read from one tree. -/
theorem readPayload_eq_ok_iff {c : Compact} {p : Payload} :
    c.readPayload = .ok p ↔
      ∃ payload, json? c.payload = some payload ∧ Claims.ofJson? payload = some p.claims ∧
        Terms.ofJson? payload = some p.terms := by
  constructor
  · intro h
    obtain ⟨claims, hclaims, h⟩ := ok_of_bind h
    obtain ⟨terms, hterms, h⟩ := ok_of_bind h
    cases h
    obtain ⟨payload, hpayload, hclaims⟩ := readJson_eq_ok_iff.1 hclaims
    obtain ⟨payload', hpayload', hterms⟩ := readJson_eq_ok_iff.1 hterms
    rw [hpayload] at hpayload'
    cases hpayload'
    exact ⟨payload, hpayload, hclaims, hterms⟩
  · rintro ⟨payload, hpayload, hclaims, hterms⟩
    have hfirst : readJson .claims Claims.ofJson? c.payload = .ok p.claims :=
      readJson_eq_ok_iff.2 ⟨payload, hpayload, hclaims⟩
    have hsecond : readJson .terms Terms.ofJson? c.payload = .ok p.terms :=
      readJson_eq_ok_iff.2 ⟨payload, hpayload, hterms⟩
    unfold readPayload
    rw [hfirst, hsecond]
    rfl

end Compact

/-! ## The algorithms -/

/-- The algorithms with a shared secret, each with its hash function. -/
def Algorithm.keyed : List (Algorithm × Hash) :=
  [(.hs256, sha256), (.hs384, sha384), (.hs512, sha512)]

theorem Algorithm.hash?_eq_some_iff {a : Algorithm} {hash : Hash} :
    a.hash? = some hash ↔ (a, hash) ∈ Algorithm.keyed := by
  cases a <;> simp [Algorithm.hash?, Algorithm.keyed, eq_comm]

namespace Signer

variable {s : Signer} {now : Instant}

/-! ## The stages -/

theorem checkSignature_eq_ok_iff {c : Compact} {a : Algorithm} :
    s.checkSignature c a = .ok () ↔
      ∃ hash, (a, hash) ∈ Algorithm.keyed ∧
        c.signature = Compact.signatureOf hash s.settings.secret c.message := by
  unfold checkSignature
  cases ha : a.hash? with
  | none => simp [← Algorithm.hash?_eq_some_iff, ha]
  | some hash => simp [← Algorithm.hash?_eq_some_iff, ha]

/-- The terms pass where the claims count now and here. -/
theorem checkTerms_eq_ok_iff {t : Terms} {c : Claims} (h : t.Agree c) :
    s.checkTerms now t = .ok () ↔
      0 ≤ now.seconds ∧ now.seconds ≤ c.expiresAt.toInt ∧ c.notBefore.toInt ≤ now.seconds ∧
        c.issuer = s.settings.issuer ∧ t.hasAudience = false := by
  have hstart : (c.notBefore.toInt.toNat?.any fun n : Nat => now.seconds < n) = true ↔
      0 ≤ c.notBefore.toInt ∧ now.seconds < c.notBefore.toInt := by
    cases c.notBefore.toInt with
    | negSucc n => simp [Int.toNat?]
    | ofNat n => simp [Int.toNat?]
  have hissuer : ((some c.issuer).any (· ≠ s.settings.issuer)) = true ↔
      c.issuer ≠ s.settings.issuer := by simp
  unfold checkTerms
  rw [h.expiresAt, h.notBefore, h.issuer]
  simp only [hstart, hissuer]
  cases c.expiresAt.toInt with
  | negSucc e =>
    refine ⟨by rintro ⟨⟩, fun ⟨h0, hle, _⟩ => ?_⟩
    omega
  | ofNat e =>
    have hend : (Int.ofNat e).toNat? = some e := rfl
    rw [hend]
    dsimp only [Int.ofNat_eq_natCast]
    split
    · refine ⟨by rintro ⟨⟩, fun ⟨h0, _⟩ => ?_⟩
      omega
    split
    · refine ⟨by rintro ⟨⟩, fun ⟨_, hle, _⟩ => ?_⟩
      omega
    split
    · refine ⟨by rintro ⟨⟩, fun ⟨_, _, hle, _⟩ => ?_⟩
      omega
    split
    · rename_i hne
      exact ⟨by rintro ⟨⟩, fun ⟨_, _, _, he, _⟩ => absurd he hne⟩
    split
    · rename_i ha
      refine ⟨by rintro ⟨⟩, fun ⟨_, _, _, _, hno⟩ => ?_⟩
      rw [hno] at ha
      cases ha
    · rename_i hlate hbefore hstarted hsame hno
      refine ⟨fun _ => ⟨by omega, by omega, by omega, Decidable.not_not.1 hsame, ?_⟩, fun _ => rfl⟩
      exact Bool.eq_false_iff.2 hno

/-- A token is accepted where it passes each stage. -/
theorem verify_eq_ok_iff {token : String} {c : Claims} :
    s.verify now token = .ok c ↔
      ∃ parts a p, Compact.read token = .ok parts ∧ parts.algorithm = .ok a ∧
        s.checkSignature parts a = .ok () ∧ parts.readPayload = .ok p ∧
        s.checkTerms now p.terms = .ok () ∧ p.claims = c := by
  unfold verify
  cases hread : Compact.read token with
  | error e => simp [bind, Except.bind, Except.mapError]
  | ok parts =>
    cases ha : parts.algorithm with
    | error e => simp [bind, Except.bind, Except.mapError, ha]
    | ok a =>
      cases hs : s.checkSignature parts a with
      | error e => simp [bind, Except.bind, Except.mapError, ha, hs]
      | ok u =>
        cases hp : parts.readPayload with
        | error e => simp [bind, Except.bind, Except.mapError, ha, hs, hp]
        | ok p =>
          cases ht : s.checkTerms now p.terms with
          | error e => simp [bind, Except.bind, Except.mapError, ha, hs, hp, ht]
          | ok u => simp [bind, Except.bind, Except.mapError, pure, Except.pure, ha, hs, hp, ht]

theorem validate_eq_ok_iff {token : String} {c : Claims} :
    s.validate now token = .ok c ↔ s.verify now token = .ok c := by
  unfold validate
  split
  · rename_i hv
    rw [hv]
    simp
  · rename_i hv
    rw [hv]
    split <;> simp
  · rename_i hv
    rw [hv]
    simp

/-- A text that is no token may still say that it is signed in a foreign way. -/
theorem validate_of_malformed {token : String} {m : Malformation}
    (h : s.verify now token = .error (.malformed m)) :
    s.validate now token =
      if declaresForeignAlgorithm token then .error (.refused .invalidSignature)
      else .error (.refused (.tokenMalformed m)) := by
  unfold validate
  rw [h]

theorem validate_of_verify_error {token : String} {fault : Fault}
    (h : s.verify now token = .error fault) (hform : ∀ m, fault ≠ .malformed m) :
    s.validate now token = .error fault.failure := by
  unfold validate
  rw [h]
  cases fault with
  | malformed m => exact absurd rfl (hform m)
  | _ => rfl

/-! ## Accepted tokens -/

/-- What a signer has seen of a token that it accepts. -/
theorem accepted {token : String} {c : Claims} (h : s.validate now token = .ok c) :
    ∃ parts a hash p, Compact.read token = .ok parts ∧ parts.algorithm = .ok a ∧
      (a, hash) ∈ Algorithm.keyed ∧
      parts.signature = Compact.signatureOf hash s.settings.secret parts.message ∧
      parts.readPayload = .ok p ∧ p.claims = c ∧ s.checkTerms now p.terms = .ok () := by
  obtain ⟨parts, a, p, hread, ha, hs, hp, ht, hc⟩ := verify_eq_ok_iff.1 (validate_eq_ok_iff.1 h)
  obtain ⟨hash, hkeyed, hsig⟩ := checkSignature_eq_ok_iff.1 hs
  exact ⟨parts, a, hash, p, hread, ha, hkeyed, hsig, hp, hc, ht⟩

/-- The claims of an accepted token were read from a tree, and the terms that
passed are theirs. -/
theorem terms_of_validate {token : String} {c : Claims} (h : s.validate now token = .ok c) :
    ∃ payload terms, Claims.ofJson? payload = some c ∧ terms.Agree c ∧
      s.checkTerms now terms = .ok () := by
  obtain ⟨_, _, _, p, _, _, _, _, hp, rfl, hchecked⟩ := accepted h
  obtain ⟨payload, _, hclaims, hterms⟩ := Compact.readPayload_eq_ok_iff.1 hp
  exact ⟨payload, p.terms, hclaims, Terms.agree_of_ofJson? hclaims hterms, hchecked⟩

/-- The message of an accepted token leaves one signature. -/
theorem token_of_message {now' : Instant} {token token' : String} {c c' : Claims}
    (h : s.validate now token = .ok c) (h' : s.validate now' token' = .ok c')
    {m sig sig' : List Char} (hdot : '.' ∉ sig) (hdot' : '.' ∉ sig')
    (ht : token.toList = m ++ '.' :: sig) (ht' : token'.toList = m ++ '.' :: sig') :
    token' = token := by
  obtain ⟨parts, a, hash, p, hread, ha, hkeyed, hsig, _⟩ := accepted h
  obtain ⟨parts', a', hash', p', hread', ha', hkeyed', hsig', _⟩ := accepted h'
  obtain ⟨hparts, hlast, hpay⟩ := Compact.read_eq_ok_iff.1 hread
  obtain ⟨hparts', hlast', hpay'⟩ := Compact.read_eq_ok_iff.1 hread'
  have hm : some (parts.message, parts.signature) = some (m, sig) := by
    rw [← splitLastDot_eq_some_iff.2 ⟨hparts, hlast⟩, ← splitLastDot_eq_some_iff.2 ⟨ht, hdot⟩]
  have hm' : some (parts'.message, parts'.signature) = some (m, sig') := by
    rw [← splitLastDot_eq_some_iff.2 ⟨hparts', hlast'⟩, ← splitLastDot_eq_some_iff.2 ⟨ht', hdot'⟩]
  cases hm
  have hmessage : parts'.message = parts.message := congrArg Prod.fst (Option.some.inj hm')
  -- the header is part of the message, so both name the same algorithm
  have hsplit : some (parts'.header, parts'.payload) = some (parts.header, parts.payload) := by
    rw [← splitLastDot_eq_some_iff.2 ⟨rfl, hpay⟩, ← splitLastDot_eq_some_iff.2 ⟨rfl, hpay'⟩]
    exact congrArg splitLastDot hmessage
  have hheader : parts'.header = parts.header := congrArg Prod.fst (Option.some.inj hsplit)
  have hsame : a' = a := by
    have he : parts'.algorithm = parts.algorithm := by
      rw [Compact.algorithm, Compact.algorithm, hheader]
    rw [ha, ha'] at he
    exact Except.ok.inj he
  subst hsame
  rw [← Algorithm.hash?_eq_some_iff] at hkeyed hkeyed'
  rw [hkeyed] at hkeyed'
  cases hkeyed'
  apply String.toList_injective
  rw [hparts', hparts, hsig', hsig, hmessage]

/-- An accepted token has the keyed digest of its message as its last part,
under the secret of the signer and the algorithm that the header names. The
payload spells the claims, and they are for this issuer and for this second. A
look at a clock finds them in force, if a clock shows this second. So there is
one such token for a message, and no signer of another issuer accepts it. -/
theorem an_accepted_token_is_signed_and_counts_now {token : String} {c : Claims}
    (h : s.validate now token = .ok c) :
    (∃ (parts : Compact) (header : Json) (a : Algorithm) (hash : Hash) (payload : Json),
      token.toList = parts.message ++ '.' :: parts.signature ∧ '.' ∉ parts.signature ∧
      parts.message = parts.header ++ '.' :: parts.payload ∧ '.' ∉ parts.payload ∧
      Compact.json? parts.header = some header ∧ Header.algorithm? header = some a ∧
      (a = .hs256 ∧ hash = sha256 ∨ a = .hs384 ∧ hash = sha384 ∨ a = .hs512 ∧ hash = sha512) ∧
      parts.signature = Base64Url.encode (hash.hmac (Utf8.bytes s.settings.secret)
        (Utf8.bytes (String.ofList parts.message))) ∧
      Compact.json? parts.payload = some payload ∧ Claims.ofJson? payload = some c) ∧
    c.issuer = s.settings.issuer ∧ 0 ≤ c.expiresAt.toInt ∧
    now.seconds ≤ c.expiresAt.toInt ∧ (now.OnClock → c.isExpired now = .ok false) ∧
    c.notBefore.toInt ≤ now.seconds ∧
    (∀ now' token' c' m sig sig', s.validate now' token' = .ok c' →
      '.' ∉ sig → '.' ∉ sig' → token.toList = m ++ '.' :: sig →
      token'.toList = m ++ '.' :: sig' → token' = token) ∧
    ∀ (s' : Signer) now' c', s'.validate now' token = .ok c' →
      s'.settings.issuer = s.settings.issuer := by
  obtain ⟨parts, a, hash, p, hread, ha, hkeyed, hsig, hp, rfl, ht⟩ := accepted h
  obtain ⟨hparts, hlast, hpay⟩ := Compact.read_eq_ok_iff.1 hread
  obtain ⟨header, hheader, halg⟩ := Compact.algorithm_eq_ok_iff.1 ha
  obtain ⟨payload, hpayload, hclaims, hterms⟩ := Compact.readPayload_eq_ok_iff.1 hp
  have hagree := Terms.agree_of_ofJson? hclaims hterms
  obtain ⟨hnow, hend, hstart, hissuer, _⟩ := (checkTerms_eq_ok_iff hagree).1 ht
  refine ⟨?_, hissuer, by omega, hend, ?_, hstart, ?_, ?_⟩
  · have hkind : a = .hs256 ∧ hash = sha256 ∨ a = .hs384 ∧ hash = sha384 ∨
        a = .hs512 ∧ hash = sha512 := by
      simpa [Algorithm.keyed] using hkeyed
    exact ⟨parts, header, a, hash, payload, hparts, hlast, rfl, hpay, hheader, halg, hkind, hsig,
      hpayload, hclaims⟩
  · intro hclock
    have hover : p.claims.isOver now = false := by
      rw [Claims.isOver, decide_eq_false_iff_not]
      omega
    rw [Claims.isExpired, Instant.look_of_onClock hclock, hover]
  · intro now' token' c' m sig sig' h' hdot hdot' hm hm'
    exact token_of_message h h' hdot hdot' hm hm'
  · intro s' now' c' h'
    obtain ⟨parts', _, _, p', hread', _, _, _, hp', _, ht'⟩ := accepted h'
    rw [hread] at hread'
    cases hread'
    rw [hp] at hp'
    cases hp'
    have hissuer' := ((checkTerms_eq_ok_iff hagree).1 ht').2.2.2.1
    exact hissuer'.symm.trans hissuer

/-- A signer for a short token. -/
def briefSigner : Signer := ⟨{ secret := "hush", issuer := "a" }, by decide⟩

/-- A token of this signer. It counts for nine seconds. -/
def briefToken : String :=
  "eyJhbGciOiJIUzI1NiJ9" ++
    ".eyJzdWIiOiI3IiwibmFtZSI6IiIsImV4cCI6OSwiaWF0IjowLCJuYmYiOjAsImlzcyI6ImEiLCJqdGkiOiIifQ" ++
    ".HVEUleLd6CHSqGGM_rIvtiudZQVhivGldFNQC63PGsg"

theorem exists_claims_of_isOk {token : String} (h : (s.validate now token).isOk = true) :
    ∃ c, s.validate now token = .ok c := by
  cases hc : s.validate now token with
  | error f =>
    rw [hc] at h
    cases h
  | ok c => exact ⟨c, rfl⟩

theorem exists_claims_brief : ∃ c, briefSigner.validate ⟨9, 0⟩ briefToken = .ok c :=
  exists_claims_of_isOk (by decide +kernel)

/-- In its last second the brief token is in force. -/
theorem a_brief_token_is_accepted :
    ∃ c, briefSigner.validate ⟨9, 0⟩ briefToken = .ok c ∧ c.issuer = "a" ∧
      9 ≤ c.expiresAt.toInt ∧ c.isExpired ⟨9, 0⟩ = .ok false ∧ c.notBefore.toInt ≤ 9 := by
  obtain ⟨c, hc⟩ := exists_claims_brief
  obtain ⟨_, hissuer, _, hend, hlook, hstart, _⟩ :=
    an_accepted_token_is_signed_and_counts_now hc
  exact ⟨c, hc, hissuer, hend, hlook (by decide), hstart⟩

/-- A token of this signer that lasts beyond the calendar. -/
def lastingToken : String :=
  "eyJ0eXAiOiJKV1QiLCJhbGciOiJIUzI1NiJ9" ++
    ".eyJzdWIiOiI3IiwibmFtZSI6IiIsImV4cCI6OTAwMDAwMDAwMDAwMCwiaWF0IjowLCJuYmYiOjAsImlzcyI6ImEi" ++
    "LCJqdGkiOiIifQ.6SJFBVaB9GBHyXHELAtKqJpFqyhu3H7FMR2aH_WLZ3M"

/-- Behind the last second of the calendar a token can still be accepted, but
there is no clock to find it in force by. -/
theorem no_clock_finds_a_lasting_token_in_force :
    (0 : Int) ≤ 8210266876800 ∧
      ∃ c, briefSigner.validate ⟨8210266876800, 0⟩ lastingToken = .ok c ∧
        c.isExpired ⟨8210266876800, 0⟩ ≠ .ok false := by
  obtain ⟨c, hc⟩ : ∃ c, briefSigner.validate ⟨8210266876800, 0⟩ lastingToken = .ok c :=
    exists_claims_of_isOk (by decide +kernel)
  have hclock : ¬Instant.OnClock ⟨8210266876800, 0⟩ := by decide
  refine ⟨by decide, c, hc, ?_⟩
  rw [Claims.isExpired, Instant.look_of_not_onClock hclock]
  simp

end Signer

end Warrant.Token
