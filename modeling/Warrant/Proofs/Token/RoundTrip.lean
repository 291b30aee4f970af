-- A token that the signer makes is one that it reads. Each stage of a check
-- undoes a step of the signing: the parts, the base64, the JSON text, the
-- claims. So what is left of a check is the terms, and those of a new token
-- hold from the second of its issue to the second of its end.
--
-- The extra claims are a map, and a map has no order of its own. So the same
-- claims have many texts, and what is said here is said of all of them.
import Warrant.Proofs.Json.Record
import Warrant.Proofs.Text.Base64Url
import Warrant.Proofs.Token.Verification
import Warrant.Proofs.Value.Storage

namespace Warrant.Token

open Warrant.Text Warrant.Digest

/-! ## Parts -/

/-- A tree is read back from its part. -/
theorem Compact.json?_encodeJson {j : Json} (h : j.Plain) : json? (encodeJson j) = some j := by
  unfold json? decode encodeJson
  rw [Base64Url.decode_encode]
  simp only [Except.mapError, Except.toOption, bind, Option.bind, Json.ofBytes?_bytes,
    Json.read?_write h]

/-! The parts of a new token. -/

theorem Compact.header_signJson (secret : String) (payload : Json) :
    (signJson secret payload).header = encodeJson Header.own := by
  simp only [signJson]

theorem Compact.payload_signJson (secret : String) (payload : Json) :
    (signJson secret payload).payload = encodeJson payload := by
  simp only [signJson]

theorem Compact.signature_signJson (secret : String) (payload : Json) :
    (signJson secret payload).signature =
      signatureOf sha256 secret (signJson secret payload).message := by
  simp only [signJson, message]

theorem Header.algorithm?_own : Header.algorithm? Header.own = some .hs256 := by
  rfl

/-- A new token is read as the parts that it was made of. -/
theorem Compact.read_signJson (secret : String) (j : Json) :
    read (signJson secret j).text = .ok (signJson secret j) := by
  rw [read_eq_ok_iff]
  refine ⟨?_, ?_, ?_⟩
  · unfold text
    rw [String.toList_ofList]
  · rw [signature_signJson]
    exact Base64Url.dot_not_mem_encode _
  · rw [payload_signJson]
    exact Base64Url.dot_not_mem_encode _

theorem Compact.algorithm_signJson (secret : String) (j : Json) :
    (signJson secret j).algorithm = .ok .hs256 := by
  rw [algorithm_eq_ok_iff]
  refine ⟨Header.own, ?_, Header.algorithm?_own⟩
  rw [header_signJson]
  apply json?_encodeJson
  apply Json.plain_ofFields
  simp only [List.forall_mem_cons]
  exact ⟨.text _, .text _, by simp⟩

/-! ## Claims -/

namespace Claims

/-- A payload that the claims are written as. -/
inductive Form (c : Claims) : Json → Prop
  | mk {extra : Json} : Value.AttributesForm c.extra extra → Form c (.ofFields (c.fields extra))

theorem form_toJson (c : Claims) : c.Form c.toJson := .mk (.refl _)

/-- Claims that a payload can carry to a reader. The payload is a level of its
own around the extra claims. -/
structure Faithful (c : Claims) : Prop where
  extra : Value.Faithful (.ofMap c.extra)
  levels : (Value.ofMap c.extra).depth + 1 ≤ 127

variable {c : Claims} {extra : Json}

/-- A reader finds the extra claims in each of their forms. -/
theorem Faithful.keeps_extra (h : c.Faithful) (hextra : Value.AttributesForm c.extra extra) :
    Json.Keeps (Value.attributes? (Value.maxLevels - 1)) c.extra extra := by
  apply Value.keeps_attributesForm h.extra _ hextra
  have hlevels := h.levels
  omega

theorem names_sublist (c : Claims) (extra : Json) :
    ((c.fields extra).map Prod.fst).Sublist fieldNames := by
  have hnames : (c.fields extra).map Prod.fst = ["sub", "name"] ++
      (if c.roles.isEmpty then [] else ["roles"]) ++
      (if c.extra.entries.isEmpty then [] else ["extra"]) ++ ["exp", "iat", "nbf", "iss", "jti"] := by
    unfold fields
    simp only [List.map_append, List.map_cons, List.map_nil, apply_ite (List.map Prod.fst)]
  rw [hnames]
  split
  · split
    · decide
    · decide
  · split
    · decide
    · decide

theorem plain_fields (c : Claims) (hextra : extra.Plain) :
    (Json.ofFields (c.fields extra)).Plain := by
  apply Json.plain_ofFields
  unfold fields
  simp only [List.forall_mem_append, List.forall_mem_cons]
  refine ⟨⟨⟨⟨.text _, .text _, by simp⟩, ?_⟩, ?_⟩, .int _, .int _, .int _, .text _, .text _, by simp⟩
  · split
    · simp
    · simpa using Json.plain_texts c.roles
  · split
    · simp
    · simpa using hextra

/-- A field that may be left out. -/
theorem lookup_optional (absent : Bool) (name key : String) (j : Json) :
    (if absent then [] else [(key, j)]).lookup name =
      if name = key then (if absent then none else some j) else none := by
  cases absent
  · by_cases h : name = key
    · simp [h]
    · have hb : (name == key) = false := by simpa using h
      simp [List.lookup, h, hb]
  · simp

theorem lookup_roles (c : Claims) (extra : Json) :
    (c.fields extra).lookup "roles" = if c.roles.isEmpty then none else some (.texts c.roles) := by
  simp only [fields, List.lookup_append, lookup_optional]
  simp [List.lookup]

theorem lookup_extra (c : Claims) (extra : Json) :
    (c.fields extra).lookup "extra" =
      if c.extra.entries.isEmpty then none else some extra := by
  simp only [fields, List.lookup_append, lookup_optional]
  simp [List.lookup]

/-- The fields at the end are always there. -/
theorem lookup_last (c : Claims) (extra : Json) {name : String}
    (h : name ∈ ["exp", "iat", "nbf", "iss", "jti"]) :
    (c.fields extra).lookup name =
      [("exp", Json.int c.expiresAt.toInt), ("iat", .int c.issuedAt.toInt),
        ("nbf", .int c.notBefore.toInt), ("iss", .text c.issuer), ("jti", .text c.id)].lookup name := by
  have hother : name ∉ ["sub", "name", "roles", "extra"] := by
    simp only [List.mem_cons, List.not_mem_nil, or_false] at h
    rcases h with rfl | rfl | rfl | rfl | rfl
    · decide
    · decide
    · decide
    · decide
    · decide
  simp only [List.mem_cons, List.not_mem_nil, or_false, not_or] at hother
  obtain ⟨hsub, hname, hroles, hextra⟩ := hother
  have hfirst : [("sub", Json.text (Decimal.text c.subject.toNat)), ("name", .text c.name)].lookup
      name = none := by
    simp [List.lookup_eq_none_iff, hsub, hname]
  unfold fields
  rw [List.lookup_append, List.lookup_append, List.lookup_append, hfirst, lookup_optional,
    lookup_optional, if_neg hroles, if_neg hextra]
  rfl

/-- The fields of a payload spell the claims. -/
theorem spelled_fields (h : c.Faithful) (hextra : Value.AttributesForm c.extra extra) :
    c.Spelled (c.fields extra) := by
  constructor
  · exact ⟨_, _, rfl, rfl, by simpa [Decimal.text] using Decimal.readWord?_render c.subject⟩
  · exact ⟨_, rfl, rfl⟩
  · rw [lookup_roles]
    split
    · rename_i hr
      rw [List.isEmpty_iff.1 hr]
      rfl
    · exact Json.texts?_texts c.roles
  · rw [lookup_extra]
    split
    · rename_i he
      exact congrArg some (KeyMap.eq_empty he).symm
    · exact (h.keeps_extra hextra).found
  · exact ⟨_, lookup_last c extra (by decide), Json.int64?_int c.expiresAt⟩
  · exact ⟨_, lookup_last c extra (by decide), Json.int64?_int c.issuedAt⟩
  · exact ⟨_, lookup_last c extra (by decide), Json.int64?_int c.notBefore⟩
  · exact ⟨_, lookup_last c extra (by decide), rfl⟩
  · exact ⟨_, lookup_last c extra (by decide), rfl⟩

/-- The claims of a payload are the ones that it was made of. -/
theorem keeps_form (h : c.Faithful) {j : Json} (hj : c.Form j) : Json.Keeps ofJson? c j := by
  cases hj with
  | @mk extra hextra =>
    refine ⟨c.plain_fields (h.keeps_extra hextra).plain, ?_⟩
    rw [ofJson?_eq_some_iff]
    exact ⟨c.fields extra, Json.fields?_ofFields (by decide) (c.names_sublist extra),
      spelled_fields h hextra⟩

/-! The times of claims that start now. Where the sums fit a word, they are
exact. -/

theorem toInt_notBefore_starting {now : Instant} (id : String) (subject : UserId) (name : String)
    (roles : List String) (extra : Attributes) (issuer : String) (ttl : UInt64)
    (h0 : 0 ≤ now.seconds) (hfits : now.seconds < 2 ^ 63) :
    (starting now id subject name roles extra issuer ttl).notBefore.toInt = now.seconds :=
  Int64.toInt_ofInt_of_le (by omega) (by omega)

theorem toInt_expiresAt_starting {now : Instant} (id : String) (subject : UserId) (name : String)
    (roles : List String) (extra : Attributes) (issuer : String) (ttl : UInt64)
    (h0 : 0 ≤ now.seconds) (hfits : now.seconds + ttl.toNat < 2 ^ 63) :
    (starting now id subject name roles extra issuer ttl).expiresAt.toInt =
      now.seconds + ttl.toNat :=
  Int64.toInt_ofInt_of_le (by omega) (by omega)

end Claims

/-! ## Payloads -/

theorem Terms.audience?_fields (c : Claims) (extra : Json) :
    Terms.audience? (c.fields extra) = some false := by
  have hnone : (c.fields extra).filter (·.1 == "aud") = [] := by
    rw [List.filter_eq_nil_iff]
    intro f hf haud
    have hname : f.1 ∈ Claims.fieldNames :=
      (c.names_sublist extra).subset (List.mem_map_of_mem hf)
    rw [beq_iff_eq.1 haud] at hname
    revert hname
    decide
  rw [audience?, hnone]

/-- A payload sets terms, and an audience is none of them. -/
theorem Terms.ofJson?_form {c : Claims} {j : Json} (hj : c.Form j) :
    ∃ t, Terms.ofJson? j = some t ∧ t.hasAudience = false := by
  cases hj with
  | @mk extra _ =>
    have hmembers := Json.members?_ofFields (c.fields extra)
    unfold Terms.ofJson? Terms.ofMembers?
    simp only [hmembers, Terms.audience?_fields, bind, Option.bind, pure]
    exact ⟨_, rfl, rfl⟩

/-- A payload gives back its claims, and the terms that they set. -/
theorem Compact.readPayload_signJson {c : Claims} {j : Json} (h : c.Faithful) (hj : c.Form j)
    (secret : String) :
    ∃ p, (signJson secret j).readPayload = .ok p ∧ p.claims = c ∧ p.terms.Agree c ∧
      p.terms.hasAudience = false := by
  have hkeeps := Claims.keeps_form h hj
  obtain ⟨t, ht, haudience⟩ := Terms.ofJson?_form hj
  refine ⟨⟨c, t⟩, ?_, rfl, Terms.agree_of_ofJson? hkeeps.found ht, haudience⟩
  rw [readPayload_eq_ok_iff, payload_signJson]
  exact ⟨j, json?_encodeJson hkeeps.plain, hkeeps.found, ht⟩

namespace Signer

variable {s : Signer} {now : Instant}

/-! ## Signed claims -/

/-- The text is a token of the signer for the claims. A map has no order, so
there is one for each order of the extra claims. -/
def Signs (s : Signer) (c : Claims) (token : String) : Prop :=
  ∃ j, c.Form j ∧ token = (Compact.signJson s.settings.secret j).text

theorem signs_sign (s : Signer) (c : Claims) : s.Signs c (s.sign c) :=
  ⟨c.toJson, c.form_toJson, rfl⟩

theorem checkSignature_signJson (s : Signer) (j : Json) :
    s.checkSignature (Compact.signJson s.settings.secret j) .hs256 = .ok () := by
  rw [checkSignature_eq_ok_iff]
  exact ⟨sha256, by simp [Algorithm.keyed], Compact.signature_signJson _ j⟩

/-- What is left of a check of a new token is the terms that its claims set. -/
theorem Signs.verify {c : Claims} {token : String} (h : s.Signs c token) (hfaithful : c.Faithful) :
    ∃ terms : Terms, terms.Agree c ∧ terms.hasAudience = false ∧
      ∀ now, s.verify now token = (s.checkTerms now terms).map fun _ => c := by
  obtain ⟨j, hj, rfl⟩ := h
  obtain ⟨p, hpayload, hc, hagree, haudience⟩ :=
    Compact.readPayload_signJson hfaithful hj s.settings.secret
  refine ⟨p.terms, hagree, haudience, ?_⟩
  intro now
  unfold Signer.verify
  simp only [Except.mapError, bind, Except.bind, Compact.read_signJson,
    Compact.algorithm_signJson, checkSignature_signJson, hpayload]
  subst hc
  cases s.checkTerms now p.terms with
  | error e => rfl
  | ok u => rfl

/-! ## The window -/

/-- A token that counts no more. -/
theorem checkTerms_after {t : Terms} {c : Claims} (h : t.Agree c) (hend : 0 ≤ c.expiresAt.toInt)
    (hnow : c.expiresAt.toInt < now.seconds) : s.checkTerms now t = .error .expired := by
  obtain ⟨e, he⟩ := Int.eq_ofNat_of_zero_le hend
  unfold checkTerms
  rw [h.expiresAt, Int.mem_toNat?.2 he]
  dsimp only
  rw [if_neg (by omega), if_pos (by omega)]

/-- A token that does not count yet. -/
theorem checkTerms_before {t : Terms} {c : Claims} (h : t.Agree c) (h0 : 0 ≤ now.seconds)
    (hend : now.seconds ≤ c.expiresAt.toInt) (hnow : now.seconds < c.notBefore.toInt) :
    s.checkTerms now t = .error .notYetValid := by
  obtain ⟨e, he⟩ := Int.eq_ofNat_of_zero_le (show 0 ≤ c.expiresAt.toInt by omega)
  obtain ⟨n, hn⟩ := Int.eq_ofNat_of_zero_le (show 0 ≤ c.notBefore.toInt by omega)
  unfold checkTerms
  rw [h.expiresAt, h.notBefore, Int.mem_toNat?.2 he, Int.mem_toNat?.2 hn]
  dsimp only
  rw [if_neg (by omega), if_neg (by omega), if_pos]
  rw [Option.any_some, decide_eq_true_eq]
  omega

/-- A token counts for some claims from one second to another. Sooner it does
not count yet, and later it has expired. -/
def CountsFor (s : Signer) (token : String) (c : Claims) (first last : Int) : Prop :=
  ∀ t : Instant, 0 ≤ t.seconds →
    (first ≤ t.seconds → t.seconds ≤ last → s.validate t token = .ok c) ∧
    (last < t.seconds → s.validate t token = .error (.refused .tokenExpired)) ∧
    (t.seconds < first → s.validate t token = .error (.refused .tokenNotYetValid))

/-- A new token counts for its claims, from their start to their end. -/
theorem Signs.countsFor {c : Claims} {token : String} (h : s.Signs c token)
    (hfaithful : c.Faithful) (hissuer : c.issuer = s.settings.issuer)
    (hstart : 0 ≤ c.notBefore.toInt) (hend : c.notBefore.toInt ≤ c.expiresAt.toInt) :
    s.CountsFor token c c.notBefore.toInt c.expiresAt.toInt := by
  obtain ⟨terms, hagree, haudience, hverify⟩ := h.verify hfaithful
  intro t h0
  refine ⟨?_, ?_, ?_⟩
  · intro hfirst hlast
    have hterms : s.checkTerms t terms = .ok () :=
      (checkTerms_eq_ok_iff hagree).2 ⟨h0, hlast, hfirst, hissuer, haudience⟩
    rw [validate_eq_ok_iff, hverify, hterms]
    rfl
  · intro hlast
    have hterms : s.checkTerms t terms = .error .expired :=
      checkTerms_after hagree (by omega) hlast
    have hfault : s.verify t token = .error .expired := by
      rw [hverify, hterms]
      rfl
    exact validate_of_verify_error hfault (by simp)
  · intro hfirst
    have hterms : s.checkTerms t terms = .error .notYetValid :=
      checkTerms_before hagree h0 (by omega) hfirst
    have hfault : s.verify t token = .error .notYetValid := by
      rw [hverify, hterms]
      rfl
    exact validate_of_verify_error hfault (by simp)

/-! ## Issued tokens -/

/-- A token for a subject that counts from the second of an instant, and to
the end of a lifetime. -/
def Issued (s : Signer) (token : String) (now : Instant) (ttl : UInt64) (subject : UserId)
    (name : String) (roles : List String) (extra : Attributes) : Prop :=
  ∃ c : Claims, c.subject = subject ∧ c.name = name ∧ c.roles = roles ∧ c.extra = extra ∧
    c.issuer = s.settings.issuer ∧ c.issuedAt.toInt = now.seconds ∧
    c.notBefore.toInt = now.seconds ∧ c.expiresAt.toInt = now.seconds + ttl.toNat ∧
    s.CountsFor token c now.seconds (now.seconds + ttl.toNat)

theorem Signs.issued {c : Claims} {token : String} {ttl : UInt64} (h : s.Signs c token)
    (hfaithful : c.Faithful) (hissuer : c.issuer = s.settings.issuer) (h0 : 0 ≤ now.seconds)
    (hissued : c.issuedAt.toInt = now.seconds) (hfirst : c.notBefore.toInt = now.seconds)
    (hlast : c.expiresAt.toInt = now.seconds + ttl.toNat) :
    s.Issued token now ttl c.subject c.name c.roles c.extra := by
  have hcounts := h.countsFor hfaithful hissuer (by omega) (by omega)
  rw [hfirst, hlast] at hcounts
  exact ⟨c, rfl, rfl, rfl, rfl, hissuer, hissued, hfirst, hlast, hcounts⟩

/-- Claims that start now are issued for their lifetime, if its end fits a
word. -/
theorem issued_starting {ttl : UInt64} {extra : Attributes} {id : String} {subject : UserId}
    {name : String} {roles : List String} {token : String}
    (h : s.Signs (.starting now id subject name roles extra s.settings.issuer ttl) token)
    (h0 : 0 ≤ now.seconds) (hend : now.seconds + ttl.toNat < 2 ^ 63)
    (hextra : Value.Faithful (.ofMap extra)) (hlevels : (Value.ofMap extra).depth + 1 ≤ 127) :
    s.Issued token now ttl subject name roles extra := by
  have hfirst := Claims.toInt_notBefore_starting id subject name roles extra s.settings.issuer ttl h0
    (by omega)
  have hlast := Claims.toInt_expiresAt_starting id subject name roles extra s.settings.issuer ttl h0
    hend
  apply h.issued
  · exact ⟨hextra, hlevels⟩
  · rfl
  · exact h0
  · exact hfirst
  · exact hfirst
  · exact hlast

/-! New claims need a clock. -/

theorem issueAccess_on_clock (h : now.OnClock) (s : Signer) (id : String) (subject : UserId)
    (name : String) (roles : List String) (extra : Attributes) :
    s.issueAccess now id subject name roles extra =
      .ok (s.sign (s.accessClaims now id subject name roles extra)) := by
  unfold issueAccess Claims.new
  rw [Instant.look_of_onClock h]
  rfl

theorem issueAccess_off_clock (h : ¬now.OnClock) (s : Signer) (id : String) (subject : UserId)
    (name : String) (roles : List String) (extra : Attributes) :
    s.issueAccess now id subject name roles extra = .error .died := by
  unfold issueAccess Claims.new
  rw [Instant.look_of_not_onClock h]
  rfl

theorem issueRefresh_on_clock (h : now.OnClock) (s : Signer) (id : String) (subject : UserId)
    (name : String) :
    s.issueRefresh now id subject name = .ok (s.sign (s.refreshClaims now id subject name)) := by
  unfold issueRefresh Claims.new
  rw [Instant.look_of_onClock h]
  rfl

/-- A token gives back what it was made for, from the second of its issue to
the last second of its lifetime. Before that it does not count yet, and after
that it has expired. An access token keeps its roles and its extra claims, and
a refresh token has none. It does not matter in which order the extra claims
are written. The instant of the issue must be one that a clock shows. -/
theorem a_token_counts_from_its_issue_for_its_lifetime (s : Signer) (now : Instant) (id : String)
    (subject : UserId) (name : String) (hclock : now.OnClock) :
    (∀ roles extra, now.seconds + s.settings.accessTtl.toNat < 2 ^ 63 →
      Value.Faithful (.ofMap extra) → (Value.ofMap extra).depth + 1 ≤ 127 →
      (∃ token, s.issueAccess now id subject name roles extra = .ok token ∧
        s.Signs (s.accessClaims now id subject name roles extra) token) ∧
      ∀ token, s.Signs (s.accessClaims now id subject name roles extra) token →
        s.Issued token now s.settings.accessTtl subject name roles extra) ∧
    (now.seconds + s.settings.refreshTtl.toNat < 2 ^ 63 →
      (∃ token, s.issueRefresh now id subject name = .ok token ∧
        s.Signs (s.refreshClaims now id subject name) token) ∧
      ∀ token, s.Signs (s.refreshClaims now id subject name) token →
        s.Issued token now s.settings.refreshTtl subject name [] .empty) := by
  constructor
  · intro roles extra hend hextra hlevels
    refine ⟨⟨_, issueAccess_on_clock hclock s id subject name roles extra, signs_sign ..⟩, ?_⟩
    intro token htoken
    exact issued_starting htoken hclock.1 hend hextra hlevels
  · intro hend
    refine ⟨⟨_, issueRefresh_on_clock hclock s id subject name, signs_sign ..⟩, ?_⟩
    intro token htoken
    exact issued_starting htoken hclock.1 hend Value.faithful_empty (by decide)

/-- The extra claims of a badge. -/
def badge : Attributes :=
  ⟨[("door", .int 4), ("note", .list [.int (-3), .text "later"])], by
    unfold Entries.Ordered
    decide⟩

theorem faithful_badge : Value.Faithful (.ofMap badge) := by
  have hitems : ∀ v ∈ [Value.int (-3), .text "later"], v.Faithful := by
    simp only [List.forall_mem_cons]
    exact ⟨Value.faithful_int _, Value.faithful_text (by decide), by simp⟩
  apply Value.faithful_map badge.ordered
  simp only [badge, List.forall_mem_cons]
  exact ⟨Value.faithful_int _, Value.faithful_list hitems, by simp⟩

/-- The same claims the other way round. -/
def badgeBackwards : Json :=
  .ofFields [("note", .array [.int (-3), .text "later"]), ("door", .int 4)]

theorem form_badgeBackwards : Value.AttributesForm badge badgeBackwards := by
  apply Json.Reordered.members
  · decide
  · exact (List.reverse_perm _).symm

/-- The claims of Zoë's badge. -/
def badgeClaims : Claims :=
  briefSigner.accessClaims ⟨1700000000, 0⟩ "b" 7 "Zoë" ["staff", "staff"] badge

/-- A token for them that is written backwards. -/
def backwardsToken : String :=
  (Compact.signJson "hush" (.ofFields (badgeClaims.fields badgeBackwards))).text

theorem signs_backwardsToken : briefSigner.Signs badgeClaims backwardsToken :=
  ⟨_, .mk form_badgeBackwards, rfl⟩

/-- A badge counts for a quarter of an hour, with its roles and its note, and
it may be written backwards. -/
theorem a_badge_counts_for_a_quarter_of_an_hour :
    Instant.OnClock ⟨1700000000, 0⟩ ∧ Value.Faithful (.ofMap badge) ∧
      (Value.ofMap badge).depth + 1 ≤ 127 ∧
      (∃ token, briefSigner.issueAccess ⟨1700000000, 0⟩ "b" 7 "Zoë" ["staff", "staff"] badge =
          .ok token ∧
        ∀ text ∈ [token, backwardsToken],
          (∃ c, briefSigner.validate ⟨1700000900, 0⟩ text = .ok c ∧
            c.roles = ["staff", "staff"] ∧ c.extra = badge) ∧
          briefSigner.validate ⟨1700000901, 0⟩ text = .error (.refused .tokenExpired) ∧
          briefSigner.validate ⟨1699999999, 0⟩ text = .error (.refused .tokenNotYetValid)) ∧
      ∃ token, briefSigner.issueRefresh ⟨1700000000, 0⟩ "r" 7 "Zoë" = .ok token ∧
        briefSigner.validate ⟨1700604801, 0⟩ token = .error (.refused .tokenExpired) := by
  have hclock : Instant.OnClock ⟨1700000000, 0⟩ := by decide
  have hlevels : (Value.ofMap badge).depth + 1 ≤ 127 := by decide
  obtain ⟨⟨token, htoken, hsigns⟩, hissued⟩ :=
    (a_token_counts_from_its_issue_for_its_lifetime briefSigner ⟨1700000000, 0⟩ "b" 7 "Zoë"
      hclock).1 ["staff", "staff"] badge (by decide) faithful_badge hlevels
  obtain ⟨⟨later, hlater, hsigns'⟩, hissued'⟩ :=
    (a_token_counts_from_its_issue_for_its_lifetime briefSigner ⟨1700000000, 0⟩ "r" 7 "Zoë"
      hclock).2 (by decide)
  have htexts : ∀ text ∈ [token, backwardsToken], briefSigner.Signs badgeClaims text := by
    simp only [List.forall_mem_cons]
    exact ⟨hsigns, signs_backwardsToken, by simp⟩
  refine ⟨hclock, faithful_badge, hlevels, ⟨token, htoken, ?_⟩, later, hlater, ?_⟩
  · intro text htext
    obtain ⟨c, _, _, hroles, hextra, _, _, _, _, hcounts⟩ := hissued text (htexts text htext)
    refine ⟨⟨c, ?_, hroles, hextra⟩, ?_, ?_⟩
    · exact (hcounts ⟨1700000900, 0⟩ (by decide)).1 (by decide) (by decide)
    · exact (hcounts ⟨1700000901, 0⟩ (by decide)).2.1 (by decide)
    · exact (hcounts ⟨1699999999, 0⟩ (by decide)).2.2 (by decide)
  · obtain ⟨_, _, _, _, _, _, _, _, _, hcounts⟩ := hissued' later hsigns'
    exact (hcounts ⟨1700604801, 0⟩ (by decide)).2.1 (by decide)

/-- Behind the last second of the calendar there is no new token, though
nothing else stands in its way. -/
theorem no_token_is_issued_behind_the_calendar :
    (0 : Int) ≤ 8210266876800 ∧
      8210266876800 + (briefSigner.settings.accessTtl.toNat : Int) < 2 ^ 63 ∧
      Value.Faithful (.ofMap .empty) ∧ (Value.ofMap .empty).depth + 1 ≤ 127 ∧
      ¬∃ token, briefSigner.issueAccess ⟨8210266876800, 0⟩ "" 7 "" [] .empty = .ok token := by
  refine ⟨by decide, by decide, Value.faithful_empty, by decide, ?_⟩
  rintro ⟨token, htoken⟩
  have hclock : ¬Instant.OnClock ⟨8210266876800, 0⟩ := by decide
  rw [issueAccess_off_clock hclock] at htoken
  cases htoken

end Signer

end Warrant.Token
