-- What a payload says, read twice: once for the claims, and once more for the
-- checks. The two readings agree on the times and on the issuer, so a check
-- of the terms is a check of the claims.
import Warrant.Token.Claims

namespace Warrant.Token

open Warrant.Text

/-! ## The claims -/

/-- The fields of a record spell the claims. -/
structure Claims.Spelled (fields : List (String × Json)) (c : Claims) : Prop where
  subject : ∃ j text, fields.lookup "sub" = some j ∧ j.text? = some text ∧
    Decimal.readWord? text.toList = some c.subject
  name : ∃ j, fields.lookup "name" = some j ∧ j.text? = some c.name
  roles : Json.fieldOr [] Json.texts? (fields.lookup "roles") = some c.roles
  extra : Json.fieldOr .empty (Value.attributes? (Value.maxLevels - 1))
    (fields.lookup "extra") = some c.extra
  expiresAt : ∃ j, fields.lookup "exp" = some j ∧ j.int64? = some c.expiresAt
  issuedAt : ∃ j, fields.lookup "iat" = some j ∧ j.int64? = some c.issuedAt
  notBefore : ∃ j, fields.lookup "nbf" = some j ∧ j.int64? = some c.notBefore
  issuer : ∃ j, fields.lookup "iss" = some j ∧ j.text? = some c.issuer
  id : ∃ j, fields.lookup "jti" = some j ∧ j.text? = some c.id

theorem Claims.ofJson?_eq_some_iff {j : Json} {c : Claims} :
    Claims.ofJson? j = some c ↔
      ∃ fields, j.fields? Claims.fieldNames = some fields ∧ c.Spelled fields := by
  constructor
  · intro h
    obtain ⟨fields, hf, h⟩ := Option.bind_eq_some_iff.1 h
    obtain ⟨sub, hsub, h⟩ := Option.bind_eq_some_iff.1 h
    obtain ⟨text, htext, h⟩ := Option.bind_eq_some_iff.1 h
    obtain ⟨subject, hsubject, h⟩ := Option.bind_eq_some_iff.1 h
    obtain ⟨named, hnamed, h⟩ := Option.bind_eq_some_iff.1 h
    obtain ⟨name, hname, h⟩ := Option.bind_eq_some_iff.1 h
    obtain ⟨roles, hroles, h⟩ := Option.bind_eq_some_iff.1 h
    obtain ⟨extra, hextra, h⟩ := Option.bind_eq_some_iff.1 h
    obtain ⟨exp, hexp, h⟩ := Option.bind_eq_some_iff.1 h
    obtain ⟨expiresAt, hexpiresAt, h⟩ := Option.bind_eq_some_iff.1 h
    obtain ⟨iat, hiat, h⟩ := Option.bind_eq_some_iff.1 h
    obtain ⟨issuedAt, hissuedAt, h⟩ := Option.bind_eq_some_iff.1 h
    obtain ⟨nbf, hnbf, h⟩ := Option.bind_eq_some_iff.1 h
    obtain ⟨notBefore, hnotBefore, h⟩ := Option.bind_eq_some_iff.1 h
    obtain ⟨iss, hiss, h⟩ := Option.bind_eq_some_iff.1 h
    obtain ⟨issuer, hissuer, h⟩ := Option.bind_eq_some_iff.1 h
    obtain ⟨jti, hjti, h⟩ := Option.bind_eq_some_iff.1 h
    obtain ⟨id, hid, h⟩ := Option.bind_eq_some_iff.1 h
    cases h
    exact ⟨fields, hf, ⟨sub, text, hsub, htext, hsubject⟩, ⟨named, hnamed, hname⟩, hroles, hextra,
      ⟨exp, hexp, hexpiresAt⟩, ⟨iat, hiat, hissuedAt⟩, ⟨nbf, hnbf, hnotBefore⟩,
      ⟨iss, hiss, hissuer⟩, ⟨jti, hjti, hid⟩⟩
  · rintro ⟨fields, hf, ⟨sub, text, hsub, htext, hsubject⟩, ⟨named, hnamed, hname⟩, hroles,
      hextra, ⟨exp, hexp, hexpiresAt⟩, ⟨iat, hiat, hissuedAt⟩, ⟨nbf, hnbf, hnotBefore⟩,
      ⟨iss, hiss, hissuer⟩, ⟨jti, hjti, hid⟩⟩
    simp only [Claims.ofJson?, bind, Option.bind, hf, hsub, htext, hsubject, hnamed, hname, hroles,
      hextra, hexp, hexpiresAt, hiat, hissuedAt, hnbf, hnotBefore, hiss, hissuer, hjti, hid, pure]

/-! ## The terms -/

/-- The checks see what the claims say. A time before 1970 is none for them. -/
structure Terms.Agree (t : Terms) (c : Claims) : Prop where
  expiresAt : t.expiresAt = c.expiresAt.toInt.toNat?
  notBefore : t.notBefore = c.notBefore.toInt.toNat?
  issuer : t.issuer = some c.issuer

theorem integer?_of_int64? {j : Json} {w : Int64} (h : j.int64? = some w) :
    j.integer? = some w.toInt := by
  obtain ⟨n, hn, hw⟩ := Option.bind_eq_some_iff.1 h
  rw [hn, Word.signed?_eq_some_iff.1 hw]

theorem time?_of_int64? {j : Json} {w : Int64} (h : j.int64? = some w) :
    Terms.time? j = w.toInt.toNat? := by
  rw [Terms.time?, integer?_of_int64? h, Option.bind_some]

/-- The two readings of a payload agree. -/
theorem Terms.agree_of_ofJson? {j : Json} {c : Claims} {t : Terms}
    (hc : Claims.ofJson? j = some c) (ht : Terms.ofJson? j = some t) : t.Agree c := by
  obtain ⟨members, hm, ht⟩ := Option.bind_eq_some_iff.1 ht
  obtain ⟨hasAudience, _, ht⟩ := Option.bind_eq_some_iff.1 ht
  cases ht
  obtain ⟨fields, hf, hs⟩ := Claims.ofJson?_eq_some_iff.1 hc
  obtain ⟨exp, hexp, hexp64⟩ := hs.expiresAt
  obtain ⟨nbf, hnbf, hnbf64⟩ := hs.notBefore
  obtain ⟨iss, hiss, htext⟩ := hs.issuer
  cases j with
  | object own =>
    obtain ⟨members', hm', hlookup⟩ := Json.lookup_of_fields? hf
    rw [hm] at hm'
    cases hm'
    rw [hlookup "exp" (by decide)] at hexp
    rw [hlookup "nbf" (by decide)] at hnbf
    rw [hlookup "iss" (by decide)] at hiss
    constructor
    · dsimp only
      rw [hexp, Option.bind_some, time?_of_int64? hexp64]
    · dsimp only
      rw [hnbf, Option.bind_some, time?_of_int64? hnbf64]
    · dsimp only
      rw [hiss, Option.bind_some, htext]
  | _ => cases hm

end Warrant.Token
