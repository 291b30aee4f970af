-- Codes and token pairs that are written down and read again. Their ends are
-- written with all their digits, however early or late the year is and also in
-- a leap second. So the record that is read is the one that was written, and it
-- lives as long, to the nanosecond.
import Warrant.OAuth.Json
import Warrant.Proofs.Instant
import Warrant.Proofs.Instant.Text
import Warrant.Proofs.Json.Record

namespace Warrant

theorem Instant.ofJson?_toJson {t : Instant} (h : t.InCalendar) : ofJson? t.toJson = some t := by
  unfold ofJson? toJson
  rw [Json.text?_text, Option.bind_eq_bind, Option.bind_some, read?_write h]

theorem Instant.plain_toJson (t : Instant) : t.toJson.Plain := .text t.write

namespace OAuth

/-! ## Codes -/

namespace AuthorizationCode

def fields (c : AuthorizationCode) : List (String × Json) :=
  [("code", .text c.code), ("client_id", .text c.client), ("subject_id", .int c.subject.toNat),
    ("redirect_uri", .text c.redirectUri), ("scopes", .texts c.scopes),
    ("expires_at", c.expiresAt.toJson)]

theorem plain_toJson (c : AuthorizationCode) : c.toJson.Plain := by
  apply Json.plain_ofFields
  simp only [List.forall_mem_cons]
  exact ⟨.text _, .text _, .int _, .text _, Json.plain_texts _, c.expiresAt.plain_toJson, by simp⟩

theorem ofJson?_toJson {c : AuthorizationCode} (h : c.expiresAt.InCalendar) :
    ofJson? c.toJson = some c := by
  have hfields : c.toJson.fields?
      ["code", "client_id", "subject_id", "redirect_uri", "scopes", "expires_at"] =
        some c.fields := Json.fields?_ofFields (by decide) (List.Sublist.refl _)
  have hcode : c.fields.lookup "code" = some (.text c.code) := rfl
  have hclient : c.fields.lookup "client_id" = some (.text c.client) := rfl
  have hsubject : c.fields.lookup "subject_id" = some (.int c.subject.toNat) := rfl
  have huri : c.fields.lookup "redirect_uri" = some (.text c.redirectUri) := rfl
  have hscopes : c.fields.lookup "scopes" = some (.texts c.scopes) := rfl
  have hend : c.fields.lookup "expires_at" = some c.expiresAt.toJson := rfl
  unfold ofJson?
  rw [hfields, Option.bind_eq_bind, Option.bind_some]
  rw [Json.bind_field hcode (Json.text?_text c.code)]
  rw [Json.bind_field hclient (Json.text?_text c.client)]
  rw [Json.bind_field hsubject (Json.word?_int c.subject)]
  rw [Json.bind_field huri (Json.text?_text c.redirectUri)]
  rw [Json.bind_field hscopes (Json.texts?_texts c.scopes)]
  rw [Json.bind_field hend (Instant.ofJson?_toJson h)]
  rfl

theorem read?_write {c : AuthorizationCode} (h : c.expiresAt.InCalendar) :
    read? c.toJson.write = some c := by
  unfold read?
  rw [Json.bind_read?_write c.plain_toJson, ofJson?_toJson h]

theorem isOver_iff (c : AuthorizationCode) (now : Instant) :
    c.isOver now = true ↔ c.expiresAt < now :=
  Instant.isAfter_iff now c.expiresAt

theorem isExpired_eq_ok_true_iff (c : AuthorizationCode) (now : Instant) :
    c.isExpired now = .ok true ↔ now.OnClock ∧ c.expiresAt < now := by
  rw [isExpired, Instant.look_eq_ok_iff, isOver_iff]

end AuthorizationCode

/-! ## Token pairs -/

namespace TokenPair

def fields (p : TokenPair) : List (String × Json) :=
  [("access_token", .text p.access), ("refresh_token", .text p.refresh),
    ("client_id", .text p.client), ("subject_id", .int p.subject.toNat),
    ("scopes", .texts p.scopes), ("expires_at", p.expiresAt.toJson)]

theorem plain_toJson (p : TokenPair) : p.toJson.Plain := by
  apply Json.plain_ofFields
  simp only [List.forall_mem_cons]
  exact ⟨.text _, .text _, .text _, .int _, Json.plain_texts _, p.expiresAt.plain_toJson, by simp⟩

theorem ofJson?_toJson {p : TokenPair} (h : p.expiresAt.InCalendar) :
    ofJson? p.toJson = some p := by
  have hfields : p.toJson.fields?
      ["access_token", "refresh_token", "client_id", "subject_id", "scopes", "expires_at"] =
        some p.fields := Json.fields?_ofFields (by decide) (List.Sublist.refl _)
  have haccess : p.fields.lookup "access_token" = some (.text p.access) := rfl
  have hrefresh : p.fields.lookup "refresh_token" = some (.text p.refresh) := rfl
  have hclient : p.fields.lookup "client_id" = some (.text p.client) := rfl
  have hsubject : p.fields.lookup "subject_id" = some (.int p.subject.toNat) := rfl
  have hscopes : p.fields.lookup "scopes" = some (.texts p.scopes) := rfl
  have hend : p.fields.lookup "expires_at" = some p.expiresAt.toJson := rfl
  unfold ofJson?
  rw [hfields, Option.bind_eq_bind, Option.bind_some]
  rw [Json.bind_field haccess (Json.text?_text p.access)]
  rw [Json.bind_field hrefresh (Json.text?_text p.refresh)]
  rw [Json.bind_field hclient (Json.text?_text p.client)]
  rw [Json.bind_field hsubject (Json.word?_int p.subject)]
  rw [Json.bind_field hscopes (Json.texts?_texts p.scopes)]
  rw [Json.bind_field hend (Instant.ofJson?_toJson h)]
  rfl

theorem read?_write {p : TokenPair} (h : p.expiresAt.InCalendar) :
    read? p.toJson.write = some p := by
  unfold read?
  rw [Json.bind_read?_write p.plain_toJson, ofJson?_toJson h]

theorem isOver_iff (p : TokenPair) (now : Instant) :
    p.isOver now = true ↔ p.expiresAt < now :=
  Instant.isAfter_iff now p.expiresAt

theorem isExpired_eq_ok_true_iff (p : TokenPair) (now : Instant) :
    p.isExpired now = .ok true ↔ now.OnClock ∧ p.expiresAt < now := by
  rw [isExpired, Instant.look_eq_ok_iff, isOver_iff]

end TokenPair

/-! ## The law -/

/-- A code that ends in the calendar is read as it was written, and so is a pair
of tokens. So the copy is over exactly when the record is, which is strictly
after its last instant, a look at a clock says the same of both, and the copy has
the same scopes. -/
theorem a_stored_record_lives_as_long :
    (∀ c : AuthorizationCode, c.expiresAt.InCalendar →
      AuthorizationCode.read? c.toJson.write = some c ∧
        ∀ copy, AuthorizationCode.read? c.toJson.write = some copy → ∀ now,
          copy.isOver now = c.isOver now ∧ (copy.isOver now = true ↔ c.expiresAt < now) ∧
          copy.isExpired now = c.isExpired now ∧
          (copy.isExpired now = .ok true ↔ now.OnClock ∧ c.expiresAt < now)) ∧
    ∀ p : TokenPair, p.expiresAt.InCalendar →
      TokenPair.read? p.toJson.write = some p ∧
        ∀ copy, TokenPair.read? p.toJson.write = some copy →
          (∀ now,
            copy.isOver now = p.isOver now ∧ (copy.isOver now = true ↔ p.expiresAt < now) ∧
            copy.isExpired now = p.isExpired now ∧
            (copy.isExpired now = .ok true ↔ now.OnClock ∧ p.expiresAt < now)) ∧
          ∀ scope, copy.hasScope scope = p.hasScope scope := by
  constructor
  · intro c h
    have hread := AuthorizationCode.read?_write h
    refine ⟨hread, ?_⟩
    intro copy hcopy now
    obtain rfl : c = copy := Option.some.inj (hread.symm.trans hcopy)
    exact ⟨rfl, c.isOver_iff now, rfl, c.isExpired_eq_ok_true_iff now⟩
  · intro p h
    have hread := TokenPair.read?_write h
    refine ⟨hread, ?_⟩
    intro copy hcopy
    obtain rfl : p = copy := Option.some.inj (hread.symm.trans hcopy)
    exact ⟨fun now => ⟨rfl, p.isOver_iff now, rfl, p.isExpired_eq_ok_true_iff now⟩, fun _ => rfl⟩

/-- A code that ends in a leap second of the year -2. -/
def ancientCode : AuthorizationCode :=
  ⟨"a\"b\n", "app", 18446744073709551615, "/cb", ["read", "read"], ⟨-62198755201, 1999999999⟩⟩

/-- A pair of tokens that end with the calendar. -/
def lastPair : TokenPair := ⟨"a", "r", "app", 0, [], ⟨Instant.lastSecond, 999999999⟩⟩

/-- The ancient code ends in the last nanosecond of its leap second, stored or
not, and the pair ends in the last nanosecond of all. A clock has never shown the
code in force. -/
theorem an_ancient_code_is_kept :
    ancientCode.expiresAt.InCalendar ∧ lastPair.expiresAt.InCalendar ∧
      ∃ copy copy', AuthorizationCode.read? ancientCode.toJson.write = some copy ∧
        copy.isOver ⟨-62198755201, 1999999999⟩ = false ∧
        copy.isOver ⟨-62198755200, 0⟩ = true ∧ copy.isExpired ⟨0, 0⟩ = .ok true ∧
        TokenPair.read? lastPair.toJson.write = some copy' ∧
        copy'.isOver ⟨Instant.lastSecond, 999999999⟩ = false ∧
        copy'.isExpired ⟨Instant.lastSecond, 999999999⟩ = .ok false ∧
        copy'.hasScope "read" = false := by
  have hcode : ancientCode.expiresAt.InCalendar := by decide
  have hpair : lastPair.expiresAt.InCalendar := by decide
  obtain ⟨hreadCode, _⟩ := a_stored_record_lives_as_long.1 ancientCode hcode
  obtain ⟨hreadPair, _⟩ := a_stored_record_lives_as_long.2 lastPair hpair
  refine ⟨hcode, hpair, ancientCode, lastPair, hreadCode, ?_, ?_, ?_, hreadPair, ?_, ?_, ?_⟩
  · decide
  · decide
  · decide
  · decide
  · decide
  · decide

end OAuth

end Warrant
