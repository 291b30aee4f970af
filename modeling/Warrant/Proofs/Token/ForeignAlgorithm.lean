-- A token is told to be wrongly signed where it declares an algorithm without
-- a shared secret. Two readers look at its header. A check splits the text at
-- the last two dots and wants the whole header in its right form. The other
-- reader takes what stands up to the first dot, drops padding, and wants one
-- field. They see the same name: base64 has neither dots nor padding, so a
-- header that a check can read is the text up to the first dot.
import Warrant.Proofs.Token.RoundTrip
import Warrant.Proofs.Token.Unverified

namespace Warrant.Token

open Warrant.Text

/-! ## The part up to the first dot -/

theorem dropWhile_of_not_mem {c : Char} {cs : List Char} (h : c ∉ cs) :
    cs.dropWhile (· = c) = cs := by
  cases cs with
  | nil => rfl
  | cons d r =>
    rw [List.mem_cons, not_or] at h
    rw [List.dropWhile_cons_of_neg]
    simpa using Ne.symm h.1

/-- What stands before a dot or the end is the part up to the first dot. -/
theorem takeWhile_ne_dot {part rest : List Char} (h : '.' ∉ part)
    (hrest : ∀ c, rest.head? = some c → c = '.') :
    (part ++ rest).takeWhile (· != '.') = part := by
  rw [List.takeWhile_append_of_pos]
  · cases rest with
    | nil => simp
    | cons c r =>
      obtain rfl := hrest c rfl
      simp
  · intro c hc
    rw [bne_iff_ne]
    rintro rfl
    exact h hc

/-- Padding behind a text without padding is dropped. -/
theorem drop_padding {part : List Char} (h : '=' ∉ part) (pads : Nat) :
    ((part ++ List.replicate pads '=').reverse.dropWhile (· = '=')).reverse = part := by
  rw [List.reverse_append, List.reverse_replicate, List.dropWhile_append_of_pos]
  · rw [dropWhile_of_not_mem (by simpa using h), List.reverse_reverse]
  · intro c hc
    simpa using List.eq_of_mem_replicate hc

namespace Compact

/-- A part that holds a tree has symbols only. -/
theorem not_mem_of_json? {part : List Char} {j : Json} (h : json? part = some j) {c : Char}
    (hc : c.toNat < 128) (hno : Base64Url.sextet? c.toUInt8 = none) : c ∉ part := by
  unfold json? at h
  cases hbytes : decode part with
  | error m =>
    rw [hbytes] at h
    cases h
  | ok bytes => exact Base64Url.not_mem_of_decode (ok_of_mapError hbytes) hc hno

end Compact

/-- The tree of the first part declares the algorithm, whatever follows it. -/
theorem declaredAlgorithm?_of_part {part : List Char} {header : Json}
    (h : Compact.json? part = some header) (pads : Nat) {rest : List Char}
    (hrest : ∀ c, rest.head? = some c → c = '.') :
    declaredAlgorithm? (String.ofList (part ++ List.replicate pads '=' ++ rest)) =
      Header.declared? header := by
  have hdot : '.' ∉ part := Compact.not_mem_of_json? h (by decide) (by decide)
  have hpad : '=' ∉ part := Compact.not_mem_of_json? h (by decide) (by decide)
  have hfirst : '.' ∉ part ++ List.replicate pads '=' := by
    rw [List.mem_append, not_or]
    refine ⟨hdot, fun hm => ?_⟩
    exact absurd (List.eq_of_mem_replicate hm) (by decide)
  unfold declaredAlgorithm?
  rw [String.toList_ofList, takeWhile_ne_dot hfirst hrest]
  dsimp only [bind, Option.bind]
  rw [drop_padding hpad, h]

/-! ## The two readers of a header -/

namespace Header

/-- A header that names an algorithm has all fields, or is an object. -/
theorem algorithm?_eq_some {header : Json} {a : Algorithm} (h : algorithm? header = some a) :
    ∃ fields alg, header.fields? fieldNames = some fields ∧
      isComplete fieldNames header = true ∧ fields.lookup "alg" = some alg ∧
      alg.name? = some a.name := by
  obtain ⟨fields, hfields, h⟩ := Option.bind_eq_some_iff.1 h
  obtain ⟨_, hcomplete, h⟩ := Option.bind_eq_some_iff.1 h
  obtain ⟨_, _, h⟩ := Option.bind_eq_some_iff.1 h
  obtain ⟨alg, halg, h⟩ := Option.bind_eq_some_iff.1 h
  obtain ⟨name, hname, h⟩ := Option.bind_eq_some_iff.1 h
  rw [Option.guard_eq_some'] at hcomplete
  rw [← Algorithm.name_of_ofName? h] at hname
  exact ⟨fields, alg, hfields, hcomplete, halg, hname⟩

/-- A header that declares a name has one field, or is an object. -/
theorem declared?_eq_some {header : Json} {name : String} (h : declared? header = some name) :
    ∃ fields alg, header.fields? ["alg"] = some fields ∧
      isComplete ["alg"] header = true ∧ fields.lookup "alg" = some alg ∧
      alg.text? = some name := by
  obtain ⟨_, hcomplete, h⟩ := Option.bind_eq_some_iff.1 h
  obtain ⟨fields, hfields, h⟩ := Option.bind_eq_some_iff.1 h
  obtain ⟨alg, halg, h⟩ := Option.bind_eq_some_iff.1 h
  rw [Option.guard_eq_some'] at hcomplete
  exact ⟨fields, alg, hfields, hcomplete, halg, h⟩

/-- If both readers take a header, it declares its algorithm by name. -/
theorem declared?_eq_name {header : Json} {a : Algorithm} {name : String}
    (ha : algorithm? header = some a) (hname : declared? header = some name) : name = a.name := by
  obtain ⟨fields, alg, hfields, hcomplete, halg, hown⟩ := algorithm?_eq_some ha
  obtain ⟨fields', alg', hfields', hcomplete', halg', htext⟩ := declared?_eq_some hname
  cases header with
  | array items =>
    -- a list has the number of fields of one reader only
    have hall : items.length = 10 := by simpa [isComplete, fieldNames] using hcomplete
    have hone : items.length = 1 := by simpa [isComplete] using hcomplete'
    omega
  | object own =>
    obtain ⟨members, hm, hmember⟩ := Json.lookup_of_fields? hfields
    obtain ⟨members', hm', hother⟩ := Json.lookup_of_fields? hfields'
    rw [hm] at hm'
    cases hm'
    have hsame : alg' = alg := by
      rw [hmember "alg" (by decide)] at halg
      rw [hother "alg" (by decide), halg] at halg'
      exact (Option.some.inj halg').symm
    rw [← hsame, Json.name?_of_text? htext] at hown
    exact Option.some.inj hown
  | _ => cases hfields

end Header

/-- A check that can read a header reads the name that the text declares. -/
theorem declaredAlgorithm?_eq_name {token name : String} {parts : Compact} {a : Algorithm}
    (hread : Compact.read token = .ok parts) (ha : parts.algorithm = .ok a)
    (hname : declaredAlgorithm? token = some name) : name = a.name := by
  obtain ⟨htoken, _⟩ := Compact.read_eq_ok_iff.1 hread
  obtain ⟨header, hheader, halg⟩ := Compact.algorithm_eq_ok_iff.1 ha
  let rest := '.' :: (parts.payload ++ '.' :: parts.signature)
  have hrest : ∀ c, rest.head? = some c → c = '.' := by simp [rest]
  have htext : token = String.ofList (parts.header ++ List.replicate 0 '=' ++ rest) := by
    apply String.toList_injective
    rw [htoken, String.toList_ofList]
    simp [Compact.message, rest]
  rw [htext, declaredAlgorithm?_of_part hheader 0 hrest] at hname
  exact Header.declared?_eq_name halg hname

/-! ## Algorithms with a shared secret -/

/-- The name starts like those of the algorithms with a shared secret. -/
def NamedKeyed (name : String) : Prop := ['H', 'S'] <+: name.toList

theorem Algorithm.name_of_keyed {a : Algorithm} {hash : Digest.Hash} (h : (a, hash) ∈ keyed) :
    a.name ∈ ["HS256", "HS384", "HS512"] := by
  simp only [keyed, List.mem_cons, Prod.mk.injEq, List.not_mem_nil, or_false] at h
  rcases h with ⟨rfl, _⟩ | ⟨rfl, _⟩ | ⟨rfl, _⟩
  · decide
  · decide
  · decide

theorem namedKeyed_of_mem {name : String} (h : name ∈ ["HS256", "HS384", "HS512"]) :
    NamedKeyed name := by
  simp only [List.mem_cons, List.not_mem_nil, or_false] at h
  unfold NamedKeyed
  rcases h with rfl | rfl | rfl
  · decide
  · decide
  · decide

namespace Signer

variable {s : Signer} {now : Instant} {token : String}

theorem declaresForeignAlgorithm_iff :
    declaresForeignAlgorithm token = true ↔
      ∃ name, declaredAlgorithm? token = some name ∧ ¬NamedKeyed name := by
  unfold declaresForeignAlgorithm NamedKeyed
  rw [Option.any_eq_true]
  simp only [Bool.not_eq_true', ← List.isPrefixOf_iff_prefix, Bool.not_eq_true]

/-- A signature that is right is one of an algorithm with a shared secret, so
the text declares no other. -/
theorem named_of_checkSignature {parts : Compact} {a : Algorithm} {name : String}
    (hread : Compact.read token = .ok parts) (ha : parts.algorithm = .ok a)
    (hs : s.checkSignature parts a = .ok ()) (hname : declaredAlgorithm? token = some name) :
    name ∈ ["HS256", "HS384", "HS512"] := by
  obtain ⟨hash, hkeyed, _⟩ := checkSignature_eq_ok_iff.1 hs
  rw [declaredAlgorithm?_eq_name hread ha hname]
  exact Algorithm.name_of_keyed hkeyed

theorem named_of_validate {c : Claims} {name : String} (h : s.validate now token = .ok c)
    (hname : declaredAlgorithm? token = some name) : name ∈ ["HS256", "HS384", "HS512"] := by
  obtain ⟨parts, a, p, hread, ha, hs, _⟩ := verify_eq_ok_iff.1 (validate_eq_ok_iff.1 h)
  exact named_of_checkSignature hread ha hs hname

/-- A foreign algorithm is a wrong signature, at whatever stage the check stops. -/
theorem validate_foreign {name : String} (s : Signer) (now : Instant)
    (hname : declaredAlgorithm? token = some name) (hforeign : ¬NamedKeyed name) :
    s.validate now token = .error (.refused .invalidSignature) := by
  cases hv : s.verify now token with
  | ok c =>
    have hnamed := named_of_validate (validate_eq_ok_iff.2 hv) hname
    exact absurd (namedKeyed_of_mem hnamed) hforeign
  | error fault =>
    rcases verify_eq_error hv with
      ⟨m, _, rfl⟩ | ⟨_, _, _, _, hs⟩ | ⟨parts, a, p, hform, hs, _⟩
    · rw [validate_of_malformed hv, if_pos (declaresForeignAlgorithm_iff.2 ⟨name, hname, hforeign⟩)]
    · exact validate_of_unsigned hv hs
    · have hnamed := named_of_checkSignature hform.read hform.algorithm hs hname
      exact absurd (namedKeyed_of_mem hnamed) hforeign

/-- What cannot be read is malformed, unless it declares a foreign algorithm. -/
theorem validate_of_named_malformed {m : Malformation}
    (h : s.verify now token = .error (.malformed m))
    (hnamed : ∀ name, declaredAlgorithm? token = some name → NamedKeyed name) :
    s.validate now token = .error (.refused (.tokenMalformed m)) := by
  rw [validate_of_malformed h, if_neg]
  rw [declaresForeignAlgorithm_iff]
  rintro ⟨name, hname, hforeign⟩
  exact hforeign (hnamed name hname)

/-! ## The law -/

/-- A text that declares an algorithm whose name does not start with HS is
wrongly signed, for every signer and at every instant. It does not matter how
many dots and how much padding it has, and what the rest of it holds. A text that
cannot be read is malformed exactly if it declares nothing or a name with HS, and
the algorithm that an accepted token declares is one of three. -/
theorem a_foreign_algorithm_is_a_wrong_signature (s : Signer) (now : Instant) :
    (∀ token name, declaredAlgorithm? token = some name → ¬['H', 'S'] <+: name.toList →
      s.validate now token = .error (.refused .invalidSignature)) ∧
    (∀ token m, s.validate now token = .error (.refused (.tokenMalformed m)) →
      ∀ name, declaredAlgorithm? token = some name → ['H', 'S'] <+: name.toList) ∧
    (∀ token m, s.verify now token = .error (.malformed m) →
      (∀ name, declaredAlgorithm? token = some name → ['H', 'S'] <+: name.toList) →
      s.validate now token = .error (.refused (.tokenMalformed m))) ∧
    (∀ token c, s.validate now token = .ok c →
      ∀ name, declaredAlgorithm? token = some name → name ∈ ["HS256", "HS384", "HS512"]) ∧
    ∀ (part : List Char) (header : Json) (name : String), Compact.json? part = some header →
      Header.declared? header = some name → ¬['H', 'S'] <+: name.toList →
      ∀ (pads : Nat) (rest : List Char), (∀ c, rest.head? = some c → c = '.') →
        s.validate now (String.ofList (part ++ List.replicate pads '=' ++ rest)) =
          .error (.refused .invalidSignature) := by
  refine ⟨?_, ?_, ?_, ?_, ?_⟩
  · intro token name hname hforeign
    exact s.validate_foreign now hname hforeign
  · intro token m hm name hname
    by_contra hforeign
    rw [s.validate_foreign now hname hforeign] at hm
    cases hm
  · intro token m hm hnamed
    exact validate_of_named_malformed hm hnamed
  · intro token c hc name hname
    exact named_of_validate hc hname
  · intro part header name hheader hname hforeign pads rest hrest
    apply s.validate_foreign now _ hforeign
    rw [declaredAlgorithm?_of_part hheader pads hrest, hname]

/-- A list that says none is wrongly signed, though it has padding and no dot,
or padding and dots. With a name from the family it is malformed. A token that
is accepted names its algorithm. -/
theorem a_list_that_says_none_is_wrongly_signed :
    (declaredAlgorithm? "WyJub25lIl0=" = some "none" ∧
      briefSigner.validate ⟨-5, 0⟩ "WyJub25lIl0=" = .error (.refused .invalidSignature)) ∧
    (briefSigner.validate ⟨9, 0⟩ "WyJIUyJd" = .error (.refused (.tokenMalformed .parts)) ∧
      ∃ name, declaredAlgorithm? "WyJIUyJd" = some name ∧ ['H', 'S'] <+: name.toList) ∧
    (∃ c name, briefSigner.validate ⟨9, 0⟩ briefToken = .ok c ∧
      declaredAlgorithm? briefToken = some name ∧ name ∈ ["HS256", "HS384", "HS512"]) ∧
    briefSigner.validate ⟨9, 0⟩ (String.ofList
      (Compact.encodeJson (.texts ["none"]) ++ List.replicate 2 '=' ++ ['.', '.'])) =
        .error (.refused .invalidSignature) := by
  have hnone : ¬['H', 'S'] <+: "none".toList := by decide
  have hlist : declaredAlgorithm? "WyJub25lIl0=" = some "none" := by decide +kernel
  have hnamed : declaredAlgorithm? "WyJIUyJd" = some "HS" := by decide +kernel
  have hbrief : declaredAlgorithm? briefToken = some "HS256" := by decide +kernel
  have hparts : briefSigner.validate ⟨9, 0⟩ "WyJIUyJd" =
      .error (.refused (.tokenMalformed .parts)) := by
    apply error_of_map (g := fun _ => ())
    decide +kernel
  have hearly := a_foreign_algorithm_is_a_wrong_signature briefSigner ⟨-5, 0⟩
  have hlaw := a_foreign_algorithm_is_a_wrong_signature briefSigner ⟨9, 0⟩
  refine ⟨⟨hlist, hearly.1 _ "none" hlist hnone⟩,
    ⟨hparts, "HS", hnamed, hlaw.2.1 _ .parts hparts _ hnamed⟩, ?_, ?_⟩
  · obtain ⟨c, hc⟩ := exists_claims_brief
    exact ⟨c, "HS256", hc, hbrief, hlaw.2.2.2.1 _ c hc _ hbrief⟩
  · have hpart := Compact.json?_encodeJson (Json.plain_texts ["none"])
    exact hlaw.2.2.2.2 _ _ "none" hpart rfl hnone 2 ['.', '.'] (by simp)

end Signer

end Warrant.Token
