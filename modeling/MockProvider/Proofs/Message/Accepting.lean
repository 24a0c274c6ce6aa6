import MockProvider.Proofs.Json.Quotes
import MockProvider.Proofs.Matching.Equality
import MockProvider.Proofs.Message.Wire

/-!
# What a body accepts after it was written

The body that a contract declares is written as a value of a document and read back as a body. What
is accepted without rules stays the same exactly where the body is `Rewritable`:
`rewritten_accepts_iff`. The written form has null and the empty string for bodies that are absent
and empty, and strings for text; so a body of a JSON type does not come back when its octets are
null or a string as a document. Nor does it when they are a document with a number that is not read
back, or no document at all and only the contract told that they should be one.
-/

namespace MockProvider

/-! ## Types that are guessed -/

/-- Octets look like JSON only if they can be read. -/
theorem ContentType.toBool_of_sniff {bytes : Bytes} (h : (sniff bytes).kind = .json) :
    (Json.parse bytes).toBool = true := by
  have hother : plain.kind ≠ .json ∧ xml.kind ≠ .json ∧ octets.kind ≠ .json := by decide
  simp only [sniff] at h
  split at h
  · exact absurd h hother.2.2
  · split at h
    · exact absurd h hother.1
    · split at h
      · next hread => exact hread.2
      · split at h
        · exact absurd h hother.2.1
        · exact absurd h hother.1

namespace Matching

/-! ## What is accepted -/

variable {expected actual : Message} {bytes received : Bytes} {type receivedType : ContentType}

/-- Without rules for bodies, a body of a JSON type accepts the bodies of JSON types that are read
    as an equal document. -/
theorem matchBody_json_iff (hrules : expected.rules.entries .body = [])
    (hkind : type.kind = .json) :
    matchBody { expected with body := .present bytes type } actual = [] ↔
      ∃ received receivedType e a, actual.body = .present received receivedType ∧
        receivedType.kind = .json ∧ Json.parse bytes = .ok e ∧ Json.parse received = .ok a ∧
          e.same a = true := by
  rw [matchBody]
  cases hactual : actual.body with
  | absent => simp
  | empty => simp
  | present received receivedType =>
    by_cases hkinds : receivedType.kind = .json
    · simp only [hkind, hkinds, if_true, matchKind, Body.bytes]
      rw [matchJson_eq_nil_iff hrules]
      simp [hkinds]
    · have hdiffer : ¬ type.kind = receivedType.kind := fun hsame => hkinds (hsame ▸ hkind)
      simp only [if_neg hdiffer]
      refine iff_of_false (List.cons_ne_nil _ _) ?_
      rintro ⟨_, _, _, _, heq, hjson, -⟩
      cases heq
      exact hkinds hjson

/-- A present body accepts no present body of another kind. -/
theorem matchBody_ne_nil_of_kind (hactual : actual.body = .present received receivedType)
    (hkinds : type.kind ≠ receivedType.kind) :
    matchBody { expected with body := .present bytes type } actual ≠ [] := by
  simp only [matchBody, hactual, if_neg hkinds]
  exact List.cons_ne_nil _ _

/-- Plain text accepts itself. -/
theorem matchBody_plain_self (hrules : expected.rules.entries .body = [])
    (hactual : actual.body = .present bytes .plain) :
    matchBody { expected with body := .present bytes .plain } actual = [] := by
  have hkind : ContentType.plain.kind = .text := by decide
  simp only [matchBody, hactual, if_true, matchKind, hkind, matchRaw, rawFailures,
    resolve_eq_none hrules, outcome]

end Matching

namespace Body

open Matching

/-! ## Bodies that are written and read again -/

/-- Both are absent, both are empty, or both are present. -/
def SameVariant : Body → Body → Prop
  | .absent, .absent => True
  | .empty, .empty => True
  | .present .., .present .. => True
  | _, _ => False

/-- Where no rules are declared for bodies, the same is accepted in place of both bodies. -/
def AcceptsAs (a b : Body) : Prop :=
  ∀ expected actual : Message, expected.rules.entries .body = [] →
    (matchBody { expected with body := a } actual = [] ↔
      matchBody { expected with body := b } actual = [])

/-- A body that accepts the same after it was written and read again under a header. Of a JSON type
    its octets are a document, but neither null nor a string, and as such equal after it was
    written; or they are no document, and the header says that the type is JSON. -/
def Rewritable (header : Option String) : Body → Prop
  | .present bytes type => type.kind = .json →
    match Json.parse bytes with
    | .ok v => v ≠ .null ∧ (∀ s, v ≠ .string s) ∧
        ∃ w, Json.parse v.toBytes = .ok w ∧ v.same w = true
    | .error _ => header ≠ none
  | _ => True

theorem AcceptsAs.refl (a : Body) : AcceptsAs a a :=
  fun _ _ _ => Iff.rfl

theorem SameVariant.refl (a : Body) : SameVariant a a := by
  cases a <;> trivial

/-- A body whose octets are a document accepts itself. -/
theorem matchBody_document_self {bytes : Bytes} {type : ContentType} {v : Json}
    (hkind : type.kind = .json) (hparse : Json.parse bytes = .ok v) :
    matchBody { ({} : Message) with body := .present bytes type }
      { body := .present bytes type } = [] :=
  (matchBody_json_iff rfl hkind).2
    ⟨bytes, type, v, v, rfl, hkind, hparse, hparse, v.same_refl⟩

/-- A document comes back as itself when it is read after it was written: what accepts it accepts
    the same as before. -/
theorem acceptsAs_document_iff {bytes : Bytes} {type type' : ContentType} {v : Json}
    (hkind : type.kind = .json) (hkind' : type'.kind = .json) (hparse : Json.parse bytes = .ok v) :
    AcceptsAs (.present bytes type) (.present v.toBytes type') ↔
      ∃ w, Json.parse v.toBytes = .ok w ∧ v.same w = true := by
  constructor
  · intro h
    -- the body itself is accepted in its own place
    have haccepted := (h {} _ rfl).1 (matchBody_document_self hkind hparse)
    obtain ⟨_, _, w, a, heq, -, hw, ha, hsame⟩ :=
      (matchBody_json_iff rfl hkind').1 haccepted
    cases heq
    rw [hparse] at ha
    cases ha
    exact ⟨w, hw, (v.same_comm w).trans hsame⟩
  · rintro ⟨w, hw, hsame⟩ expected actual hrules
    rw [matchBody_json_iff hrules hkind, matchBody_json_iff hrules hkind',
      hparse, hw]
    constructor
    · rintro ⟨received, receivedType, e, a, hactual, hreceived, he, ha, hea⟩
      cases he
      exact ⟨received, receivedType, w, a, hactual, hreceived, rfl, ha,
        Json.same_trans ((w.same_comm v).trans hsame) hea⟩
    · rintro ⟨received, receivedType, e, a, hactual, hreceived, he, ha, hea⟩
      cases he
      exact ⟨received, receivedType, v, a, hactual, hreceived, rfl, ha, Json.same_trans hsame hea⟩

/-- A text that a document spells is not accepted in the place of the document. -/
theorem not_acceptsAs_string {bytes : Bytes} {type type' : ContentType} {s : String}
    (hkind : type.kind = .json) (hparse : Json.parse bytes = .ok (.string s)) :
    ¬ AcceptsAs (.present bytes type) (.present (Bytes.ofString s) type') := by
  intro h
  have haccepted := (h {} _ rfl).1 (matchBody_document_self hkind hparse)
  by_cases hkind' : type'.kind = .json
  · obtain ⟨_, _, e, a, heq, -, he, ha, hsame⟩ :=
      (matchBody_json_iff rfl hkind').1 haccepted
    cases heq
    rw [hparse] at ha
    cases ha
    cases e with
    | string t =>
      obtain rfl : t = s := eq_of_beq hsame
      exact Json.parse_ofString_ne t he
    | _ => exact absurd hsame Bool.false_ne_true
  · exact matchBody_ne_nil_of_kind rfl (fun hsame => hkind' (hsame.trans hkind))
      haccepted

/-- Octets that were to be JSON and are not accept nothing, but as plain text they accept
    themselves. -/
theorem not_acceptsAs_plain {bytes : Bytes} {type : ContentType} (hkind : type.kind = .json)
    (hparse : (Json.parse bytes).toBool = false) :
    ¬ AcceptsAs (.present bytes type) (.present bytes .plain) := by
  intro h
  have hself := (h {} { body := .present bytes .plain } rfl).2
    (matchBody_plain_self rfl rfl)
  obtain ⟨_, _, e, _, -, -, he, -⟩ := (matchBody_json_iff rfl hkind).1 hself
  rw [he] at hparse
  cases hparse

theorem rewritable_json_iff {bytes : Bytes} {type : ContentType} {v : Json}
    (hkind : type.kind = .json) (hparse : Json.parse bytes = .ok v) (header : Option String) :
    Rewritable header (.present bytes type) ↔ v ≠ .null ∧ (∀ s, v ≠ .string s) ∧
      ∃ w, Json.parse v.toBytes = .ok w ∧ v.same w = true := by
  simp only [Rewritable, hkind, hparse, forall_const]

theorem rewritable_unreadable_iff {bytes : Bytes} {type : ContentType} (hkind : type.kind = .json)
    (hparse : (Json.parse bytes).toBool = false) (header : Option String) :
    Rewritable header (.present bytes type) ↔ header ≠ none := by
  cases hread : Json.parse bytes with
  | ok v =>
    rw [hread] at hparse
    cases hparse
  | error e => simp only [Rewritable, hkind, hread, forall_const]

/-- A body whose octets are a document is written as that document. -/
theorem rewritten_document_iff {bytes : Bytes} {type : ContentType} {v : Json}
    (hkind : type.kind = .json) (hparse : Json.parse bytes = .ok v) {header : Option String}
    (hheader : ∀ value ∈ header, type = ContentType.ofHeader value) :
    SameVariant (.present bytes type) (ofContract (some v) header) ∧
        AcceptsAs (.present bytes type) (ofContract (some v) header) ↔
      Rewritable header (.present bytes type) := by
  rw [rewritable_json_iff hkind hparse]
  have hkind' : ((header.map ContentType.ofHeader).getD ContentType.json).kind = .json := by
    cases header with
    | none => decide
    | some value =>
      rw [hheader value rfl] at hkind
      exact hkind
  -- all values but null and strings are read as documents
  have hdocument : v ≠ .null → (∀ s, v ≠ .string s) → ofContract (some v) header =
        .present v.toBytes ((header.map ContentType.ofHeader).getD ContentType.json) →
      (SameVariant (.present bytes type) (ofContract (some v) header) ∧
          AcceptsAs (.present bytes type) (ofContract (some v) header) ↔
        v ≠ .null ∧ (∀ s, v ≠ .string s) ∧
          ∃ w, Json.parse v.toBytes = .ok w ∧ v.same w = true) := by
    intro hnull hstring hread
    rw [hread, acceptsAs_document_iff hkind hkind' hparse]
    simp [SameVariant, hnull, hstring]
  cases v with
  | null => exact iff_of_false (fun h => h.1) fun h => h.1 rfl
  | string s =>
    refine iff_of_false (fun h => ?_) fun h => h.2.1 s rfl
    by_cases hs : s.isEmpty = true
    · have hread : ofContract (some (.string s)) header = .empty := if_pos hs
      rw [hread] at h
      exact h.1
    · have hread : ofContract (some (.string s)) header = .present (Bytes.ofString s)
          ((header.map ContentType.ofHeader).getD (ContentType.sniff (Bytes.ofString s))) :=
        if_neg hs
      rw [hread] at h
      exact not_acceptsAs_string hkind hparse h.2
  | bool b => exact hdocument (by simp) (by simp) rfl
  | number n => exact hdocument (by simp) (by simp) rfl
  | array items => exact hdocument (by simp) (by simp) rfl
  | object members => exact hdocument (by simp) (by simp) rfl

/-- What is accepted without rules is the same after a body was written and read again exactly if
    the body is rewritable under its header. -/
theorem rewritten_accepts_iff (v : Json) (header : Option String) :
    SameVariant (ofContract (some v) header)
          (ofContract (some (ofContract (some v) header).toJson) header) ∧
        AcceptsAs (ofContract (some v) header)
          (ofContract (some (ofContract (some v) header).toJson) header) ↔
      (ofContract (some v) header).Rewritable header := by
  rcases ofContract_cases (some v) header with habsent | hempty | ⟨text, type, hpresent, -⟩
  · rw [habsent]
    exact iff_of_true ⟨SameVariant.refl _, AcceptsAs.refl _⟩ trivial
  · rw [hempty]
    exact iff_of_true ⟨SameVariant.refl _, AcceptsAs.refl _⟩ trivial
  obtain ⟨hbytes, guess, htype, hguess⟩ := ofContract_eq_present hpresent
  rw [hpresent]
  rcases toJson_cases text type with ⟨u, hkind, hparse, hu⟩ | ⟨hfails, hu⟩
  · rw [hu]
    refine rewritten_document_iff hkind hparse fun value hvalue => ?_
    rw [htype, hvalue]
    rfl
  · have htext : text.isEmpty = false := by
      rw [Bool.eq_false_iff]
      intro hempty
      have hnil : text = "" := by simpa using hempty
      exact hbytes (hnil ▸ rfl)
    have hread : ofContract (some (.string text)) header = .present (Bytes.ofString text)
        ((header.map ContentType.ofHeader).getD (ContentType.sniff (Bytes.ofString text))) := by
      simp only [ofContract, htext, Bool.false_eq_true, if_false]
    rw [hu, hread]
    cases header with
    | some value =>
      rw [htype]
      refine iff_of_true ⟨SameVariant.refl _, AcceptsAs.refl _⟩ fun hkind => ?_
      exact (rewritable_unreadable_iff hkind (hfails (htype ▸ hkind)) _).2 (by simp) hkind
    | none =>
      rw [Option.map_none, Option.getD_none] at htype ⊢
      rcases hguess with hsniff | ⟨hjson, w, -, hwritten, -⟩
      · rw [htype, hsniff]
        refine iff_of_true ⟨SameVariant.refl _, AcceptsAs.refl _⟩ fun hkind => ?_
        -- octets that look like JSON can be read
        have hreadable := ContentType.toBool_of_sniff hkind
        rw [hfails (htype ▸ hsniff ▸ hkind)] at hreadable
        cases hreadable
      · have hkind : type.kind = .json := by
          rw [htype, hjson]
          decide
        have hplain : ContentType.sniff (Bytes.ofString text) = .plain := by
          have hunreadable := hfails hkind
          rw [hwritten] at hunreadable ⊢
          rw [ContentType.sniff_toBytes, if_neg]
          simp [hunreadable]
        rw [hplain]
        refine iff_of_false (fun h => not_acceptsAs_plain hkind (hfails hkind) h.2) ?_
        rw [rewritable_unreadable_iff hkind (hfails hkind)]
        exact fun h => h rfl

/-- A text that spells null is no expectation any more after it was written under a JSON type. -/
theorem rewritten_null :
    ofContract (some (.string "null")) (some "application/json") =
        .present (Bytes.ofString "null") .json ∧
      ofContract (some (ofContract (some (.string "null")) (some "application/json")).toJson)
        (some "application/json") = .absent ∧
      ¬ SameVariant (ofContract (some (.string "null")) (some "application/json"))
        (ofContract (some (ofContract (some (.string "null")) (some "application/json")).toJson)
          (some "application/json")) := by
  have hpresent : ofContract (some (.string "null")) (some "application/json") =
      .present (Bytes.ofString "null") .json := by decide +kernel
  have habsent : ofContract
      (some (ofContract (some (.string "null")) (some "application/json")).toJson)
        (some "application/json") = .absent := by decide +kernel
  rw [habsent, hpresent]
  exact ⟨rfl, rfl, id⟩

end Body

end MockProvider
