import MockProvider.Body.Basic
import MockProvider.Proofs.Json.Numbers

/-!
# Reading back bodies

A body that a contract declares is written as a value of a document and read back as the same body,
under the same header: `Body.ofContract_member?`. What was declared as a string has to be read as a
string again, so it must not be a document of its own under a JSON type; numbers in what was
declared as a document have to be read back.

Less is asked for a body that is only to be written the same way again after it was read from a text
(`Body.Storable`): on this way its numbers are written and read twice, and some that are not read
back the first time are there again after the second. `Body.member?_again` is about this way.
-/

namespace MockProvider

/-! ## Values that are written -/

namespace Json

theorem ofString_ofList_toChars (v : Json) : Bytes.ofString (String.ofList v.toChars) = v.toBytes := by
  rw [Bytes.ofString, String.toList_ofList, toBytes]

theorem toStringLossy_toBytes (v : Json) : v.toBytes.toStringLossy = String.ofList v.toChars := by
  rw [Bytes.toStringLossy, toBytes, Utf8.lossy_encode]

theorem toString?_toBytes (v : Json) : v.toBytes.toString? = some (String.ofList v.toChars) := by
  rw [Bytes.toString?, toBytes, Utf8.decode?_encode]
  rfl

end Json

namespace Body

/-- The value of a body in a document, when there is one. -/
def member? : Body → Option Json
  | .absent => none
  | body => some body.toJson

/-- Whether what a document declares as a body comes back when the body is written: a text with a
    JSON type is no JSON, and numbers are integers. -/
def Portable (declared : Option Json) (body : Body) : Prop :=
  match declared with
  | none => True
  | some (.string _) =>
    ∀ bytes type, body = .present bytes type → type.kind = .json → (Json.parse bytes).toBool = false
  | some value => value.Numbers Number.IsInteger

theorem toJson_text {s : String} {type : ContentType}
    (h : type.kind = .json → (Json.parse (Bytes.ofString s)).toBool = false) :
    (present (Bytes.ofString s) type).toJson = .string s := by
  rw [toJson]
  split
  · next hkind =>
    split
    · next v hparse =>
      have hnone := h hkind
      rw [hparse] at hnone
      cases hnone
    · rw [Bytes.toStringLossy_ofString]
  · rw [Bytes.toString?_ofString]
  · rw [Bytes.toStringLossy_ofString]

/-- A body that was declared as a text is read back. -/
theorem ofContract_text {s : String} (hs : s.isEmpty = false) {header : Option String}
    {type : ContentType}
    (htype : type = (header.map ContentType.ofHeader).getD (ContentType.sniff (Bytes.ofString s)))
    (h : type.kind = .json → (Json.parse (Bytes.ofString s)).toBool = false) :
    ofContract (present (Bytes.ofString s) type).member? header =
      present (Bytes.ofString s) type := by
  rw [member?, toJson_text h]
  · simp only [ofContract, hs, Bool.false_eq_true, if_false, htype]
  · simp

theorem toJson_document {v : Json} (hordered : v.Ordered) (hdepth : v.depth ≤ Json.maxDepth)
    (type : ContentType) :
    (present v.toBytes type).toJson =
      if type.kind = .json then v.mapNumbers Number.reread
      else .string (String.ofList v.toChars) := by
  rw [toJson]
  split
  · next hkind =>
    rw [Json.parse_toBytes hordered hdepth, if_pos hkind]
  · next hkind =>
    rw [Json.toString?_toBytes, if_neg (by rw [hkind]; decide)]
  · next hjson hbinary => rw [Json.toStringLossy_toBytes, if_neg hjson]

/-- A body that was declared as a document is read back. -/
theorem ofContract_document {v : Json} (hv : v.Storable) (hnull : v ≠ .null)
    (hstring : ∀ s, v ≠ .string s) {header : Option String} {type : ContentType}
    (htype : type = (header.map ContentType.ofHeader).getD ContentType.json) :
    ofContract (present v.toBytes type).member? header = present v.toBytes type := by
  rw [member?, toJson_document hv.ordered hv.depth, hv.mapNumbers_reread]
  · split
    · rw [ofContract.eq_def, htype]
      cases v with
      | null => exact absurd rfl hnull
      | string s => exact absurd rfl (hstring s)
      | _ => rfl
    · next hkind =>
      -- only a header can have given another type, and it gives it to the text as well
      cases header with
      | none =>
        rw [htype] at hkind
        exact absurd (by decide) hkind
      | some value =>
        have hempty : (String.ofList v.toChars).isEmpty = false := by
          simpa using Json.toChars_ne_nil v
        simp only [ofContract, hempty, Bool.false_eq_true, if_false, Json.ofString_ofList_toChars,
          htype]
        rfl
  · simp

/-- A body that a contract declares is read back. -/
theorem ofContract_member? {declared : Option Json} {header : Option String}
    (hordered : ∀ v ∈ declared, v.Ordered) (hdepth : ∀ v ∈ declared, v.depth ≤ Json.maxDepth)
    (h : Portable declared (ofContract declared header)) :
    ofContract (ofContract declared header).member? header = ofContract declared header := by
  cases declared with
  | none => rfl
  | some v =>
    have hstorable : v.Numbers Number.IsInteger → v.Storable := fun hv =>
      ⟨hordered v rfl, hdepth v rfl, hv.imp fun _ hn => hn.rereads⟩
    cases v with
    | null => rfl
    | string s =>
      -- an empty string declares the empty body, which is written as an empty string
      by_cases hs : s.isEmpty = true
      · simp only [ofContract, hs, if_true]
        rfl
      · have hfalse : s.isEmpty = false := Bool.eq_false_iff.2 hs
        have hpresent : ofContract (some (.string s)) header = .present (Bytes.ofString s)
            ((header.map ContentType.ofHeader).getD (ContentType.sniff (Bytes.ofString s))) := by
          simp only [ofContract, hfalse, Bool.false_eq_true, if_false]
        rw [hpresent] at h ⊢
        exact ofContract_text hfalse rfl (h _ _ rfl)
    | bool b => exact ofContract_document (hstorable h) (by simp) (by simp) rfl
    | number n => exact ofContract_document (hstorable h) (by simp) (by simp) rfl
    | array items => exact ofContract_document (hstorable h) (by simp) (by simp) rfl
    | object members => exact ofContract_document (hstorable h) (by simp) (by simp) rfl

/-! ## Writing bodies again -/

/-- How deep containers may nest in a body: four stand around it in a pact document. -/
def maxDepth : Nat := 123

/-- A body of a JSON type is written as the document that its octets are. It is written the same
    way after it was read again, unless it is null, which is read as no body, a string that is JSON
    once more, a document with a number that does not return, or one that nests too deep. -/
def Storable : Body → Prop
  | present bytes type => type.kind = .json → ∀ v, Json.parse bytes = .ok v →
    v ≠ .null ∧ (∀ s, v = .string s → (Json.parse (Bytes.ofString s)).toBool = false) ∧
      v.Numbers Number.Returns ∧ v.depth ≤ maxDepth
  | _ => True

/-- The body with the octets of the document that its own are, if it is of a JSON type. -/
def reprinted : Body → Body
  | present bytes type =>
    if type.kind = .json then
      match Json.parse bytes with
      | .ok v => present v.toBytes type
      | .error _ => present bytes type
    else present bytes type
  | body => body

theorem member?_present (bytes : Bytes) (type : ContentType) :
    (present bytes type).member? = some (present bytes type).toJson := rfl

theorem reprinted_present (bytes : Bytes) (type : ContentType) :
    (∃ v, type.kind = .json ∧ Json.parse bytes = .ok v ∧
      (present bytes type).reprinted = present v.toBytes type ∧ (present bytes type).toJson = v) ∨
    (present bytes type).reprinted = present bytes type ∧
      ∃ s, (present bytes type).toJson = .string s := by
  by_cases hkind : type.kind = .json
  · cases hparse : Json.parse bytes with
    | ok v =>
      refine Or.inl ⟨v, hkind, rfl, ?_, ?_⟩
      · simp only [reprinted, hkind, hparse, if_true]
      · simp only [toJson, hkind, hparse]
    | error error =>
      refine Or.inr ⟨?_, bytes.toStringLossy, ?_⟩
      · simp only [reprinted, hkind, hparse, if_true]
      · simp only [toJson, hkind, hparse]
  · refine Or.inr ⟨by rw [reprinted, if_neg hkind], ?_⟩
    rw [toJson]
    split
    · next hjson => exact absurd hjson hkind
    · split <;> exact ⟨_, rfl⟩
    · exact ⟨_, rfl⟩

/-- What is written for the reprinted body is what was written, with its numbers reread. -/
theorem member?_reprinted (body : Body) :
    body.reprinted.member? = body.member?.map (Json.mapNumbers Number.reread) := by
  cases body with
  | absent => rfl
  | empty => rfl
  | present bytes type =>
    rcases reprinted_present bytes type with ⟨v, hkind, hparse, hreprinted, hv⟩ | ⟨hsame, s, hs⟩
    · obtain ⟨hordered, hdepth⟩ := Json.parse_shape hparse
      rw [hreprinted, member?_present, member?_present, hv,
        toJson_document hordered hdepth, if_pos hkind, Option.map_some]
    -- a text has no numbers
    · rw [hsame, member?_present, hs]
      rfl

/-- What is written for a body that is present: the document that its octets are, or their text. -/
theorem toJson_cases (text : String) (type : ContentType) :
    (∃ v, type.kind = .json ∧ Json.parse (Bytes.ofString text) = .ok v ∧
      (present (Bytes.ofString text) type).toJson = v) ∨
    ((type.kind = .json → (Json.parse (Bytes.ofString text)).toBool = false) ∧
      (present (Bytes.ofString text) type).toJson = .string text) := by
  by_cases hkind : type.kind = .json
  · cases hparse : Json.parse (Bytes.ofString text) with
    | ok v =>
      refine Or.inl ⟨v, hkind, rfl, ?_⟩
      simp only [toJson, hkind, hparse]
    | error error =>
      have hfails : type.kind = .json → (Json.parse (Bytes.ofString text)).toBool = false :=
        fun _ => by rw [hparse]; rfl
      exact Or.inr ⟨fun _ => rfl, toJson_text hfails⟩
  · exact Or.inr ⟨fun h => absurd h hkind, toJson_text fun h => absurd h hkind⟩

/-- The body that a contract declares has octets that spell a text, and a type that comes from a
    header, from the octets of a string, or from the fact that it is a document. -/
theorem ofContract_cases (declared : Option Json) (header : Option String) :
    ofContract declared header = .absent ∨ ofContract declared header = .empty ∨
      ∃ text type, ofContract declared header = .present (Bytes.ofString text) type ∧
        ((∃ value, header = some value ∧ type = ContentType.ofHeader value) ∨
          (header = none ∧ (type = ContentType.sniff (Bytes.ofString text) ∨
            type = ContentType.json))) := by
  -- a header decides the type alone; what the value suggests counts only without one
  have htype : ∀ other : ContentType, (∃ value, header = some value ∧
      (header.map ContentType.ofHeader).getD other = ContentType.ofHeader value) ∨
      header = none ∧ (header.map ContentType.ofHeader).getD other = other := fun other => by
    cases header with
    | none => exact Or.inr ⟨rfl, rfl⟩
    | some value => exact Or.inl ⟨value, rfl, rfl⟩
  cases declared with
  | none => exact Or.inl rfl
  | some v =>
    cases v with
    | null => exact Or.inl rfl
    | string s =>
      refine Or.inr ?_
      by_cases hs : s.isEmpty = true
      · simp [ofContract, hs]
      · refine Or.inr ⟨s, _, if_neg hs, ?_⟩
        rcases htype (ContentType.sniff (Bytes.ofString s)) with hheader | ⟨hnone, hsniffed⟩
        · exact Or.inl hheader
        · exact Or.inr ⟨hnone, Or.inl hsniffed⟩
    | _ =>
      refine Or.inr (Or.inr ⟨_, _, congrArg₂ present (Json.ofString_ofList_toChars _).symm rfl, ?_⟩)
      rcases htype ContentType.json with hheader | ⟨hnone, hjson⟩
      · exact Or.inl hheader
      · exact Or.inr ⟨hnone, Or.inr hjson⟩

/-- A string is written for a string, unless it is JSON of a JSON type. -/
theorem member?_ofContract_string {text : String} {header : Option String}
    (h : ((header.map ContentType.ofHeader).getD (ContentType.sniff (Bytes.ofString text))).kind =
      .json → (Json.parse (Bytes.ofString text)).toBool = false) :
    (ofContract (some (.string text)) header).member? = some (.string text) := by
  by_cases hs : text.isEmpty = true
  · have hempty : text = "" := by simpa using hs
    subst hempty
    rfl
  · rw [ofContract, if_neg hs]
    exact congrArg some (toJson_text h)

/-- A document is written for a document of a JSON type. -/
theorem member?_ofContract_document {v : Json} (hordered : v.Ordered)
    (hdepth : v.depth ≤ Json.maxDepth) (hnull : v ≠ .null) (hstring : ∀ s, v ≠ .string s)
    {header : Option String}
    (hkind : ((header.map ContentType.ofHeader).getD ContentType.json).kind = .json) :
    (ofContract (some v) header).member? = some (v.mapNumbers Number.reread) := by
  have hpresent : ofContract (some v) header =
      present v.toBytes ((header.map ContentType.ofHeader).getD ContentType.json) := by
    cases v with
    | null => exact absurd rfl hnull
    | string s => exact absurd rfl (hstring s)
    | _ => rfl
  rw [hpresent]
  refine congrArg some ?_
  rw [toJson_document hordered hdepth, if_pos hkind]

/-- What is written for a body that a contract declares is written again after it was read from a
    text. -/
theorem member?_again {declared : Option Json} {header : Option String}
    (h : (ofContract declared header).Storable) :
    (ofContract (ofContract declared header).reprinted.member? header).member? =
      (ofContract declared header).member? := by
  rw [member?_reprinted]
  rcases ofContract_cases declared header with habsent | hempty | ⟨text, type, hpresent, htype⟩
  · rw [habsent]
    rfl
  · rw [hempty]
    rfl
  rw [hpresent] at h ⊢
  rcases toJson_cases text type with ⟨v, hkind, hparse, hv⟩ | ⟨hfails, hv⟩
  · have hmember : (present (Bytes.ofString text) type).member? = some v := congrArg some hv
    obtain ⟨hnull, hstring, hnumbers, -⟩ := h hkind v hparse
    rw [hmember, Option.map_some]
    -- a string that the octets spell as JSON is read as the text of the body, without quotes
    by_cases hs : ∃ s, v = .string s
    · obtain ⟨s, rfl⟩ := hs
      exact member?_ofContract_string fun _ => hstring s rfl
    · obtain ⟨hordered, hdepth⟩ := Json.parse_shape hparse
      -- the numbers were reread once on the way through the text, and are once more in the octets
      obtain ⟨hordered', hdepth'⟩ := Json.parse_shape (Json.parse_toBytes hordered hdepth)
      have hkind' : ((header.map ContentType.ofHeader).getD ContentType.json).kind = .json := by
        rcases htype with ⟨value, rfl, rfl⟩ | ⟨rfl, -⟩
        · exact hkind
        · decide
      rw [member?_ofContract_document hordered' hdepth'
          (fun hv => hnull (Json.mapNumbers_eq_null_iff.1 hv))
          (fun s hv => hs ⟨s, Json.mapNumbers_eq_string_iff.1 hv⟩) hkind',
        Json.mapNumbers_mapNumbers, Json.mapNumbers_eq_self (f := Number.reread ∘ Number.reread)
          hnumbers]
  · have hmember : (present (Bytes.ofString text) type).member? = some (.string text) :=
      congrArg some hv
    rw [hmember]
    refine member?_ofContract_string fun hkind => ?_
    -- the type is the same as before, or the octets were held for JSON though they are not
    rcases htype with ⟨value, rfl, rfl⟩ | ⟨rfl, rfl | rfl⟩
    · exact hfails hkind
    · exact hfails hkind
    · exact hfails (by decide)

/-- What is written for a body fits into a pact document, whatever its numbers are. -/
theorem Storable.fits {body : Body} (hbody : ∃ declared header, body = ofContract declared header)
    (h : body.Storable) : ∀ v ∈ body.member?, v.Fits (fun _ => True) maxDepth := by
  obtain ⟨declared, header, rfl⟩ := hbody
  intro v hv
  rcases ofContract_cases declared header with habsent | hempty | ⟨text, type, hpresent, -⟩
  · rw [habsent] at hv
    cases hv
  · rw [hempty] at hv
    cases hv
    exact Json.Fits.string maxDepth ""
  rw [hpresent] at h hv
  obtain rfl := Option.some.inj hv
  rcases toJson_cases text type with ⟨v, hkind, hparse, hv⟩ | ⟨-, hv⟩
  · obtain ⟨-, -, -, hdepth⟩ := h hkind v hparse
    exact hv ▸ ⟨(Json.parse_shape hparse).1, hdepth, Json.numbers_of_forall (fun _ => trivial) v⟩
  · exact hv ▸ Json.Fits.string maxDepth text

end Body

end MockProvider
