import MockProvider.Proofs.Dict.Grouping
import MockProvider.Proofs.Matching.SelfMatch
import MockProvider.Proofs.Message.Bodies
import MockProvider.Proofs.Message.Lookup
import MockProvider.Proofs.Rule.Tables
import MockProvider.Proofs.Text.Ascii

/-!
# Messages as they travel

On the network a message is a list of headers, with names in lower case and one value each, and the
octets of its body. `Message.ofWire` is what the other side makes of it. A message without rules
that arrives with its own values and octets has no mismatches: `Message.Literal.matches_ofWire`.
-/

namespace MockProvider

/-! ## Headers -/

/-- Among names in lower case a header is found by its name in lower case. -/
theorem Headers.lookup?_eq_get? {headers : Headers}
    (h : ∀ entry ∈ headers.toList, Ascii.lower entry.1 = entry.1) (name : String) :
    headers.lookup? name = headers.get? (Ascii.lower name) := by
  rw [lookup?, Dict.get?]
  generalize headers.toList = entries at h
  induction entries with
  | nil => rfl
  | cons entry entries ih =>
    obtain ⟨key, values⟩ := entry
    have hkey : Ascii.lower key = key := h (key, values) List.mem_cons_self
    have hrest := ih fun entry hmem => h entry (List.mem_cons_of_mem _ hmem)
    rw [List.find?_cons, Assoc.get?_cons, Ascii.sameIgnoringCase, hkey]
    by_cases heq : key = Ascii.lower name
    · simp [heq]
    · simp only [beq_eq_false_iff_ne.2 heq, if_neg heq]
      exact hrest

namespace Message

/-- The message that arrives as headers and octets. -/
def ofWire (headers : List (String × String)) (bytes : Bytes) : Message :=
  let grouped := Dict.group headers
  { headers := if grouped.isEmpty then none else some grouped
    body := .ofBytes bytes ((grouped.get? "content-type").bind List.head?) }

/-- A header has the values that arrived under its name in lower case. -/
theorem header?_ofWire {headers : List (String × String)}
    (h : ∀ header ∈ headers, Ascii.lower header.1 = header.1) (bytes : Bytes) (name : String) :
    (ofWire headers bytes).header? name = (Dict.group headers).get? (Ascii.lower name) := by
  have hlower : ∀ entry ∈ (Dict.group headers).toList, Ascii.lower entry.1 = entry.1 := by
    intro entry hentry
    obtain ⟨value, hvalue⟩ := Dict.mem_keys_group (List.mem_map_of_mem hentry)
    exact h (entry.1, value) hvalue
  rw [← Headers.lookup?_eq_get? hlower]
  -- a message without headers is one whose headers are empty, and nothing is found in either
  by_cases hempty : (Dict.group headers).isEmpty = true
  · have hnone : (Dict.group headers).toList = [] := List.isEmpty_iff.1 hempty
    simp [header?, ofWire, hempty, Headers.lookup?, hnone]
  · simp [header?, ofWire, hempty]

theorem body_ofWire (headers : List (String × String)) (bytes : Bytes) :
    (ofWire headers bytes).body = .ofBytes bytes (Dict.valuesOf "content-type" headers).head? := by
  have hfirst : ((Dict.group headers).get? "content-type").bind List.head? =
      (Dict.valuesOf "content-type" headers).head? := by
    rw [Dict.get?_group]
    split
    · next hnone =>
      rw [hnone]
      rfl
    · rfl
  simp only [ofWire, hfirst]

end Message

/-! ## Bodies -/

theorem Utf8.encode_ne_nil {text : List Char} (h : text ≠ []) : encode text ≠ [] := by
  cases text with
  | nil => exact absurd rfl h
  | cons c text =>
    intro hnil
    have hback := decode?_encode (c :: text)
    rw [hnil] at hback
    cases hback

/-- Every document is written with some octets. -/
theorem Json.toBytes_ne_nil (v : Json) : v.toBytes ≠ [] :=
  Utf8.encode_ne_nil v.toChars_ne_nil

/-- A number or a truth value. -/
def Json.isBare : Json → Bool
  | .number _ | .bool _ => true
  | _ => false

/-- An object or an array. -/
def Json.isContainer : Json → Bool
  | .array _ | .object _ => true
  | _ => false

/-- What is written begins with a brace or bracket for objects and arrays only. -/
theorem Json.opens_container_iff {v : Json} {c : Char} {cs : List Char} (h : v.toChars = c :: cs) :
    c = '\x7b' ∨ c = '[' ↔ v.isContainer = true := by
  cases v with
  | null =>
    cases h
    decide
  | bool b => cases b <;> (cases h; decide)
  | number n =>
    obtain ⟨first, rest, hfirst, hc⟩ := n.toChars_first
    obtain ⟨rfl, -⟩ := List.cons.inj (hfirst.symm.trans h)
    refine iff_of_false ?_ Bool.false_ne_true
    rintro (rfl | rfl) <;> revert hc <;> decide
  | string s =>
    cases h
    exact iff_of_false (by decide) Bool.false_ne_true
  | array items =>
    cases h
    exact iff_of_true (Or.inr rfl) rfl
  | object members =>
    cases h
    exact iff_of_true (Or.inl rfl) rfl

namespace ContentType

/-- The octets of an object or array look like JSON if they can be read, and those of all other
    documents like plain text. -/
theorem sniff_toBytes (v : Json) :
    sniff v.toBytes =
      if v.isContainer = true ∧ (Json.parse v.toBytes).toBool = true then json else plain := by
  obtain ⟨c, cs, hchars, hblank, hangle⟩ := v.toChars_first
  have htrim : Text.trimStart (c :: cs) = c :: cs := by simp [Text.trimStart, hblank]
  have hdecode : Utf8.decode? v.toBytes = some (c :: cs) := by
    rw [Json.toBytes, Utf8.decode?_encode, hchars]
  simp only [sniff, hdecode, htrim, if_neg hangle, Json.opens_container_iff hchars]

/-- The types that are assumed where none is given. -/
def assumed : List ContentType := [json, xml, plain, octets]

theorem sniff_mem_assumed (bytes : Bytes) : sniff bytes ∈ assumed := by
  simp only [sniff]
  split
  · decide
  · split
    · decide
    · split
      · decide
      · split <;> decide

/-- A type that is assumed is read back from its text. -/
theorem ofHeader_text {type : ContentType} (h : type ∈ assumed) : ofHeader type.text = type := by
  have hall : ∀ type ∈ assumed, ofHeader type.text = type := by decide
  exact hall type h

end ContentType

namespace Body

/-- A readable body of the type for JSON is JSON. -/
theorem Readable.document {body : Body} (h : body.Readable) {bytes : Bytes}
    (hbody : body = .present bytes .json) : ∃ v, Json.parse bytes = .ok v := by
  have hkind : ContentType.json.kind = .json := by decide
  simp only [hbody, Readable, hkind] at h
  exact h

theorem ofBytes_of_ne_nil {bytes : Bytes} (h : bytes ≠ []) (header : Option String) :
    ofBytes bytes header =
      .present bytes ((header.map ContentType.ofHeader).getD (ContentType.sniff bytes)) := by
  rw [ofBytes, if_neg (by simpa using h)]

/-- A body that a contract declares has octets when it is present, and a type that is given by a
    header, or else by what the octets look like, or by the fact that they are a document. -/
theorem ofContract_eq_present {declared : Option Json} {header : Option String} {bytes : Bytes}
    {type : ContentType} (h : ofContract declared header = .present bytes type) :
    bytes ≠ [] ∧ ∃ guess, type = (header.map ContentType.ofHeader).getD guess ∧
      (guess = ContentType.sniff bytes ∨
        guess = ContentType.json ∧ ∃ v, declared = some v ∧ bytes = v.toBytes ∧
          (v.isBare = true ∨ v.isContainer = true)) := by
  cases declared with
  | none => cases h
  | some v =>
    cases v with
    | null => cases h
    | string s =>
      simp only [ofContract] at h
      split at h
      · cases h
      · next hs =>
        cases h
        refine ⟨?_, _, rfl, Or.inl rfl⟩
        apply Utf8.encode_ne_nil
        simpa using hs
    | bool b =>
      cases h
      exact ⟨Json.toBytes_ne_nil _, _, rfl, Or.inr ⟨rfl, _, rfl, rfl, Or.inl rfl⟩⟩
    | number n =>
      cases h
      exact ⟨Json.toBytes_ne_nil _, _, rfl, Or.inr ⟨rfl, _, rfl, rfl, Or.inl rfl⟩⟩
    | array items =>
      cases h
      exact ⟨Json.toBytes_ne_nil _, _, rfl, Or.inr ⟨rfl, _, rfl, rfl, Or.inr rfl⟩⟩
    | object members =>
      cases h
      exact ⟨Json.toBytes_ne_nil _, _, rfl, Or.inr ⟨rfl, _, rfl, rfl, Or.inr rfl⟩⟩

/-- A body that is present arrives as it is, under its own header. Without one its octets have to
    look like what they were declared as, which bare numbers and truth values do not. -/
theorem ofBytes_ofContract {declared : Option Json} {header : Option String} {bytes : Bytes}
    {type : ContentType} (h : ofContract declared header = .present bytes type)
    (hdocument : type = .json → ∃ v, Json.parse bytes = .ok v)
    (hbare : header = none → ∀ v, declared = some v → v.isBare = false) :
    ofBytes bytes header = .present bytes type := by
  obtain ⟨hbytes, guess, htype, hguess⟩ := ofContract_eq_present h
  rw [ofBytes_of_ne_nil hbytes, htype]
  cases header with
  | some value => rfl
  | none =>
    rw [Option.map_none, Option.getD_none] at htype
    rw [Option.map_none, Option.getD_none, Option.getD_none]
    rcases hguess with hsniff | ⟨hjson, v, hv, hwritten, hkind | hcontainer⟩
    · rw [hsniff]
    · rw [hbare rfl v hv] at hkind
      cases hkind
    · obtain ⟨parsed, hparse⟩ := hdocument (htype.trans hjson)
      rw [hwritten] at hparse
      rw [hjson, hwritten, ContentType.sniff_toBytes, if_pos ⟨hcontainer, by rw [hparse]; rfl⟩]

/-- Without a header the type of a body is one of those that are assumed. -/
theorem type_mem_assumed {declared : Option Json} {bytes : Bytes} {type : ContentType}
    (h : ofContract declared none = .present bytes type) : type ∈ ContentType.assumed := by
  obtain ⟨-, guess, htype, hguess⟩ := ofContract_eq_present h
  rw [Option.map_none, Option.getD_none] at htype
  rw [htype]
  rcases hguess with hsniff | ⟨hjson, -⟩
  · rw [hsniff]
    exact ContentType.sniff_mem_assumed bytes
  · rw [hjson]
    decide

/-- A body that is present arrives as it is when its type is sent with it. -/
theorem ofBytes_text {declared : Option Json} {header : Option String} {bytes : Bytes}
    {type : ContentType} (h : ofContract declared header = .present bytes type) :
    ofBytes bytes (some (header.getD type.text)) = .present bytes type := by
  obtain ⟨hbytes, guess, htype, -⟩ := ofContract_eq_present h
  rw [ofBytes_of_ne_nil hbytes]
  cases header with
  | some value =>
    rw [htype]
    rfl
  | none =>
    rw [Option.getD_none, Option.map_some, Option.getD_some,
      ContentType.ofHeader_text (type_mem_assumed h)]

end Body

/-! ## Messages without rules -/

/-- A message that says literally what is expected: it has no rules, its headers have values, and its
    body can be read as what it is. -/
structure Message.Literal (m : Message) : Prop where
  rules : m.rules.isEmpty = true
  valued : ∀ headers, m.headers = some headers → ∀ entry ∈ headers.toList, entry.2 ≠ []
  body : m.body.Readable

namespace Message

theorem Literal.reflexive {m : Message} (h : m.Literal) : m.rules.Reflexive := by
  rw [RuleTable.eq_empty h.rules]
  intro category entry hentry
  cases category <;> cases hentry

/-- A content type that has values has a first one. -/
theorem Literal.header?_eq_none {m : Message} (h : m.Literal) (hnone : m.contentType? = none) :
    m.header? "content-type" = none := by
  by_contra hsome
  obtain ⟨values, hvalues⟩ := Option.ne_none_iff_exists'.1 hsome
  obtain ⟨headers, hheaders, hlookup⟩ := Option.bind_eq_some_iff.1 hvalues
  obtain ⟨entry, hentry, -, rfl⟩ := Headers.mem_of_lookup? hlookup
  rw [contentType?, hvalues, Option.bind_some, List.head?_eq_none_iff] at hnone
  exact h.valued headers hheaders entry hentry hnone

/-- Headers arrive with the values of a message: each of its headers under its name in lower case. -/
def ArrivesWith (m : Message) (headers : List (String × String)) : Prop :=
  ∀ declared, m.headers = some declared → ∀ entry ∈ declared.toList,
    Dict.valuesOf (Ascii.lower entry.1) headers = entry.2

/-- The content type arrives, when there is one. -/
theorem ArrivesWith.contentType {m : Message} {headers : List (String × String)}
    (h : m.ArrivesWith headers) {values : List String}
    (hvalues : m.header? "content-type" = some values) :
    Dict.valuesOf "content-type" headers = values := by
  obtain ⟨declared, hdeclared, hlookup⟩ := Option.bind_eq_some_iff.1 hvalues
  obtain ⟨entry, hentry, hname, rfl⟩ := Headers.mem_of_lookup? hlookup
  have hlower : Ascii.lower entry.1 = "content-type" := hname.trans (by decide)
  rw [← hlower]
  exact h declared hdeclared entry hentry

open Matching

theorem Literal.matchHeaders_ofWire {m : Message} (h : m.Literal)
    {headers : List (String × String)}
    (hlower : ∀ header ∈ headers, Ascii.lower header.1 = header.1)
    (harrives : m.ArrivesWith headers) (bytes : Bytes) :
    matchHeaders m (ofWire headers bytes) = [] := by
  rw [matchHeaders]
  split
  · rfl
  · next declared hdeclared =>
    apply List.filterMap_eq_nil_iff.2
    rintro ⟨name, values⟩ hentry
    have hvalues : Dict.valuesOf (Ascii.lower name) headers = values :=
      harrives declared hdeclared (name, values) hentry
    have hne : values ≠ [] := h.valued declared hdeclared (name, values) hentry
    have hfound : (ofWire headers bytes).header? name = some values := by
      rw [header?_ofWire hlower, Dict.get?_group, hvalues, if_neg hne]
    simp [headerMismatch, hfound, headerFailures_self h.reflexive]

/-- A body has no mismatches when it arrives as it is; where none is present nothing arrives. -/
theorem Literal.matchBody_ofBytes {m m' : Message} (h : m.Literal) {header : Option String}
    (hbody : m'.body = .ofBytes m.body.bytes header)
    (hpresent : ∀ bytes type, m.body = .present bytes type →
      Body.ofBytes bytes header = .present bytes type) : matchBody m m' = [] := by
  cases hm : m.body with
  | absent => simp [matchBody, hm]
  | empty =>
    rw [hm] at hbody
    have hempty : m'.body = .empty := hbody
    simp [matchBody, hm, hempty]
  | present bytes type =>
    rw [hm] at hbody
    have hsame : m'.body = m.body := by
      rw [hbody, hm]
      exact hpresent bytes type hm
    have hself := matchBody_self h.reflexive h.body
    simp only [matchBody, hsame] at hself ⊢
    exact hself

end Message

end MockProvider
