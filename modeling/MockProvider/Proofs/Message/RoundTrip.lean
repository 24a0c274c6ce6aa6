import MockProvider.Message.Codec
import MockProvider.Proofs.Message.Bodies
import MockProvider.Proofs.Rule.Tables

/-!
# Reading back requests and responses

A message that was read is read back from its document with its rules sorted and all else as it
was. What has to hold for that is gathered in `Message.Restorable`; it holds for messages that were
read, when their bodies can be written and no path in a rule for the body has an apostrophe.
-/

namespace MockProvider

/-! ## Optional members -/

namespace Json

/-- A member that may be missing. -/
def optional (key : String) (value : Option Json) : List (String × Json) :=
  (value.map fun v => (key, v)).toList

theorem get?_reverse_optional (key other : String) (value : Option Json) :
    Assoc.get? (optional key value).reverse other = if key = other then value else none := by
  cases value with
  | none => simp [optional]
  | some v => simp [optional, Assoc.get?_cons]

end Json

namespace Message

/-! ## Values by name -/

theorem stringItems_map (location : Location) (position : Nat) (values : List String) :
    stringItems location position (values.map .string) = .ok values := by
  induction values generalizing position with
  | nil => rfl
  | cons value values ih =>
    simp only [List.map_cons, stringItems, ih]
    rfl

theorem valuesByName_mapValues (location : Location) (entries : List (String × List String)) :
    valuesByName location (Assoc.mapValues Json.ofStrings entries) = .ok entries := by
  induction entries with
  | nil => rfl
  | cons entry entries ih =>
    obtain ⟨name, values⟩ := entry
    have hfirst : stringValues (location.field name) (Json.ofStrings values) = .ok values :=
      stringItems_map _ 0 values
    change valuesByName location
      ((name, Json.ofStrings values) :: Assoc.mapValues Json.ofStrings entries) = _
    simp only [valuesByName, hfirst, ih, bind, Except.bind]
    rfl

theorem queryOf_valuesJson (location : Location) (query : Option Query) :
    queryOf location (query.map valuesJson) = .ok query := by
  cases query with
  | none => rfl
  | some query =>
    have hread := valuesByName_mapValues location query.toList
    simp only [Option.map_some, valuesJson, Json.ofDict, Dict.map, queryOf, hread, Except.map,
      Dict.ofList_toList]

theorem headersOf_valuesJson (location : Location) (headers : Option Headers) :
    headersOf location (headers.map valuesJson) = .ok headers := by
  cases headers with
  | none => rfl
  | some headers =>
    have hread := valuesByName_mapValues location headers.toList
    simp only [Option.map_some, valuesJson, Json.ofDict, Dict.map, headersOf, hread, Except.map,
      Dict.ofList_toList]

/-! ## Contents -/

/-- The message with its rules in the order of their keys. -/
def sorted (m : Message) : Message :=
  { m with rules := m.rules.sorted }

/-- The message as it comes back from its document: with its rules in the order of their keys, and
    with the body that is declared by what was written for its own. -/
def decoded (m : Message) : Message :=
  { m with
    rules := m.rules.sorted
    body := Body.ofContract m.body.member? m.contentType? }

/-- A message whose document can be read. -/
structure Readable (m : Message) : Prop where
  rules : m.rules.WellFormed
  unquoted : m.rules.Unquoted

/-- The body is one that a contract declares, under the header of the message. -/
def Declared (m : Message) : Prop :=
  ∃ declared, m.body = Body.ofContract declared m.contentType?

/-- The message with its body reprinted. -/
def reprinted (m : Message) : Message :=
  { m with body := m.body.reprinted }

theorem Declared.member?_again {m : Message} (h : m.Declared) (hbody : m.body.Storable) :
    m.reprinted.decoded.body.member? = m.body.member? := by
  obtain ⟨declared, hdeclared⟩ := h
  have hagain := Body.member?_again (hdeclared ▸ hbody)
  rw [← hdeclared] at hagain
  exact hagain

/-- A message that is read back. -/
structure Restorable (m : Message) : Prop where
  rules : m.rules.WellFormed
  unquoted : m.rules.Unquoted
  body : Body.ofContract m.body.member? m.contentType? = m.body

theorem Restorable.readable {m : Message} (h : m.Restorable) : m.Readable :=
  ⟨h.rules, h.unquoted⟩

theorem Restorable.decoded_eq {m : Message} (h : m.Restorable) : m.decoded = m.sorted := by
  rw [decoded, h.body, sorted]

theorem contentMembers_eq (m : Message) :
    m.contentMembers =
      Json.optional "headers" (m.headers.map valuesJson) ++ Json.optional "body" m.body.member? := by
  rw [contentMembers]
  cases m.headers <;> cases m.body <;> rfl

theorem rulesMembers_eq (m : Message) :
    m.rulesMembers =
      Json.optional "matchingRules" (if m.rules.isEmpty then none else some m.rules.toJson) := by
  rw [rulesMembers]
  split <;> rfl

theorem Readable.ofMembers {m : Message} (h : m.Readable) (location : Location)
    {members : List (String × Json)}
    (hheaders : Assoc.get? members "headers" = m.headers.map valuesJson)
    (hbody : Assoc.get? members "body" = m.body.member?)
    (hrules : Assoc.get? members "matchingRules" =
      if m.rules.isEmpty then none else some m.rules.toJson) :
    Message.ofMembers location members = .ok m.decoded := by
  have hread := headersOf_valuesJson (location.field "headers") m.headers
  rw [Message.ofMembers, hheaders, hread, hbody, hrules]
  simp only [bind, Except.bind]
  -- an empty table is not written, and a missing one is read as empty
  by_cases hempty : m.rules.isEmpty = true
  · have hsorted : m.rules.sorted = .empty := by rw [RuleTable.eq_empty hempty]; rfl
    rw [if_pos hempty]
    simp only [decoded, hsorted]
    rfl
  · have htable := h.rules.ofJson_toJson h.unquoted (location.field "matchingRules")
    rw [if_neg hempty]
    simp only [htable, decoded]
    rfl

/-- The message that comes back from a text is written the same way, if its body is. -/
theorem Readable.members_again {m : Message} (h : m.Readable)
    (hbody : m.reprinted.decoded.body.member? = m.body.member?) :
    m.reprinted.decoded.contentMembers = m.contentMembers ∧
      m.reprinted.decoded.rulesMembers = m.rulesMembers := by
  have hempty : m.reprinted.decoded.rules.isEmpty = m.rules.isEmpty :=
    h.rules.isEmpty_sorted h.unquoted
  have hrules : m.reprinted.decoded.rules.toJson = m.rules.toJson :=
    h.rules.toJson_sorted h.unquoted
  rw [contentMembers_eq, contentMembers_eq, rulesMembers_eq, rulesMembers_eq, hbody, hempty, hrules]
  exact ⟨rfl, rfl⟩

end Message

/-! ## Requests -/

namespace Request

/-- The request with its rules in the order of their keys. -/
def sorted (r : Request) : Request :=
  { r with toMessage := r.toMessage.sorted }

/-- The request as it comes back from its document. -/
def decoded (r : Request) : Request :=
  { r with toMessage := r.toMessage.decoded }

/-- A request whose document can be read. -/
structure Readable (r : Request) : Prop where
  content : r.toMessage.Readable
  method : Ascii.upper r.method = r.method

/-- A request that is read back. -/
structure Restorable (r : Request) : Prop where
  content : r.toMessage.Restorable
  method : Ascii.upper r.method = r.method

theorem Restorable.readable {r : Request} (h : r.Restorable) : r.Readable :=
  ⟨h.content.readable, h.method⟩

theorem Restorable.decoded_eq {r : Request} (h : r.Restorable) : r.decoded = r.sorted := by
  rw [decoded, h.content.decoded_eq, sorted]

theorem summaryMembers_eq (r : Request) :
    r.summaryMembers =
      [("method", .string r.method), ("path", .string r.path)] ++
        Json.optional "query" (r.query.map Message.valuesJson) ++ r.toMessage.contentMembers := by
  rw [summaryMembers]
  cases r.query <;> rfl

theorem members_toPactJson (r : Request) :
    ∃ members, r.toPactJson.members? = some members ∧
      Assoc.get? members "method" = some (.string r.method) ∧
      Assoc.get? members "path" = some (.string r.path) ∧
      Assoc.get? members "query" = r.query.map Message.valuesJson ∧
      Assoc.get? members "headers" = r.headers.map Message.valuesJson ∧
      Assoc.get? members "body" = r.body.member? ∧
      Assoc.get? members "matchingRules" =
        if r.rules.isEmpty then none else some r.rules.toJson := by
  refine ⟨_, rfl, ?_⟩
  simp [Assoc.get?_ofList, summaryMembers_eq, Message.contentMembers_eq, Message.rulesMembers_eq,
    Assoc.get?_append, Json.get?_reverse_optional, Assoc.get?_cons]

theorem Readable.ofJson_toPactJson {r : Request} (h : r.Readable) (location : Location) :
    ofJson location r.toPactJson = .ok r.decoded := by
  obtain ⟨members, hmembers, hmethod, hpath, hquery, hheaders, hbody, hrules⟩ := r.members_toPactJson
  have hread := Message.queryOf_valuesJson (location.field "query") r.query
  have hcontent := h.content.ofMembers location hheaders hbody hrules
  simp only [ofJson, hmembers, methodOf, Message.optionalString, hmethod, hpath, hquery, hread,
    hcontent, Except.map, bind, Except.bind, Option.getD_some, h.method]
  rfl

/-- The request with its body reprinted. -/
def reprinted (r : Request) : Request :=
  { r with toMessage := r.toMessage.reprinted }

theorem Readable.toPactJson_again {r : Request} (h : r.Readable)
    (hbody : r.reprinted.decoded.body.member? = r.body.member?) :
    r.reprinted.decoded.toPactJson = r.toPactJson := by
  obtain ⟨hcontent, hrules⟩ := h.content.members_again hbody
  rw [toPactJson, toPactJson, summaryMembers_eq, summaryMembers_eq]
  change Json.ofMembers (([("method", Json.string r.method), ("path", .string r.path)] ++
    Json.optional "query" (r.query.map Message.valuesJson) ++
      r.toMessage.reprinted.decoded.contentMembers) ++
        r.toMessage.reprinted.decoded.rulesMembers) = _
  rw [hcontent, hrules]

end Request

/-! ## Responses -/

namespace Response

/-- The response with its rules in the order of their keys. -/
def sorted (r : Response) : Response :=
  { r with toMessage := r.toMessage.sorted }

/-- The response as it comes back from its document. -/
def decoded (r : Response) : Response :=
  { r with toMessage := r.toMessage.decoded }

/-- A response whose document can be read. -/
structure Readable (r : Response) : Prop where
  content : r.toMessage.Readable
  status : 100 ≤ r.status.toNat ∧ r.status.toNat ≤ 999

/-- A response that is read back. -/
structure Restorable (r : Response) : Prop where
  content : r.toMessage.Restorable
  status : 100 ≤ r.status.toNat ∧ r.status.toNat ≤ 999

theorem Restorable.readable {r : Response} (h : r.Restorable) : r.Readable :=
  ⟨h.content.readable, h.status⟩

theorem Restorable.decoded_eq {r : Response} (h : r.Restorable) : r.decoded = r.sorted := by
  rw [decoded, h.content.decoded_eq, sorted]

theorem members_toPactJson (r : Response) :
    ∃ members, r.toPactJson.members? = some members ∧
      Assoc.get? members "status" = some (.ofNat r.status.toNat) ∧
      Assoc.get? members "headers" = r.headers.map Message.valuesJson ∧
      Assoc.get? members "body" = r.body.member? ∧
      Assoc.get? members "matchingRules" =
        if r.rules.isEmpty then none else some r.rules.toJson := by
  refine ⟨_, rfl, ?_⟩
  simp [Assoc.get?_ofList, Message.contentMembers_eq, Message.rulesMembers_eq,
    Assoc.get?_append, Json.get?_reverse_optional, Assoc.get?_cons]

/-- The status that was written is read, or refused when it has not three digits. -/
theorem statusOf_toNat (location : Location) {members : List (String × Json)} {status : UInt16}
    (h : Assoc.get? members "status" = some (.ofNat status.toNat)) :
    statusOf location members =
      if 100 ≤ status.toNat ∧ status.toNat ≤ 999 then .ok status
      else .error (.invalidField (location.field "status") .notStatus) := by
  have hnat : status.toUInt64.toNat = status.toNat := by simp
  have hread := Json.uint64?_ofNat status.toUInt64
  rw [hnat] at hread
  have hrange : ((100 : UInt64) ≤ status.toUInt64 ∧ status.toUInt64 ≤ 999) ↔
      (100 ≤ status.toNat ∧ status.toNat ≤ 999) := by
    rw [UInt64.le_iff_toNat_le, UInt64.le_iff_toNat_le, hnat]
    exact Iff.rfl
  have hback : status.toUInt64.toUInt16 = status := by simp
  rw [statusOf, h]
  rw [Json.ofNat] at hread ⊢
  simp only [hread, hrange, hback]

theorem Readable.ofJson_toPactJson {r : Response} (h : r.Readable) (location : Location) :
    ofJson location r.toPactJson = .ok r.decoded := by
  obtain ⟨members, hmembers, hstatus, hheaders, hbody, hrules⟩ := r.members_toPactJson
  have hread := (statusOf_toNat location hstatus).trans (if_pos h.status)
  have hcontent := h.content.ofMembers location hheaders hbody hrules
  simp only [ofJson, hmembers, hread, hcontent, bind, Except.bind]
  rfl

/-- A response without a status of three digits is refused, whatever else it has. -/
theorem ofJson_toPactJson_of_status {r : Response}
    (h : ¬ (100 ≤ r.status.toNat ∧ r.status.toNat ≤ 999)) (location : Location) :
    ofJson location r.toPactJson =
      .error (.invalidField (location.field "status") .notStatus) := by
  obtain ⟨members, hmembers, hstatus, -⟩ := r.members_toPactJson
  have hread := (statusOf_toNat location hstatus).trans (if_neg h)
  simp only [ofJson, hmembers, hread, bind, Except.bind]

/-- The response with its body reprinted. -/
def reprinted (r : Response) : Response :=
  { r with toMessage := r.toMessage.reprinted }

theorem Readable.toPactJson_again {r : Response} (h : r.Readable)
    (hbody : r.reprinted.decoded.body.member? = r.body.member?) :
    r.reprinted.decoded.toPactJson = r.toPactJson := by
  obtain ⟨hcontent, hrules⟩ := h.content.members_again hbody
  rw [toPactJson, toPactJson]
  change Json.ofMembers (("status", .ofNat r.status.toNat) ::
    (r.toMessage.reprinted.decoded.contentMembers ++
      r.toMessage.reprinted.decoded.rulesMembers)) = _
  rw [hcontent, hrules]

end Response

/-! ## Messages that were read -/

namespace Message

theorem rules_of_ofMembers {location : Location} {members : List (String × Json)} {m : Message}
    (h : ofMembers location members = .ok m) : m.rules.WellFormed := by
  obtain ⟨headers, _, h⟩ := bind_eq_ok.1 h
  split at h
  · cases h
    exact RuleTable.wellFormed_empty
  · obtain ⟨rules, hrules, h⟩ := bind_eq_ok.1 h
    cases h
    exact RuleTable.wellFormed_of_ofJson hrules

theorem body_of_ofMembers {location : Location} {members : List (String × Json)} {m : Message}
    (h : ofMembers location members = .ok m) :
    m.body = Body.ofContract (Assoc.get? members "body") m.contentType? := by
  obtain ⟨headers, _, h⟩ := bind_eq_ok.1 h
  split at h
  · cases h
    rfl
  · obtain ⟨rules, _, h⟩ := bind_eq_ok.1 h
    cases h
    rfl

theorem declared_of_ofMembers {location : Location} {members : List (String × Json)} {m : Message}
    (h : ofMembers location members = .ok m) : m.Declared :=
  ⟨_, body_of_ofMembers h⟩

/-- Messages that were read can be read again, when their rules can be written. -/
theorem readable_of_ofMembers {location : Location} {members : List (String × Json)} {m : Message}
    (h : ofMembers location members = .ok m) (hu : m.rules.Unquoted) : m.Readable :=
  ⟨rules_of_ofMembers h, hu⟩

/-- Messages that were read are read back, when their rules and bodies can be written. -/
theorem restorable_of_ofMembers {location : Location} {members : List (String × Json)} {m : Message}
    (h : ofMembers location members = .ok m) (hu : m.rules.Unquoted)
    (hordered : ∀ v ∈ Assoc.get? members "body", v.Ordered)
    (hdepth : ∀ v ∈ Assoc.get? members "body", v.depth ≤ Json.maxDepth)
    (hbody : m.body.Portable (Assoc.get? members "body")) : m.Restorable where
  rules := rules_of_ofMembers h
  unquoted := hu
  body := by
    rw [body_of_ofMembers h] at hbody ⊢
    exact Body.ofContract_member? hordered hdepth hbody

end Message

/-- What the reader of requests reads: contents, and a method in upper case. -/
theorem Request.parts_of_ofJson {location : Location} {value : Json} {r : Request}
    (h : Request.ofJson location value = .ok r) :
    ∃ members, value = .object members ∧
      Message.ofMembers location members = .ok r.toMessage ∧ Ascii.upper r.method = r.method := by
  unfold Request.ofJson at h
  split at h
  · cases h
  · next members hmembers =>
    obtain rfl := Json.eq_object_of_members? hmembers
    obtain ⟨method, hmethod, h⟩ := bind_eq_ok.1 h
    obtain ⟨path, _, h⟩ := bind_eq_ok.1 h
    obtain ⟨query, _, h⟩ := bind_eq_ok.1 h
    obtain ⟨content, hcontent, h⟩ := bind_eq_ok.1 h
    cases h
    -- the method was put into upper case by the reader, so doing it again has no effect
    obtain ⟨written, _, rfl⟩ := map_eq_ok.1 hmethod
    exact ⟨members, rfl, hcontent, Ascii.upper_upper _⟩

theorem Response.status_of_statusOf {location : Location} {members : List (String × Json)}
    {status : UInt16} (h : statusOf location members = .ok status) :
    100 ≤ status.toNat ∧ status.toNat ≤ 999 := by
  unfold statusOf at h
  split at h
  · cases h
    decide
  · cases h
    decide
  · split at h
    · next n _ =>
      split at h
      · next hrange =>
        cases h
        rw [UInt64.le_iff_toNat_le, UInt64.le_iff_toNat_le] at hrange
        have hlow : 100 ≤ n.toNat := hrange.1
        have hhigh : n.toNat ≤ 999 := hrange.2
        -- three digits fit into sixteen bits, so the conversion cuts nothing off
        rw [UInt64.toNat_toUInt16, Nat.mod_eq_of_lt (by omega)]
        exact ⟨hlow, hhigh⟩
      · cases h
    · cases h

/-- What the reader of responses reads: contents, and a status of three digits. -/
theorem Response.parts_of_ofJson {location : Location} {value : Json} {r : Response}
    (h : Response.ofJson location value = .ok r) :
    ∃ members, value = .object members ∧
      Message.ofMembers location members = .ok r.toMessage ∧
      100 ≤ r.status.toNat ∧ r.status.toNat ≤ 999 := by
  unfold Response.ofJson at h
  split at h
  · cases h
  · next members hmembers =>
    obtain rfl := Json.eq_object_of_members? hmembers
    obtain ⟨status, hstatus, h⟩ := bind_eq_ok.1 h
    obtain ⟨content, hcontent, h⟩ := bind_eq_ok.1 h
    cases h
    exact ⟨members, rfl, hcontent, status_of_statusOf hstatus⟩

/-- The body in an object that is read nests no deeper than the reader allows. -/
theorem Message.restorable_of_object {location : Location} {members : List (String × Json)}
    {m : Message} (h : ofMembers location members = .ok m) (hu : m.rules.Unquoted)
    (hordered : (Json.object members).Ordered)
    (hdepth : (Json.object members).depth ≤ Json.maxDepth)
    (hbody : m.body.Portable ((Json.object members).get? "body")) : m.Restorable := by
  have hinside : ∀ v ∈ Assoc.get? members "body", v.depth < (Json.object members).depth :=
    fun v hv => Json.depth_lt_of_get? (v := .object members) hv
  exact restorable_of_ofMembers h hu (fun v hv => hordered.of_get? hv)
    (fun v hv => Nat.le_trans (Nat.le_of_lt (hinside v hv)) hdepth) hbody

theorem Request.restorable_of_ofJson {location : Location} {value : Json} {r : Request}
    (h : Request.ofJson location value = .ok r) (hu : r.rules.Unquoted) (hordered : value.Ordered)
    (hdepth : value.depth ≤ Json.maxDepth) (hbody : r.body.Portable (value.get? "body")) :
    r.Restorable := by
  obtain ⟨members, rfl, hcontent, hmethod⟩ := parts_of_ofJson h
  exact ⟨Message.restorable_of_object hcontent hu hordered hdepth hbody, hmethod⟩

theorem Response.restorable_default : ({} : Response).Restorable where
  content := ⟨RuleTable.wellFormed_empty, (fun _ h => nomatch h), rfl⟩
  status := by decide

theorem Response.restorable_of_ofJson {location : Location} {value : Json} {r : Response}
    (h : Response.ofJson location value = .ok r) (hu : r.rules.Unquoted) (hordered : value.Ordered)
    (hdepth : value.depth ≤ Json.maxDepth) (hbody : r.body.Portable (value.get? "body")) :
    r.Restorable := by
  obtain ⟨members, rfl, hcontent, hstatus⟩ := parts_of_ofJson h
  exact ⟨Message.restorable_of_object hcontent hu hordered hdepth hbody, hstatus⟩

end MockProvider
