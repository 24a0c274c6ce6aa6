import MockProvider.Proofs.Message.RoundTrip
import MockProvider.Proofs.Message.Wire
import MockProvider.Server.Reply

/-!
# Replies that keep to their contract

What a server sends for a response that was read from a contract is that response: it is never
replaced by a failure, and what a client makes of its status, headers and octets has no mismatches
with the response in the contract. A content type that was not declared is sent as well, so the
client reads the body as what it is.
-/

namespace MockProvider

namespace Reply

/-- The response that a client makes of a reply. -/
def readBack (reply : Reply) : Response :=
  { Message.ofWire reply.headers reply.body with status := reply.status }

/-- The headers of a reply for a response, with their names in lower case. -/
def sentHeaders (r : Response) : List (String × String) :=
  (declaredHeaders r ++ typeHeader r).map fun header => (Ascii.lower header.1, header.2)

theorem lower_sentHeaders (r : Response) :
    ∀ header ∈ sentHeaders r, Ascii.lower header.1 = header.1 := by
  intro header hheader
  obtain ⟨declared, -, rfl⟩ := List.mem_map.1 hheader
  exact Ascii.lower_lower declared.1

variable {r : Response}

/-! ## Declared headers -/

theorem declaredHeaders_lower {headers : Headers} (h : r.headers = some headers) :
    (declaredHeaders r).map (fun header => (Ascii.lower header.1, header.2)) =
      Dict.ungroup (headers.toList.map fun entry => (Ascii.lower entry.1, entry.2)) := by
  rw [← Dict.ungroup_map, declaredHeaders, h]
  rfl

/-- Names that differ in more than case are different in lower case. -/
theorem nodup_lower {headers : Headers} (h : headers.Distinct) :
    ((headers.toList.map fun entry => (Ascii.lower entry.1, entry.2)).map Prod.fst).Nodup := by
  rw [List.map_map]
  have hpair : headers.toList.Pairwise fun a b => Ascii.sameIgnoringCase a.1 b.1 = false :=
    List.pairwise_map.1 h
  refine List.pairwise_map.2 (hpair.imp ?_)
  intro a b hdiffer heq
  rw [Ascii.sameIgnoringCase, beq_eq_false_iff_ne] at hdiffer
  exact hdiffer heq

/-- A type is added only where no declared header has the name for it. -/
theorem lower_ne_of_contentType? (hnone : r.toMessage.header? "content-type" = none)
    {headers : Headers} (h : r.headers = some headers) :
    ∀ entry ∈ headers.toList, Ascii.lower entry.1 ≠ "content-type" := by
  intro entry hentry hlower
  rw [Message.header?, h, Option.bind_some, Headers.lookup?, Option.map_eq_none_iff,
    List.find?_eq_none] at hnone
  apply hnone entry hentry
  have hname : Ascii.lower "content-type" = "content-type" := by decide
  rw [Ascii.sameIgnoringCase, hlower, hname]
  exact beq_self_eq_true _

theorem typeHeader_of_some {value : String} (h : r.toMessage.contentType? = some value) :
    typeHeader r = [] := by
  simp [typeHeader, h]

theorem typeHeader_of_present (hnone : r.toMessage.contentType? = none) {bytes : Bytes}
    {type : ContentType} (h : r.body = .present bytes type) :
    typeHeader r = [("content-type", type.text)] := by
  simp [typeHeader, hnone, h, Body.type?]

/-- No declared header has the name of the one that is added. -/
theorem valuesOf_typeHeader (hliteral : r.toMessage.Literal) {headers : Headers}
    (h : r.headers = some headers) {entry : String × List String}
    (hentry : entry ∈ headers.toList) :
    Dict.valuesOf (Ascii.lower entry.1)
      ((typeHeader r).map fun header => (Ascii.lower header.1, header.2)) = [] := by
  cases htype : r.toMessage.contentType? with
  | some value =>
    rw [typeHeader_of_some htype]
    rfl
  | none =>
    have hne := lower_ne_of_contentType? (hliteral.header?_eq_none htype) h entry hentry
    have hname : Ascii.lower "content-type" = "content-type" := by decide
    rw [Dict.valuesOf_eq_nil_iff]
    intro pair hpair heq
    obtain ⟨header, hheader, rfl⟩ := List.mem_map.1 hpair
    simp only [typeHeader, htype] at hheader
    cases hbody : r.body.type? with
    | none =>
      rw [hbody] at hheader
      cases hheader
    | some type =>
      rw [hbody] at hheader
      obtain rfl := List.mem_singleton.1 hheader
      exact hne (heq.symm.trans hname)

theorem arrivesWith_sentHeaders (hliteral : r.toMessage.Literal)
    (hdistinct : ∀ headers, r.headers = some headers → headers.Distinct) :
    r.toMessage.ArrivesWith (sentHeaders r) := by
  intro headers hheaders entry hentry
  have hnodup := nodup_lower (hdistinct headers hheaders)
  have hmem : (Ascii.lower entry.1, entry.2) ∈
      headers.toList.map fun entry => (Ascii.lower entry.1, entry.2) :=
    List.mem_map.2 ⟨entry, hentry, rfl⟩
  rw [sentHeaders, List.map_append, Dict.valuesOf_append, declaredHeaders_lower hheaders,
    Dict.valuesOf_ungroup hnodup, Assoc.get?_of_mem hnodup hmem,
    valuesOf_typeHeader hliteral hheaders hentry, List.append_nil, Option.getD_some]

/-! ## The type of the body -/

/-- A body that is present is sent with its type, declared or added. -/
theorem head?_contentType (hliteral : r.toMessage.Literal)
    (harrives : r.toMessage.ArrivesWith (sentHeaders r)) {bytes : Bytes} {type : ContentType}
    (hbody : r.body = .present bytes type) :
    (Dict.valuesOf "content-type" (sentHeaders r)).head? =
      some (r.toMessage.contentType?.getD type.text) := by
  cases htype : r.toMessage.contentType? with
  | some value =>
    obtain ⟨values, hvalues, hfirst⟩ := Option.bind_eq_some_iff.1 htype
    rw [harrives.contentType hvalues, hfirst, Option.getD_some]
  -- no declared header has the name, so the added one is the first
  | none =>
    have hname : Ascii.lower "content-type" = "content-type" := by decide
    have hdeclared : Dict.valuesOf "content-type"
        ((declaredHeaders r).map fun header => (Ascii.lower header.1, header.2)) = [] := by
      cases hheaders : r.headers with
      | none => simp [declaredHeaders, hheaders, Dict.valuesOf]
      | some headers =>
        rw [declaredHeaders_lower hheaders, Dict.valuesOf_eq_nil_iff]
        intro pair hpair
        obtain ⟨entry, hentry, hvalue⟩ := List.mem_flatMap.1 hpair
        obtain ⟨declared, hmem, rfl⟩ := List.mem_map.1 hentry
        obtain ⟨value, -, rfl⟩ := List.mem_map.1 hvalue
        exact lower_ne_of_contentType? (hliteral.header?_eq_none htype) hheaders declared hmem
    rw [sentHeaders, List.map_append, Dict.valuesOf_append, hdeclared,
      typeHeader_of_present htype hbody]
    simp [Dict.valuesOf, hname]

/-- The type that is added can be sent. -/
theorem isHeader_typeHeader {declared : Option Json}
    (hbody : r.body = Body.ofContract declared r.toMessage.contentType?) :
    (typeHeader r).all isHeader = true := by
  cases htype : r.toMessage.contentType? with
  | some value =>
    rw [typeHeader_of_some htype]
    rfl
  | none =>
    rw [htype] at hbody
    cases hb : r.body with
    | absent => simp [typeHeader, htype, hb, Body.type?]
    | empty => simp [typeHeader, htype, hb, Body.type?]
    | present bytes type =>
      have hassumed := Body.type_mem_assumed (hbody.symm.trans hb)
      have hall : ∀ type ∈ ContentType.assumed,
          [("content-type", type.text)].all isHeader = true := by decide
      rw [typeHeader_of_present htype hb]
      exact hall type hassumed

end Reply

/-! ## Responses of contracts -/

open Reply in
/-- The reply for a response that was read from a contract is that response, and what a client makes
    of it has no mismatches with it. -/
theorem Response.served_matches {location : Location} {document : Json} {r : Response}
    (hread : Response.ofJson location document = .ok r) (hliteral : r.toMessage.Literal)
    (hdistinct : ∀ headers, r.headers = some headers → headers.Distinct)
    (haccepted : (declaredHeaders r).all isHeader = true) :
    ofResponse r = { status := r.status, headers := sentHeaders r, body := r.body.bytes } ∧
      r.mismatches (ofResponse r).readBack = [] := by
  obtain ⟨members, rfl, hcontent, hlow, hhigh⟩ := Response.parts_of_ofJson hread
  have hdeclared := Message.body_of_ofMembers hcontent
  have hreply : ofResponse r =
      { status := r.status, headers := sentHeaders r, body := r.body.bytes } := by
    have hstatus : 100 ≤ r.status ∧ r.status ≤ 999 := by
      rw [UInt16.le_iff_toNat_le, UInt16.le_iff_toNat_le]
      exact ⟨hlow, hhigh⟩
    have hall : (declaredHeaders r ++ typeHeader r).all isHeader = true := by
      rw [List.all_append, haccepted, isHeader_typeHeader hdeclared]
      rfl
    rw [ofResponse, if_pos hstatus, build, if_pos hall]
    rfl
  refine ⟨hreply, ?_⟩
  have harrives := arrivesWith_sentHeaders hliteral hdistinct
  have hmessage : (ofResponse r).readBack.toMessage =
      Message.ofWire (sentHeaders r) r.body.bytes := by
    rw [hreply]
    rfl
  have hstatus : (ofResponse r).readBack.status = r.status := by
    rw [hreply]
    rfl
  have hheaders : Matching.matchHeaders r.toMessage (ofResponse r).readBack.toMessage = [] := by
    rw [hmessage]
    exact hliteral.matchHeaders_ofWire (lower_sentHeaders r) harrives _
  have hbody : Matching.matchBody r.toMessage (ofResponse r).readBack.toMessage = [] := by
    rw [hmessage]
    apply hliteral.matchBody_ofBytes (Message.body_ofWire _ _)
    intro bytes type hpresent
    rw [head?_contentType hliteral harrives hpresent]
    exact Body.ofBytes_text (hdeclared.symm.trans hpresent)
  simp only [mismatches, ResponseFacets.mismatches, facets, hstatus,
    Matching.matchStatus_self hliteral.reflexive, hheaders, hbody, List.append_nil]

/-- A response with a header of two values and a document whose type is not declared. -/
def createdDocument : Json :=
  .ofMembers
    [("status", .ofNat 201),
      ("headers", .ofMembers [("X-Id", .array [.string "1", .string "2"])]),
      ("body", .bool true)]

def createdResponse : Response where
  status := 201
  headers := some (.ofList [("X-Id", ["1", "2"])])
  body := .present (Bytes.ofString "true") .json

theorem createdResponse_literal : createdResponse.toMessage.Literal where
  rules := by decide
  valued headers hheaders entry hentry := by
    cases hheaders
    obtain rfl := List.mem_singleton.1 hentry
    exact List.cons_ne_nil _ _
  body := by
    have hkind : ContentType.json.kind = .json := by decide
    simp only [createdResponse, Body.Readable, hkind]
    exact ok_of_toBool (by decide +kernel)

theorem createdResponse_distinct :
    ∀ headers, createdResponse.headers = some headers → headers.Distinct := by
  intro headers hheaders
  cases hheaders
  exact List.pairwise_singleton _ _

open Reply in
theorem Response.served_matches_created :
    Response.ofJson ⟨"response"⟩ createdDocument = .ok createdResponse ∧
      (ofResponse createdResponse).status = 201 ∧
      (ofResponse createdResponse).headers =
        [("x-id", "1"), ("x-id", "2"), ("content-type", "application/json")] ∧
      createdResponse.mismatches (ofResponse createdResponse).readBack = [] := by
  have hread : Response.ofJson ⟨"response"⟩ createdDocument = .ok createdResponse := by
    decide +kernel
  obtain ⟨hreply, hnone⟩ := Response.served_matches hread createdResponse_literal
    createdResponse_distinct (by decide)
  refine ⟨hread, ?_, ?_, hnone⟩
  · rw [hreply]
    rfl
  · rw [hreply]
    decide

end MockProvider
