import MockProvider.Proofs.Matching.Closeness
import MockProvider.Proofs.Message.RoundTrip
import MockProvider.Proofs.Message.Wire
import MockProvider.Proofs.Text.Queries
import MockProvider.Server.Arrival

/-!
# Requests that arrive as a contract has them

A client that sends the request of an interaction as it stands in the contract gets an answer: what
the server makes of the path, the query string, the headers and the octets has no mismatches with
the request that was read from the contract, so this interaction or an earlier one is selected.
-/

namespace MockProvider

/-! ## Arrivals -/

namespace Arrival

/-- The headers of a request as texts. -/
def headerTexts (a : Arrival) : List (String × String) :=
  a.headers.map fun header => (header.1, header.2.toStringLossy)

theorem collected_eq_group (a : Arrival) : a.collected = Dict.group a.headerTexts := by
  rw [Dict.group, headerTexts, List.foldl_map]
  rfl

theorem toMessage_toRequest (a : Arrival) :
    a.toRequest.toMessage = Message.ofWire a.headerTexts a.body := by
  simp only [toRequest, collected_eq_group]
  rfl

/-- The octets of the values of a header, in the order in which they arrived. -/
def valuesOf (a : Arrival) (name : String) : List Bytes :=
  (a.headers.filter fun header => header.1 == name).map Prod.snd

theorem valuesOf_headerTexts (a : Arrival) (name : String) :
    Dict.valuesOf name a.headerTexts = (a.valuesOf name).map Bytes.toStringLossy := by
  simp [Dict.valuesOf, headerTexts, valuesOf, List.filter_map, Function.comp_def]

/-- A request arrives as it is expected: in its method, with a path that stands for its path, with
    its query if it has one, with the values of its headers and no other content type, and with the
    octets of its body. There may be further headers. -/
structure Replays (a : Arrival) (r : Request) : Prop where
  method : a.method = r.method
  path : Percent.decode? a.path = some r.path
  query : a.query = (r.query.filter fun query => !query.isEmpty).map Query.render
  lower : ∀ header ∈ a.headers, Ascii.lower header.1 = header.1
  values : ∀ headers, r.headers = some headers → ∀ entry ∈ headers.toList,
    a.valuesOf (Ascii.lower entry.1) = entry.2.map Bytes.ofString
  further : a.valuesOf "content-type" ≠ [] → (r.toMessage.header? "content-type").isSome = true
  body : a.body = r.body.bytes

variable {a : Arrival} {r : Request}

theorem Replays.arrivesWith (h : a.Replays r) : r.toMessage.ArrivesWith a.headerTexts := by
  intro headers hheaders entry hentry
  have hid : Bytes.toStringLossy ∘ Bytes.ofString = id := funext Bytes.toStringLossy_ofString
  rw [valuesOf_headerTexts, h.values headers hheaders entry hentry, List.map_map, hid, List.map_id]

theorem Replays.lower_headerTexts (h : a.Replays r) :
    ∀ header ∈ a.headerTexts, Ascii.lower header.1 = header.1 := by
  intro header hheader
  obtain ⟨sent, hsent, rfl⟩ := List.mem_map.1 hheader
  exact h.lower sent hsent

/-- The content type that arrives is the one that is expected. -/
theorem Replays.contentType (h : a.Replays r) :
    (Dict.valuesOf "content-type" a.headerTexts).head? = r.toMessage.contentType? := by
  rw [Message.contentType?]
  cases hheader : r.toMessage.header? "content-type" with
  | some values => rw [h.arrivesWith.contentType hheader, Option.bind_some]
  -- where no type is declared none may arrive, or the body would be read as something else
  | none =>
    have hnone : a.valuesOf "content-type" = [] := by
      by_contra hsome
      have hdeclared := h.further hsome
      rw [hheader] at hdeclared
      cases hdeclared
    rw [valuesOf_headerTexts, hnone]
    rfl

theorem Replays.matchQuery_parsedQuery (h : a.Replays r) {rules : RuleTable}
    (hrules : rules.Reflexive)
    (hvalued : ∀ query, r.query = some query → ∀ entry ∈ query.toList, entry.2 ≠ []) :
    Matching.matchQuery rules r.query a.parsedQuery = [] := by
  have hquery := h.query
  cases hr : r.query with
  | none => rfl
  | some query =>
    rw [hr] at hquery
    cases hempty : query.isEmpty with
    | true =>
      have hnone : query.toList = [] := List.isEmpty_iff.1 hempty
      simp [Matching.matchQuery, hnone]
    | false =>
      have hsent : a.query = some query.render := by
        rw [hquery, Option.filter_some, hempty]
        rfl
      have hparsed : a.parsedQuery = some query := by
        have hfull := Query.render_ne_empty (hvalued query hr) hempty
        rw [parsedQuery, hsent, Option.filter_some, hfull, Bool.not_false, if_pos rfl,
          Option.map_some, Query.parse_render (hvalued query hr)]
      rw [hparsed]
      exact Matching.matchQuery_self hrules (some query)

end Arrival

/-! ## Requests of contracts -/

/-- A request that was read from a document can be sent as it is: it says literally what is
    expected, also in its query, and without a content type its body is no bare number or truth
    value. -/
structure Request.Sendable (r : Request) (document : Json) : Prop where
  literal : r.toMessage.Literal
  valued : ∀ query, r.query = some query → ∀ entry ∈ query.toList, entry.2 ≠ []
  shown : r.toMessage.header? "content-type" = none →
    ∀ body, document.get? "body" = some body → body.isBare = false

/-- The request of an interaction that is sent as it stands in the contract has no mismatches, so in
    every contract that has it this interaction or an earlier one is selected. -/
theorem Request.replay_matches {location : Location} {document : Json} {r : Request}
    (hread : Request.ofJson location document = .ok r) (hsendable : r.Sendable document)
    {a : Arrival} (ha : a.Replays r) :
    r.mismatches a.toRequest = [] ∧
      ∀ (c : Contract) (index : Nat) (i : Interaction), c.interactions[index]? = some i →
        i.request = r → ∃ j ≤ index, c.select a.toRequest = .matched j := by
  obtain ⟨members, rfl, hcontent, hupper⟩ := Request.parts_of_ofJson hread
  have hliteral := hsendable.literal
  have hrules := hliteral.reflexive
  have hmethod : a.toRequest.method = r.method := by
    rw [← hupper, ← ha.method]
    rfl
  have hpath : a.toRequest.path = r.path := by
    change (Percent.decode? a.path).getD a.path = r.path
    rw [ha.path, Option.getD_some]
  have hbody : a.toRequest.body = .ofBytes r.body.bytes r.toMessage.contentType? := by
    rw [a.toMessage_toRequest, Message.body_ofWire, ha.contentType, ha.body]
  have hpresent : ∀ bytes type, r.body = .present bytes type →
      Body.ofBytes bytes r.toMessage.contentType? = .present bytes type := by
    intro bytes type hbytes
    have hdeclared := Message.body_of_ofMembers hcontent
    rw [hbytes] at hdeclared
    -- the type is that of the same header, or guessed from octets that are what they look like
    refine Body.ofBytes_ofContract hdeclared.symm ?_ ?_
    · rintro rfl
      exact hliteral.body.document hbytes
    · exact fun hnone => hsendable.shown (hliteral.header?_eq_none hnone)
  have hnone : r.mismatches a.toRequest = [] := by
    have hheaders : Matching.matchHeaders r.toMessage a.toRequest.toMessage = [] := by
      rw [a.toMessage_toRequest]
      exact hliteral.matchHeaders_ofWire ha.lower_headerTexts ha.arrivesWith _
    have hquery : Matching.matchQuery r.rules r.query a.toRequest.query = [] :=
      ha.matchQuery_parsedQuery hrules hsendable.valued
    simp only [mismatches, RequestFacets.mismatches, RequestFacets.toList, facets, hmethod, hpath,
      Matching.matchMethod_self, Matching.matchPath_self hrules, hquery, hheaders,
      hliteral.matchBody_ofBytes hbody hpresent, List.flatten_cons, List.flatten_nil,
      List.append_nil]
  refine ⟨hnone, ?_⟩
  rintro c index i hi rfl
  exact c.select_eq_matched hi hnone

/-- A request with a query, a header of two values and a document. -/
def searchDocument : Json :=
  .ofMembers
    [("method", .string "post"), ("path", .string "/a b"),
      ("query", .ofMembers [("k&", .array [.string "x y", .string "+"])]),
      ("headers", .ofMembers [("X-Id", .array [.string "1", .string "2"])]),
      ("body", .array [.ofNat 1])]

def searchRequest : Request where
  method := "POST"
  path := "/a b"
  query := some (.ofList [("k&", ["x y", "+"])])
  headers := some (.ofList [("X-Id", ["1", "2"])])
  body := .present (Bytes.ofString "[1]") .json

/-- It arrives with a header between the two values and without a content type. -/
def searchArrival : Arrival where
  method := "POST"
  path := "/a%20b"
  query := some "k%26=x%20y&k%26=%2B"
  headers :=
    [("x-id", Bytes.ofString "1"), ("accept", Bytes.ofString "*/*"), ("x-id", Bytes.ofString "2")]
  body := Bytes.ofString "[1]"

theorem searchRequest_literal : searchRequest.toMessage.Literal where
  rules := by decide
  valued headers hheaders entry hentry := by
    cases hheaders
    obtain rfl := List.mem_singleton.1 hentry
    exact List.cons_ne_nil _ _
  body := by
    have hkind : ContentType.json.kind = .json := by decide
    simp only [searchRequest, Body.Readable, hkind]
    exact ok_of_toBool (by decide +kernel)

theorem searchRequest_sendable : searchRequest.Sendable searchDocument where
  literal := searchRequest_literal
  valued query hquery entry hentry := by
    cases hquery
    obtain rfl := List.mem_singleton.1 hentry
    exact List.cons_ne_nil _ _
  shown _ body hbody := by
    have harray : searchDocument.get? "body" = some (.array [.ofNat 1]) := by rfl
    cases harray.symm.trans hbody
    rfl

theorem searchArrival_replays : searchArrival.Replays searchRequest where
  method := rfl
  path := by decide +kernel
  query := by decide +kernel
  lower := by decide
  values headers hheaders entry hentry := by
    cases hheaders
    obtain rfl := List.mem_singleton.1 hentry
    decide +kernel
  further h := absurd (by decide) h
  body := rfl

theorem Request.replay_matches_search :
    Request.ofJson ⟨"request"⟩ searchDocument = .ok searchRequest ∧
      searchRequest.mismatches searchArrival.toRequest = [] ∧
      ({ interactions := [{ request := searchRequest }] } : Contract).select
        searchArrival.toRequest = .matched 0 := by
  have hread : Request.ofJson ⟨"request"⟩ searchDocument = .ok searchRequest := by decide +kernel
  obtain ⟨hnone, hselect⟩ :=
    Request.replay_matches hread searchRequest_sendable searchArrival_replays
  obtain ⟨j, hj, hmatched⟩ := hselect { interactions := [{ request := searchRequest }] } 0 _ rfl rfl
  exact ⟨hread, hnone, Nat.le_zero.1 hj ▸ hmatched⟩

end MockProvider
