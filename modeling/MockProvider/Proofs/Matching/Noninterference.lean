import MockProvider.Matching.Selection
import MockProvider.Proofs.Matching.HeaderElements
import MockProvider.Proofs.Message.Lookup

/-!
# What a comparison looks at

A received request is looked at only where the expected one asks for something: at the values of the
query keys that it lists, at the elements of the headers that it names, at the path and the body, and
at the method up to its case. Two requests that agree there have the same mismatches, down to their
descriptions, whatever the rules (`mismatches_agreeing`); so a contract selects the same interaction
for them (`select_congr`). Further keys and headers, and the way in which the elements of a header
are spread over values, make no difference.
-/

namespace MockProvider

open Matching (headerElements)

namespace Message

/-- The names of the headers, as they are spelled. -/
def headerNames (m : Message) : List String :=
  (m.headers.getD .empty).keys

/-- The elements of a header, whatever the case of its name. -/
def elements? (m : Message) (name : String) : Option (List String) :=
  (m.header? name).map headerElements

theorem elements?_eq (m : Message) (name : String) :
    m.elements? name = Headers.lookup? ((m.headers.getD .empty).map headerElements) name := by
  rw [elements?, header?_eq, Headers.lookup?_map]

end Message

/-! ## One facet after the other -/

namespace Matching

variable {a b : Message}

theorem matchMethod_congr {received other : String}
    (h : Ascii.sameIgnoringCase received other = true) (expected : String) :
    matchMethod expected received = matchMethod expected other := by
  rw [matchMethod, matchMethod, Ascii.sameIgnoringCase_congr h, Ascii.upper_eq h]

theorem keyMismatches_congr {query other : Query} {key : String}
    (h : query.get? key = other.get? key) (rules : RuleTable) (expected : List String) :
    keyMismatches rules query key expected = keyMismatches rules other key expected := by
  rw [keyMismatches, keyMismatches, h]

theorem matchQuery_congr {expected query other : Option Query}
    (h : ∀ key ∈ (expected.getD .empty).keys,
      (query.getD .empty).get? key = (other.getD .empty).get? key) (rules : RuleTable) :
    matchQuery rules expected query = matchQuery rules expected other := by
  cases expected with
  | none => rfl
  | some expected =>
    rw [matchQuery, matchQuery, List.flatMap_def, List.flatMap_def]
    refine congrArg List.flatten (List.map_congr_left fun entry hentry => ?_)
    exact keyMismatches_congr (h entry.1 (List.mem_map_of_mem hentry)) rules entry.2

/-- Only the elements of a header are seen: its values are compared and reported in the normal form,
    which is made of them. -/
theorem headerMismatch_eq (rules : RuleTable) (m : Message) (name : String) (values : List String) :
    headerMismatch rules m name values =
      match m.elements? name with
      | none =>
        some ⟨.header, name, .string (normalHeader values), .null,
          "Expected header '" ++ name ++ "' but was missing"⟩
      | some elements =>
        let actual := Text.join ", " elements
        match headerFailures rules name (normalHeader values) actual with
        | [] => none
        | failures =>
          some ⟨.header, name, .string (normalHeader values), .string actual,
            describeAll failures⟩ := by
  rw [headerMismatch, Message.elements?]
  cases m.header? name <;> rfl

theorem matchHeaders_congr {expected : Message}
    (h : ∀ name ∈ expected.headerNames, a.elements? name = b.elements? name) :
    matchHeaders expected a = matchHeaders expected b := by
  rw [matchHeaders, matchHeaders]
  split
  · rfl
  · next headers hheaders =>
    rw [Message.headerNames, hheaders] at h
    refine List.filterMap_congr fun (name, values) hentry => ?_
    have helements : a.elements? name = b.elements? name := h name (List.mem_map_of_mem hentry)
    show headerMismatch expected.rules a name values = headerMismatch expected.rules b name values
    rw [headerMismatch_eq, headerMismatch_eq, helements]

theorem matchBody_congr (h : a.body = b.body) (expected : Message) :
    matchBody expected a = matchBody expected b := by
  rw [matchBody, matchBody, h]

end Matching

namespace Request

/-- The query keys that are listed. -/
def queryKeys (r : Request) : List String :=
  (r.query.getD .empty).keys

/-- Two received requests that cannot be told apart where the expected one looks. -/
structure AgreeFor (expected a b : Request) : Prop where
  method : Ascii.sameIgnoringCase a.method b.method = true
  path : a.path = b.path
  query : ∀ key ∈ expected.queryKeys, a.query? key = b.query? key
  headers : ∀ name ∈ expected.headerNames, a.elements? name = b.elements? name
  body : a.body = b.body

variable {expected a b : Request}

theorem AgreeFor.facets_eq (h : expected.AgreeFor a b) : expected.facets a = expected.facets b := by
  have hquery : ∀ key ∈ expected.queryKeys,
      (a.query.getD .empty).get? key = (b.query.getD .empty).get? key := by
    intro key hkey
    rw [← query?_eq, ← query?_eq, h.query key hkey]
  rw [facets, facets, Matching.matchMethod_congr h.method, h.path, Matching.matchQuery_congr hquery,
    Matching.matchHeaders_congr h.headers, Matching.matchBody_congr h.body]

/-! ## Changes that are not seen -/

/-- The request with a list of values under a query key. -/
def putQuery (r : Request) (key : String) (values : List String) : Request :=
  { r with query := some ((r.query.getD .empty).insert key values) }

/-- The request with a list of values under the name of a header. -/
def putHeader (r : Request) (name : String) (values : List String) : Request :=
  { r with headers := some ((r.headers.getD .empty).insert name values) }

theorem agreeFor_putQuery {key : String} (h : key ∉ expected.queryKeys) (a : Request)
    (values : List String) : expected.AgreeFor (a.putQuery key values) a where
  method := Ascii.sameIgnoringCase_self _
  path := rfl
  query := by
    intro other hother
    have hne : key ≠ other := fun heq => h (heq ▸ hother)
    rw [query?_eq, query?_eq, putQuery, Option.getD_some, Dict.get?_insert, if_neg hne]
  headers _ _ := rfl
  body := rfl

theorem agreeFor_putHeader {name : String}
    (h : ∀ other ∈ expected.headerNames, Ascii.sameIgnoringCase name other = false) (a : Request)
    (values : List String) : expected.AgreeFor (a.putHeader name values) a where
  method := Ascii.sameIgnoringCase_self _
  path := rfl
  query _ _ := rfl
  headers := by
    intro other hother
    rw [Message.elements?, Message.elements?, Message.header?_eq, Message.header?_eq, putHeader,
      Option.getD_some, Headers.lookup?_insert_of_ne (h other hother)]
  body := rfl

/-- Values with the same elements stand for one another, under whatever name they are put. -/
theorem agreeFor_putHeader_of_elements {values values' : List String}
    (h : headerElements values = headerElements values') (expected a : Request) (name : String) :
    expected.AgreeFor (a.putHeader name values) (a.putHeader name values') where
  method := Ascii.sameIgnoringCase_self _
  path := rfl
  query _ _ := rfl
  headers := by
    intro other _
    -- a look-up of elements goes into the dictionary of elements, which is the same on both sides
    rw [Message.elements?_eq, Message.elements?_eq, putHeader, putHeader, Option.getD_some,
      Option.getD_some, Dict.map_insert, Dict.map_insert, h]
  body := rfl

/-- Nothing outside the expectation shows in the mismatches: neither where two requests agree, nor in
    keys and headers beside the expected ones, nor in the cutting of values of a header or in blanks
    around their commas. -/
theorem mismatches_agreeing (expected : Request) :
    (∀ a b, expected.AgreeFor a b → expected.mismatches a = expected.mismatches b) ∧
    (∀ a key values, key ∉ expected.queryKeys →
      expected.mismatches (a.putQuery key values) = expected.mismatches a) ∧
    (∀ a name values,
      (∀ other ∈ expected.headerNames, Ascii.sameIgnoringCase name other = false) →
      expected.mismatches (a.putHeader name values) = expected.mismatches a) ∧
    (∀ (a : Request) name front parts back, parts ≠ [] →
      expected.mismatches (a.putHeader name (front ++ [Text.join "," parts] ++ back)) =
        expected.mismatches (a.putHeader name (front ++ parts ++ back))) ∧
    ∀ (a : Request) name front parts padded back, List.Forall₂ Text.Padded parts padded →
      expected.mismatches (a.putHeader name (front ++ [Text.join "," padded] ++ back)) =
        expected.mismatches (a.putHeader name (front ++ [Text.join "," parts] ++ back)) := by
  have hagree : ∀ {a b : Request}, expected.AgreeFor a b →
      expected.mismatches a = expected.mismatches b :=
    fun h => congrArg RequestFacets.mismatches h.facets_eq
  have hinside : ∀ {values values' : List String} (a : Request) name front back,
      headerElements values = headerElements values' →
      expected.mismatches (a.putHeader name (front ++ values ++ back)) =
        expected.mismatches (a.putHeader name (front ++ values' ++ back)) := by
    intro values values' a name front back h
    refine hagree (agreeFor_putHeader_of_elements ?_ expected a name)
    simp only [Matching.headerElements_append, h]
  refine ⟨fun a b => hagree, fun a key values hkey => hagree (agreeFor_putQuery hkey a values),
    fun a name values hname => hagree (agreeFor_putHeader hname a values), ?_, ?_⟩
  · intro a name front parts back hparts
    exact hinside a name front back (Matching.headerElements_join hparts)
  · intro a name front parts padded back hpadded
    apply hinside a name front back
    -- each joined value stands for its parts, and padding is no part of their elements
    cases hpadded with
    | nil => rfl
    | cons hfirst hrest =>
      rw [Matching.headerElements_join (List.cons_ne_nil _ _),
        Matching.headerElements_join (List.cons_ne_nil _ _),
        Matching.headerElements_of_padded (List.Forall₂.cons hfirst hrest)]

/-- A search with one key, which asks for either of two types. -/
def search : Request where
  path := "/search"
  query := some (Dict.ofList [("q", ["x"])])
  headers := some (Dict.ofList [("Accept", ["text/html", "text/plain"])])

/-- The same search with a further key and a further header, and its types in one value. -/
def widerSearch : Request where
  method := "get"
  path := "/search"
  query := some (Dict.ofList [("page", ["2"]), ("q", ["x"])])
  headers := some (Dict.ofList [("Host", ["localhost"]), ("accept", ["text/html , text/plain"])])

/-- Neither search shows more than the other to the plain one. -/
theorem mismatches_agreeing_search :
    (search.AgreeFor widerSearch search ∧
      search.mismatches widerSearch = search.mismatches search) ∧
    ("page" ∉ search.queryKeys ∧
      search.mismatches (search.putQuery "page" ["2"]) = search.mismatches search) ∧
    ((∀ other ∈ search.headerNames, Ascii.sameIgnoringCase "Host" other = false) ∧
      search.mismatches (search.putHeader "Host" ["localhost"]) = search.mismatches search) ∧
    search.mismatches (search.putHeader "Accept" [Text.join "," ["text/html", "text/plain"]]) =
      search.mismatches (search.putHeader "Accept" ["text/html", "text/plain"]) ∧
    (List.Forall₂ Text.Padded ["text/html", "text/plain"] ["text/html ", " text/plain"] ∧
      search.mismatches (search.putHeader "Accept" [Text.join "," ["text/html ", " text/plain"]]) =
        search.mismatches
          (search.putHeader "Accept" [Text.join "," ["text/html", "text/plain"]])) := by
  obtain ⟨hagreeing, hkeys, hnames, hcut, hpadding⟩ := mismatches_agreeing search
  have hagree : search.AgreeFor widerSearch search :=
    ⟨by decide +kernel, rfl, by decide +kernel, by decide +kernel, rfl⟩
  have hpage : "page" ∉ search.queryKeys := by decide +kernel
  have hhost : ∀ other ∈ search.headerNames, Ascii.sameIgnoringCase "Host" other = false := by
    decide +kernel
  have hpadded : List.Forall₂ Text.Padded ["text/html", "text/plain"]
      ["text/html ", " text/plain"] :=
    .cons ⟨[], [' '], by simp, by simp [Text.isBlank], rfl⟩
      (.cons ⟨[' '], [], by simp [Text.isBlank], by simp, rfl⟩ .nil)
  exact ⟨⟨hagree, hagreeing _ _ hagree⟩, ⟨hpage, hkeys search "page" _ hpage⟩,
    ⟨hhost, hnames search "Host" _ hhost⟩,
    hcut search "Accept" [] _ [] (List.cons_ne_nil _ _), hpadded,
    hpadding search "Accept" [] _ _ [] hpadded⟩

end Request

/-- Two requests that agree for every interaction of a contract are answered by the same one. -/
theorem Contract.select_congr {c : Contract} {a b : Request}
    (h : ∀ i ∈ c.interactions, i.request.AgreeFor a b) : c.select a = c.select b := by
  have hattempts : ∀ (interactions : List Interaction),
      (∀ i ∈ interactions, i.request.AgreeFor a b) → ∀ index,
      Selection.attempts a index interactions = Selection.attempts b index interactions := by
    intro interactions hall
    induction interactions with
    | nil => exact fun _ => rfl
    | cons i interactions ih =>
      obtain ⟨hfirst, hrest⟩ := List.forall_mem_cons.1 hall
      intro index
      rw [Selection.attempts, Selection.attempts, hfirst.facets_eq, ih hrest]
  rw [Contract.select, Contract.select, hattempts _ h]

end MockProvider
