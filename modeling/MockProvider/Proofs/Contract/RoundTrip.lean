import MockProvider.Contract.Basic
import MockProvider.Proofs.Message.RoundTrip

/-!
# Reading back contracts

A contract that was read from a text is read back from its pact document: `Contract.ofJson_toJson_agrees`.
What comes back is `Contract.reread`: the rules of each message stand in the order of their keys and
the version of the specification is always there. Three things cannot be written: apostrophes in
the paths of rules for bodies, texts of a JSON type that are JSON themselves, and some numbers with
a point; contracts without them are `Contract.Restorable`.
-/

namespace MockProvider

deriving instance DecidableEq for Metadata, Contract

/-! ## Interactions -/

namespace Interaction

/-- The interaction with the rules of its messages in the order of their keys. -/
def sorted (i : Interaction) : Interaction :=
  { i with request := i.request.sorted, response := i.response.sorted }

/-- The interaction as it comes back from its document. -/
def decoded (i : Interaction) : Interaction :=
  { i with request := i.request.decoded, response := i.response.decoded }

/-- An interaction whose document can be read. -/
structure Readable (i : Interaction) : Prop where
  request : i.request.Readable
  response : i.response.Readable

/-- An interaction that is read back. -/
structure Restorable (i : Interaction) : Prop where
  request : i.request.Restorable
  response : i.response.Restorable

theorem Restorable.readable {i : Interaction} (h : i.Restorable) : i.Readable :=
  ⟨h.request.readable, h.response.readable⟩

theorem Restorable.decoded_eq {i : Interaction} (h : i.Restorable) : i.decoded = i.sorted := by
  rw [decoded, h.request.decoded_eq, h.response.decoded_eq, sorted]

/-- No rule for a body has a path with an apostrophe in a name. -/
def Unquoted (i : Interaction) : Prop :=
  i.request.rules.Unquoted ∧ i.response.rules.Unquoted

/-- The bodies that the document of an interaction declares come back when they are written. -/
def Portable (document : Json) (i : Interaction) : Prop :=
  i.request.body.Portable ((document.get? "request").bind fun part => part.get? "body") ∧
    i.response.body.Portable ((document.get? "response").bind fun part => part.get? "body")

/-- Two interactions are the same, with the same lists of rules at the same paths. -/
structure Agrees (a b : Interaction) : Prop where
  description : a.description = b.description
  providerState : a.providerState = b.providerState
  method : a.request.method = b.request.method
  path : a.request.path = b.request.path
  query : a.request.query = b.request.query
  requestHeaders : a.request.headers = b.request.headers
  requestBody : a.request.body = b.request.body
  requestRules : a.request.rules.SameLists b.request.rules
  status : a.response.status = b.response.status
  responseHeaders : a.response.headers = b.response.headers
  responseBody : a.response.body = b.response.body
  responseRules : a.response.rules.SameLists b.response.rules

theorem Restorable.agrees_sorted {i : Interaction} (h : i.Restorable) : i.Agrees i.sorted where
  description := rfl
  providerState := rfl
  method := rfl
  path := rfl
  query := rfl
  requestHeaders := rfl
  requestBody := rfl
  requestRules := h.request.content.rules.sameLists_sorted h.request.content.unquoted
  status := rfl
  responseHeaders := rfl
  responseBody := rfl
  responseRules := h.response.content.rules.sameLists_sorted h.response.content.unquoted

theorem toJson_eq (i : Interaction) :
    i.toJson = .ofMembers
      ([("description", .string i.description), ("request", i.request.toPactJson),
          ("response", i.response.toPactJson)] ++
        Json.optional "providerState" (i.providerState.map .string)) := by
  rw [toJson]
  cases i.providerState <;> rfl

/-- The members of an interaction in a pact document. -/
theorem members_toJson (i : Interaction) :
    ∃ members, i.toJson.members? = some members ∧
      Assoc.get? members "description" = some (.string i.description) ∧
      Assoc.get? members "request" = some i.request.toPactJson ∧
      Assoc.get? members "response" = some i.response.toPactJson ∧
      Assoc.get? members "provider_state" = none ∧
      Assoc.get? members "providerState" = i.providerState.map .string ∧
      Assoc.get? members "providerStates" = none := by
  rw [toJson_eq]
  refine ⟨_, rfl, ?_⟩
  simp [Assoc.get?_ofList, Assoc.get?_append, Json.get?_reverse_optional, Assoc.get?_cons]

theorem stateOf_toJson (location : Location) {members : List (String × Json)}
    {state : Option String}
    (hsnake : Assoc.get? members "provider_state" = none)
    (hcamel : Assoc.get? members "providerState" = state.map .string)
    (hlist : Assoc.get? members "providerStates" = none) : stateOf location members = .ok state := by
  cases state with
  | none =>
    simp only [stateOf, Message.optionalString, hsnake, hcamel, hlist, bind, Except.bind,
      Option.map_none, Option.bind]
    rfl
  | some state =>
    simp only [stateOf, Message.optionalString, hsnake, hcamel, bind, Except.bind, Option.map_some]
    rfl

/-- An interaction is read from a pact document. -/
theorem Readable.ofJson_toJson {i : Interaction} (h : i.Readable) (location : Location) :
    ofJson location i.toJson = .ok i.decoded := by
  obtain ⟨members, hmembers, hdescription, hrequest, hresponse, hsnake, hcamel, hlist⟩ :=
    i.members_toJson
  have hstate := stateOf_toJson location hsnake hcamel hlist
  have hreadRequest := h.request.ofJson_toPactJson (location.field "request")
  have hreadResponse := h.response.ofJson_toPactJson (location.field "response")
  simp only [ofJson, hmembers, Message.optionalString, hdescription, hstate, hrequest, hresponse,
    hreadRequest, hreadResponse, bind, Except.bind]
  rfl

/-- What the reader of interactions reads, part by part. -/
theorem parts_of_ofJson {location : Location} {document : Json} {i : Interaction}
    (h : ofJson location document = .ok i) :
    ∃ members, document = .object members ∧
      (∃ description, Message.optionalString location members "description" = .ok description ∧
        i.description = description.getD "") ∧
      stateOf location members = .ok i.providerState ∧
      (∃ part, document.get? "request" = some part ∧
        Request.ofJson (location.field "request") part = .ok i.request) ∧
      (i.response = {} ∨ ∃ part, document.get? "response" = some part ∧
        Response.ofJson (location.field "response") part = .ok i.response) := by
  unfold ofJson at h
  split at h
  · cases h
  · next members hmembers =>
    obtain rfl := Json.eq_object_of_members? hmembers
    obtain ⟨description, hdescription, h⟩ := bind_eq_ok.1 h
    obtain ⟨state, hstate, h⟩ := bind_eq_ok.1 h
    refine ⟨members, rfl, ?_⟩
    -- a request has to be there, while a response that is missing is the default one
    cases hpart : Assoc.get? members "request" with
    | none =>
      simp only [hpart] at h
      obtain ⟨_, hmissing, _⟩ := bind_eq_ok.1 h
      cases hmissing
    | some part =>
      simp only [hpart] at h
      obtain ⟨request, hrequest, h⟩ := bind_eq_ok.1 h
      cases hanswer : Assoc.get? members "response" with
      | none =>
        simp only [hanswer] at h
        obtain ⟨response, hdefault, h⟩ := bind_eq_ok.1 h
        cases hdefault
        cases h
        exact ⟨⟨description, hdescription, rfl⟩, hstate, ⟨part, hpart, hrequest⟩, Or.inl rfl⟩
      | some answer =>
        simp only [hanswer] at h
        obtain ⟨response, hresponse, h⟩ := bind_eq_ok.1 h
        cases h
        exact ⟨⟨description, hdescription, rfl⟩, hstate, ⟨part, hpart, hrequest⟩,
          Or.inr ⟨answer, hanswer, hresponse⟩⟩

/-- An interaction that was read can be read again, when no path has an apostrophe. -/
theorem readable_of_ofJson {location : Location} {document : Json} {i : Interaction}
    (h : ofJson location document = .ok i) (hu : i.Unquoted) : i.Readable := by
  obtain ⟨members, -, -, -, ⟨part, -, hrequest⟩, hresponse⟩ := parts_of_ofJson h
  obtain ⟨_, -, hcontent, hmethod⟩ := Request.parts_of_ofJson hrequest
  refine ⟨⟨Message.readable_of_ofMembers hcontent hu.1, hmethod⟩, ?_⟩
  rcases hresponse with hdefault | ⟨answer, -, hresponse⟩
  · rw [hdefault]
    exact Response.restorable_default.readable
  · obtain ⟨_, -, hcontent, hstatus⟩ := Response.parts_of_ofJson hresponse
    exact ⟨Message.readable_of_ofMembers hcontent hu.2, hstatus⟩

theorem declared_of_ofJson {location : Location} {document : Json} {i : Interaction}
    (h : ofJson location document = .ok i) :
    i.request.toMessage.Declared ∧ i.response.toMessage.Declared := by
  obtain ⟨members, -, -, -, ⟨part, -, hrequest⟩, hresponse⟩ := parts_of_ofJson h
  obtain ⟨_, -, hcontent, -⟩ := Request.parts_of_ofJson hrequest
  refine ⟨Message.declared_of_ofMembers hcontent, ?_⟩
  rcases hresponse with hdefault | ⟨answer, -, hresponse⟩
  · rw [hdefault]
    exact ⟨none, rfl⟩
  · obtain ⟨_, -, hcontent, -⟩ := Response.parts_of_ofJson hresponse
    exact Message.declared_of_ofMembers hcontent

/-- An interaction that was read can be written and read back, when its bodies can and no path has
    an apostrophe. -/
theorem restorable_of_ofJson {location : Location} {document : Json} {i : Interaction}
    (h : ofJson location document = .ok i) (hu : i.Unquoted) (hordered : document.Ordered)
    (hdepth : document.depth ≤ Json.maxDepth) (hbodies : i.Portable document) : i.Restorable := by
  obtain ⟨members, -, -, -, ⟨part, hpart, hrequest⟩, hresponse⟩ := parts_of_ofJson h
  obtain ⟨hrequestBody, hresponseBody⟩ := hbodies
  have hinside : ∀ {key value}, document.get? key = some value → value.depth ≤ Json.maxDepth :=
    fun hget => Nat.le_trans (Nat.le_of_lt (Json.depth_lt_of_get? hget)) hdepth
  rw [hpart] at hrequestBody
  refine ⟨Request.restorable_of_ofJson hrequest hu.1 (hordered.of_get? hpart) (hinside hpart)
    hrequestBody, ?_⟩
  rcases hresponse with hdefault | ⟨answer, hanswer, hresponse⟩
  · rw [hdefault]
    exact Response.restorable_default
  · rw [hanswer] at hresponseBody
    exact Response.restorable_of_ofJson hresponse hu.2 (hordered.of_get? hanswer) (hinside hanswer)
      hresponseBody

end Interaction

/-! ## Metadata -/

namespace Metadata

/-- The keys under which a version of the specification can stand. -/
def IsVersionKey (key : String) : Prop :=
  key = "pact-specification" ∨ key = "pactSpecification" ∨ key = "pactSpecificationVersion"

/-- No version of the specification stands among the other metadata. -/
def Plain (m : Metadata) : Prop :=
  ∀ key, IsVersionKey key → m.extra.get? key = none

def versioned (m : Metadata) : Metadata :=
  { m with specVersion := some (m.specVersion.getD defaultVersion) }

theorem readMember_other {m : Metadata} {key : String} (h : ¬ IsVersionKey key) (value : Json) :
    m.readMember key value = { m with extra := m.extra.insert key value } := by
  obtain ⟨hdash, hplain, hversion⟩ : key ≠ "pact-specification" ∧ key ≠ "pactSpecification" ∧
      key ≠ "pactSpecificationVersion" := by simpa [IsVersionKey, not_or] using h
  rw [readMember, if_neg (by simp [hdash, hplain]), if_neg hversion]

theorem extra_readMember {m : Metadata} {key : String} (h : IsVersionKey key) (value : Json) :
    (m.readMember key value).extra = m.extra := by
  rw [readMember]
  split
  · rfl
  · split
    · rfl
    · next hspec hversion =>
      rcases h with h | h | h
      · exact absurd (Or.inl h) hspec
      · exact absurd (Or.inr h) hspec
      · exact absurd h hversion

theorem Plain.readMember {m : Metadata} (h : m.Plain) (key : String) (value : Json) :
    (m.readMember key value).Plain := by
  intro other hother
  by_cases hkey : IsVersionKey key
  · rw [extra_readMember hkey]
    exact h other hother
  · have hne : key ≠ other := by
      rintro rfl
      exact hkey hother
    rw [readMember_other hkey]
    simp [hne, h other hother]

theorem plain_foldl {members : List (String × Json)} :
    ∀ {m : Metadata}, m.Plain →
      (members.foldl (fun m member => m.readMember member.1 member.2) m).Plain := by
  induction members with
  | nil => exact fun h => h
  | cons member members ih => exact fun h => ih (h.readMember member.1 member.2)

/-- Metadata that were read hold no version among the rest. -/
theorem plain_ofJson (value : Option Json) : (ofJson value).Plain := by
  have hempty : ({} : Metadata).Plain := fun _ _ => rfl
  unfold ofJson
  split
  · exact hempty
  · exact plain_foldl hempty

/-- Under any other key the last member is kept. -/
theorem get?_foldl_readMember {key : String} (hkey : ¬ IsVersionKey key)
    (members : List (String × Json)) :
    ∀ m : Metadata, (members.foldl (fun m member => m.readMember member.1 member.2) m).extra.get? key =
      (Assoc.get? members.reverse key).or (m.extra.get? key) := by
  induction members with
  | nil => exact fun _ => rfl
  | cons member members ih =>
    intro m
    obtain ⟨name, value⟩ := member
    rw [List.foldl_cons, ih, List.reverse_cons, Assoc.get?_append, Assoc.get?_cons, Assoc.get?_nil]
    -- a later member with the key wins, so the first one counts only where there is none
    cases Assoc.get? members.reverse key with
    | some found => rfl
    | none =>
      by_cases hversion : IsVersionKey name
      · have hne : name ≠ key := by
          rintro rfl
          exact hkey hversion
        rw [extra_readMember hversion, if_neg hne]
        rfl
      · rw [readMember_other hversion, Dict.get?_insert]
        by_cases hname : name = key <;> simp [hname]

/-- Where only one member can give the version, this is the version. -/
theorem specVersion_foldl_readMember {version : Json} {members : List (String × Json)}
    (h : ∀ member ∈ members, IsVersionKey member.1 → member = ("pactSpecification", version)) :
    ∀ m : Metadata, (members.foldl (fun m member => m.readMember member.1 member.2) m).specVersion =
      if "pactSpecification" ∈ members.map Prod.fst then (version.get? "version").bind Json.string?
      else m.specVersion := by
  induction members with
  | nil => exact fun _ => rfl
  | cons member members ih =>
    intro m
    obtain ⟨hfirst, hrest⟩ := List.forall_mem_cons.1 h
    rw [List.foldl_cons, ih hrest]
    by_cases hkey : IsVersionKey member.1
    · obtain rfl := hfirst hkey
      have hread : (m.readMember "pactSpecification" version).specVersion =
          (version.get? "version").bind Json.string? := rfl
      simp [hread]
    · have hne : "pactSpecification" ≠ member.1 := fun he => hkey (Or.inr (Or.inl he.symm))
      rw [readMember_other hkey]
      simp only [List.map_cons, List.mem_cons, hne, false_or]

/-- Metadata are read back, with a version in any case. -/
theorem Plain.ofJson_toJson {m : Metadata} (h : m.Plain) :
    ofJson (some m.toJson) = m.versioned := by
  obtain ⟨written, hwritten⟩ : ∃ written, written = m.extra.insert "pactSpecification" m.versionJson :=
    ⟨_, rfl⟩
  have hget : ∀ key, Assoc.get? written.toList.reverse key =
      if "pactSpecification" = key then some m.versionJson else m.extra.get? key := fun key => by
    rw [Assoc.get?_reverse written.ascending.nodup_keys, ← Dict.get?, hwritten, Dict.get?_insert]
  -- the rest has no key that gives a version, so the member that was inserted is the only one
  have hmembers : ∀ member ∈ written.toList, IsVersionKey member.1 →
      member = ("pactSpecification", m.versionJson) := by
    intro member hmember hkey
    have hfound := Dict.get?_of_mem hmember
    rw [hwritten, Dict.get?_insert, h _ hkey] at hfound
    split at hfound
    · next hname => exact Prod.ext hname.symm (Option.some.inj hfound).symm
    · cases hfound
  have hversion : "pactSpecification" ∈ written.toList.map Prod.fst := by
    have hfound := hget "pactSpecification"
    rw [if_pos rfl] at hfound
    exact List.mem_map.2 ⟨_, List.mem_reverse.1 (Assoc.mem_of_get? hfound), rfl⟩
  have hread : ofJson (some m.toJson) =
      written.toList.foldl (fun m member => m.readMember member.1 member.2) {} := by
    rw [toJson, ← hwritten]
    rfl
  have hspec := specVersion_foldl_readMember hmembers {}
  have hextra : (ofJson (some m.toJson)).extra = m.extra := by
    refine Dict.ext_get? fun key => ?_
    by_cases hkey : IsVersionKey key
    · rw [plain_ofJson _ key hkey, h key hkey]
    · have hne : "pactSpecification" ≠ key := fun he => hkey (Or.inr (Or.inl he.symm))
      rw [hread, get?_foldl_readMember hkey, hget, if_neg hne]
      cases m.extra.get? key <;> rfl
  rw [if_pos hversion, ← hread] at hspec
  have hwas : (m.versionJson.get? "version").bind Json.string? =
      some (m.specVersion.getD defaultVersion) := by
    rw [versionJson, Json.get?_ofMembers]
    rfl
  rw [hwas] at hspec
  -- both fields of what was read are known now
  generalize ofJson (some m.toJson) = read at hspec hextra
  obtain ⟨version, extra⟩ := read
  cases hspec
  cases hextra
  rfl

end Metadata

/-! ## Contracts -/

namespace Contract

/-- The contract as it comes back from its pact document. -/
def reread (c : Contract) : Contract :=
  { c with
    interactions := c.interactions.map Interaction.sorted
    metadata := c.metadata.versioned }

/-- The contract that its pact document is read as. -/
def decoded (c : Contract) : Contract :=
  { c with
    interactions := c.interactions.map Interaction.decoded
    metadata := c.metadata.versioned }

/-- A contract whose pact document can be read. -/
structure Readable (c : Contract) : Prop where
  interactions : ∀ i ∈ c.interactions, i.Readable
  metadata : c.metadata.Plain

/-- A contract that is read back. -/
structure Restorable (c : Contract) : Prop where
  interactions : ∀ i ∈ c.interactions, i.Restorable
  metadata : c.metadata.Plain

theorem Restorable.readable {c : Contract} (h : c.Restorable) : c.Readable :=
  ⟨fun i hi => (h.interactions i hi).readable, h.metadata⟩

theorem Restorable.decoded_eq {c : Contract} (h : c.Restorable) : c.decoded = c.reread := by
  rw [decoded, reread, List.map_congr_left fun i hi => (h.interactions i hi).decoded_eq]

def interactionItems (document : Json) : List Json :=
  ((document.get? "interactions").bind Json.items?).getD []

/-- The members of a pact document. -/
theorem members_toJson (c : Contract) :
    ∃ members, c.toJson.members? = some members ∧
      Assoc.get? members "consumer" = some (.ofMembers [("name", .string c.consumer)]) ∧
      Assoc.get? members "provider" = some (.ofMembers [("name", .string c.provider)]) ∧
      Assoc.get? members "interactions" = some (.array (c.interactions.map Interaction.toJson)) ∧
      Assoc.get? members "metadata" = some c.metadata.toJson := by
  refine ⟨_, rfl, ?_⟩
  simp [Assoc.get?_ofList, Assoc.get?_cons]

theorem partyOf_ofMembers {members : List (String × Json)} {key name : String}
    (h : Assoc.get? members key = some (.ofMembers [("name", .string name)])) :
    partyOf members key = .ok name := by
  have hname : Assoc.get? (Assoc.ofList [("name", Json.string name)]) "name" =
      some (.string name) := rfl
  rw [partyOf, h]
  simp only [Json.ofMembers, Message.optionalString, hname]
  rfl

theorem interactionsFrom_toJson {is : List Interaction} (h : ∀ i ∈ is, i.Readable)
    (position : Nat) :
    interactionsFrom position (is.map Interaction.toJson) = .ok (is.map Interaction.decoded) := by
  induction is generalizing position with
  | nil => rfl
  | cons i is ih =>
    obtain ⟨hfirst, hrest⟩ := List.forall_mem_cons.1 h
    simp only [List.map_cons, interactionsFrom, hfirst.ofJson_toJson, ih hrest, bind, Except.bind]
    rfl

/-- Where the parties can be read and interactions are listed, the rest is a matter of these. -/
theorem ofJson_object_eq {members : List (String × Json)} {consumer provider : String}
    {items : List Json} (hconsumer : partyOf members "consumer" = .ok consumer)
    (hprovider : partyOf members "provider" = .ok provider)
    (hitems : Assoc.get? members "interactions" = some (.array items)) :
    ofJson (.object members) = (interactionsFrom 0 items).map fun interactions =>
      { consumer, provider, interactions,
        metadata := Metadata.ofJson (Assoc.get? members "metadata") } := by
  simp only [ofJson, Json.members?, hconsumer, hprovider, hitems, interactionsOf, bind, Except.bind]
  cases interactionsFrom 0 items <;> rfl

/-- Whether a contract is read from its pact document is a matter of its interactions. -/
theorem ofJson_toJson_eq (c : Contract) :
    ofJson c.toJson = (interactionsFrom 0 (c.interactions.map Interaction.toJson)).map
      fun interactions =>
        { c with interactions, metadata := Metadata.ofJson (some c.metadata.toJson) } := by
  obtain ⟨members, hmembers, hconsumer, hprovider, hinteractions, hmetadata⟩ := c.members_toJson
  rw [Json.eq_object_of_members? hmembers, ofJson_object_eq (partyOf_ofMembers hconsumer)
    (partyOf_ofMembers hprovider) hinteractions, hmetadata]

/-- A contract is read from its pact document. -/
theorem Readable.ofJson_toJson {c : Contract} (h : c.Readable) : ofJson c.toJson = .ok c.decoded := by
  rw [ofJson_toJson_eq, interactionsFrom_toJson h.interactions, h.metadata.ofJson_toJson]
  rfl

/-- A contract is read back from its pact document. -/
theorem Restorable.ofJson_reread {c : Contract} (h : c.Restorable) :
    ofJson c.toJson = .ok c.reread := by
  rw [h.readable.ofJson_toJson, h.decoded_eq]

/-! ## Contracts that were read -/

theorem forall₂_of_interactionsFrom {position : Nat} {items : List Json} {is : List Interaction}
    (h : interactionsFrom position items = .ok is) :
    List.Forall₂ (fun item i => ∃ location, Interaction.ofJson location item = .ok i) items is := by
  induction items generalizing position is with
  | nil =>
    cases h
    exact List.Forall₂.nil
  | cons item items ih =>
    obtain ⟨i, hi, h⟩ := bind_eq_ok.1 h
    obtain ⟨is, his, h⟩ := bind_eq_ok.1 h
    cases h
    exact List.Forall₂.cons ⟨_, hi⟩ (ih his)

/-- What the reader of contracts reads, part by part. -/
theorem parts_of_ofJson {document : Json} {c : Contract} (h : ofJson document = .ok c) :
    (∃ items, document.get? "interactions" = some (.array items) ∧
      List.Forall₂ (fun item i => ∃ location, Interaction.ofJson location item = .ok i) items
        c.interactions) ∧
      c.metadata = Metadata.ofJson (document.get? "metadata") := by
  unfold ofJson at h
  split at h
  · cases h
  · next members hmembers =>
    obtain rfl := Json.eq_object_of_members? hmembers
    obtain ⟨consumer, _, h⟩ := bind_eq_ok.1 h
    obtain ⟨provider, _, h⟩ := bind_eq_ok.1 h
    obtain ⟨is, his, h⟩ := bind_eq_ok.1 h
    cases h
    refine ⟨?_, rfl⟩
    unfold interactionsOf at his
    split at his
    · cases his
    · cases his
    · next items hitems => exact ⟨items, hitems, forall₂_of_interactionsFrom his⟩
    · cases his

/-- No rule for a body has a path with an apostrophe in a name. -/
def Unquoted (c : Contract) : Prop :=
  ∀ i ∈ c.interactions, i.Unquoted

/-- The bodies that a document declares come back when its contract is written. -/
def Portable (document : Json) (c : Contract) : Prop :=
  ∀ pair ∈ (interactionItems document).zip c.interactions, pair.2.Portable pair.1

theorem exists_item {P : Json → Interaction → Prop} {R : Json → Interaction → Prop}
    {items : List Json} {is : List Interaction} (hread : List.Forall₂ R items is)
    (hpairs : ∀ pair ∈ items.zip is, P pair.1 pair.2) :
    ∀ i ∈ is, ∃ item ∈ items, R item i ∧ P item i := by
  induction hread with
  | nil => exact fun _ h => nomatch h
  | cons hfirst _ ih =>
    rw [List.zip_cons_cons] at hpairs
    obtain ⟨hpair, hpairs⟩ := List.forall_mem_cons.1 hpairs
    refine List.forall_mem_cons.2 ⟨⟨_, List.mem_cons_self, hfirst, hpair⟩, fun i hi => ?_⟩
    obtain ⟨item, hitem, h⟩ := ih hpairs i hi
    exact ⟨item, List.mem_cons_of_mem _ hitem, h⟩

/-- A contract that was read can be written and read back. -/
theorem restorable_of_ofJson {document : Json} {c : Contract} (h : ofJson document = .ok c)
    (hordered : document.Ordered) (hdepth : document.depth ≤ Json.maxDepth) (hu : c.Unquoted)
    (hbodies : c.Portable document) : c.Restorable := by
  obtain ⟨⟨items, hitems, hread⟩, hmetadata⟩ := parts_of_ofJson h
  have hpairs : ∀ pair ∈ items.zip c.interactions, pair.2.Portable pair.1 := by
    have hall : interactionItems document = items := by
      rw [interactionItems, hitems]
      rfl
    exact hall ▸ hbodies
  refine ⟨fun i hi => ?_, hmetadata ▸ Metadata.plain_ofJson _⟩
  obtain ⟨item, hitem, ⟨location, hi'⟩, hportable⟩ := exists_item hread hpairs i hi
  -- an interaction stands inside the document, so it nests no deeper
  have hinside := Nat.le_of_lt (Json.depth_lt_of_item hitem)
  have hdepthItems := Nat.le_of_lt (Json.depth_lt_of_get? hitems)
  exact Interaction.restorable_of_ofJson hi' (hu i hi) ((hordered.of_get? hitems).of_item hitem)
    (Nat.le_trans hinside (Nat.le_trans hdepthItems hdepth)) hportable

theorem ofText_eq_ofJson {text : String} {document : Json}
    (h : Json.parseText text = .ok document) : ofText text = ofJson document := by
  rw [Json.parseText] at h
  rw [ofText, ofBytes, h]

theorem document_of_ofText {text : String} {c : Contract} (h : ofText text = .ok c) :
    ∃ document, Json.parseText text = .ok document ∧ ofJson document = .ok c := by
  cases hdocument : Json.parseText text with
  | error error =>
    unfold Json.parseText at hdocument
    simp only [ofText, ofBytes, hdocument] at h
    cases h
  | ok document =>
    rw [ofText_eq_ofJson hdocument] at h
    exact ⟨document, rfl, h⟩

/-- The pact document of a contract that was read gives the contract back: the same parties, the
    same metadata with a version in any case, and the same interactions in their order. -/
theorem ofJson_toJson_agrees {text : String} {document : Json} {c : Contract}
    (hdocument : Json.parseText text = .ok document) (h : ofText text = .ok c) (hu : c.Unquoted)
    (hbodies : c.Portable document) :
    ∃ c', ofJson c.toJson = .ok c' ∧ c'.consumer = c.consumer ∧ c'.provider = c.provider ∧
      c'.metadata.extra = c.metadata.extra ∧
      c'.metadata.specVersion = some (c.metadata.specVersion.getD "3.0.0") ∧
      List.Forall₂ Interaction.Agrees c.interactions c'.interactions := by
  obtain ⟨hordered, hdepth⟩ := Json.parse_shape hdocument
  rw [ofText_eq_ofJson hdocument] at h
  have hrestorable := restorable_of_ofJson h hordered hdepth hu hbodies
  refine ⟨c.reread, hrestorable.ofJson_reread, rfl, rfl, rfl, rfl, ?_⟩
  refine List.forall₂_map_right_iff.2 (List.forall₂_same.2 fun i hi => ?_)
  exact (hrestorable.interactions i hi).agrees_sorted

/-- A text with a raw query, a rule in the flat form, no parties and no response. -/
def flatText : String :=
  "\x7b\"interactions\":[\x7b\"request\":\x7b\"query\":\"a=1\",\"body\":[1],\"matchingRules\":" ++
    "\x7b\"$.body[0]\":\x7b\"match\":\"type\"\x7d\x7d\x7d\x7d]\x7d"

def flatDocument : Json :=
  .object [("interactions", .array [.object [("request", .object
    [("body", .array [.ofNat 1]), ("matchingRules", .object
      [("$.body[0]", .object [("match", .string "type")])]), ("query", .string "a=1")])]])]

def flatContract : Contract where
  interactions :=
    [{ request :=
        { query := some (.ofList [("a", ["1"])])
          body := .present (Bytes.ofString "[1]") .json
          rules := RuleTable.empty.add .body (DocPath.root.index 0) .type } }]

theorem parseText_flatText : Json.parseText flatText = .ok flatDocument := by
  decide +kernel

theorem ofText_flatText : ofText flatText = .ok flatContract := by
  rw [ofText_eq_ofJson parseText_flatText]
  decide +kernel

theorem ofJson_toJson_flatContract :
    ∃ c', ofJson flatContract.toJson = .ok c' ∧ c'.consumer = "" ∧ c'.provider = "" ∧
      c'.metadata.extra = .empty ∧ c'.metadata.specVersion = some "3.0.0" ∧
      List.Forall₂ Interaction.Agrees flatContract.interactions c'.interactions := by
  refine ofJson_toJson_agrees parseText_flatText ofText_flatText ?_ ?_
  · intro i hi
    rw [List.mem_singleton.1 hi]
    refine ⟨fun e he => ?_, fun _ he => nomatch he⟩
    rw [List.mem_singleton.1 he]
    intro name hname
    cases List.mem_singleton.1 hname
  · intro pair hpair
    rw [List.mem_singleton.1 hpair]
    exact ⟨⟨trivial, trivial⟩, trivial⟩

end Contract

end MockProvider
