import MockProvider.Proofs.Contract.Merging

/-!
# Contracts that are written again as they were

The text of a pact document is read with other numbers than were written, where the reader does not
give a number back. It is the document of the reprinted contract (`Contract.toJson_reprinted`), so
what comes back from it is known as well: `Contract.returned`. The interactions of a steady contract
come back with the documents that they had, and a merge puts the metadata of the contract in the
place of those that came back: `Contract.merge_returned`.
-/

namespace MockProvider

/-! ## Documents with other numbers -/

namespace Json

open Number (reread)

/-- Where all numbers are integers, they are reread as themselves. -/
theorem Fits.mapNumbers_reread {room : Nat} {v : Json} (h : v.Fits Number.IsInteger room) :
    v.mapNumbers reread = v :=
  mapNumbers_eq_self (h.numbers.imp fun _ hn => hn.reread_eq)

theorem mapValues_optional (f : Json → Json) (key : String) (value : Option Json) :
    Assoc.mapValues f (optional key value) = optional key (value.map f) := by
  cases value <;> rfl

theorem mapValues_append (f : Json → Json) (front back : List (String × Json)) :
    Assoc.mapValues f (front ++ back) = Assoc.mapValues f front ++ Assoc.mapValues f back :=
  List.map_append

end Json

open Json (mapValues_optional mapValues_append)
open Number (reread)

namespace Message

theorem map_valuesJson_reread (values : Option (Dict (List String))) :
    (values.map valuesJson).map (Json.mapNumbers reread) = values.map valuesJson := by
  cases values with
  | none => rfl
  | some values =>
    have hfits := fits_valuesJson (P := Number.IsInteger) (Nat.le_refl 2) (some values) _ rfl
    exact congrArg some hfits.mapNumbers_reread

theorem contentMembers_reprinted (m : Message) :
    m.reprinted.contentMembers = Assoc.mapValues (Json.mapNumbers reread) m.contentMembers := by
  rw [contentMembers_eq, contentMembers_eq, mapValues_append, mapValues_optional,
    mapValues_optional, map_valuesJson_reread, ← Body.member?_reprinted]
  rfl

theorem rulesMembers_reprinted (m : Message) :
    m.reprinted.rulesMembers = Assoc.mapValues (Json.mapNumbers reread) m.rulesMembers := by
  have hrules : (if m.rules.isEmpty then none else some m.rules.toJson).map
      (Json.mapNumbers reread) = if m.rules.isEmpty then none else some m.rules.toJson := by
    split
    · rfl
    · exact congrArg some m.rules.fits_toJson.mapNumbers_reread
  rw [rulesMembers_eq, rulesMembers_eq, mapValues_optional, hrules]
  rfl

end Message

theorem Request.toPactJson_reprinted (r : Request) :
    r.reprinted.toPactJson = r.toPactJson.mapNumbers reread := by
  rw [toPactJson, toPactJson, Json.mapNumbers_ofMembers, summaryMembers_eq, summaryMembers_eq,
    mapValues_append, mapValues_append, mapValues_append, mapValues_optional,
    Message.map_valuesJson_reread, ← Message.contentMembers_reprinted,
    ← Message.rulesMembers_reprinted]
  rfl

theorem Response.toPactJson_reprinted (r : Response) :
    r.reprinted.toPactJson = r.toPactJson.mapNumbers reread := by
  have hstatus := (Json.Fits.ofNat 0 r.status.toNat).mapNumbers_reread
  have hmembers : r.toMessage.reprinted.contentMembers ++ r.toMessage.reprinted.rulesMembers =
      Assoc.mapValues (Json.mapNumbers reread) (r.contentMembers ++ r.rulesMembers) := by
    rw [mapValues_append, Message.contentMembers_reprinted, Message.rulesMembers_reprinted]
  rw [toPactJson, toPactJson, Json.mapNumbers_ofMembers, reprinted, hmembers]
  simp only [Assoc.mapValues, List.map_cons, hstatus]

namespace Interaction

/-- The interaction with the bodies of its messages reprinted. -/
def reprinted (i : Interaction) : Interaction :=
  { i with request := i.request.reprinted, response := i.response.reprinted }

theorem toJson_reprinted (i : Interaction) : i.reprinted.toJson = i.toJson.mapNumbers reread := by
  have hstate : (i.providerState.map Json.string).map (Json.mapNumbers reread) =
      i.providerState.map .string := by
    cases i.providerState <;> rfl
  rw [toJson_eq, toJson_eq, Json.mapNumbers_ofMembers, mapValues_append, mapValues_optional, hstate]
  simp only [reprinted, Assoc.mapValues, List.map_cons, List.map_nil, Json.mapNumbers,
    Request.toPactJson_reprinted, Response.toPactJson_reprinted]

/-- The interaction as it comes back from the text of its document. -/
def returned (i : Interaction) : Interaction :=
  i.reprinted.decoded

theorem key_returned (i : Interaction) : i.returned.key = i.key := rfl

theorem toJson_congr {i j : Interaction} (hkey : i.key = j.key)
    (hrequest : i.request.toPactJson = j.request.toPactJson)
    (hresponse : i.response.toPactJson = j.response.toPactJson) : i.toJson = j.toJson := by
  have hdescription : i.description = j.description := congrArg Prod.fst hkey
  have hstate : i.providerState = j.providerState := congrArg Prod.snd hkey
  rw [toJson_eq, toJson_eq, hdescription, hstate, hrequest, hresponse]

theorem Readable.reprinted {i : Interaction} (h : i.Readable) : i.reprinted.Readable :=
  ⟨⟨⟨h.request.content.rules, h.request.content.unquoted⟩, h.request.method⟩,
    ⟨⟨h.response.content.rules, h.response.content.unquoted⟩, h.response.status⟩⟩

end Interaction

namespace Metadata

/-- The metadata with the numbers that are read for their own. -/
def reread (m : Metadata) : Metadata :=
  { m with extra := m.extra.map (Json.mapNumbers Number.reread) }

theorem toJson_reread (m : Metadata) : m.reread.toJson = m.toJson.mapNumbers Number.reread := by
  have hversion : m.versionJson.mapNumbers Number.reread = m.versionJson := by
    have hfits : m.versionJson.Fits Number.IsInteger 1 :=
      Json.Fits.ofMembers (List.forall_mem_singleton.2 (Json.Fits.string 0 _))
    exact hfits.mapNumbers_reread
  rw [toJson, toJson, Json.mapNumbers_ofDict, Dict.map_insert, hversion]
  rfl

theorem Plain.reread {m : Metadata} (h : m.Plain) : m.reread.Plain := by
  intro key hkey
  rw [Metadata.reread, Dict.get?_map, h key hkey]
  rfl

end Metadata

namespace Contract

/-- The contract with its bodies reprinted, and with the numbers in its metadata reread. -/
def reprinted (c : Contract) : Contract :=
  { c with
    interactions := c.interactions.map Interaction.reprinted
    metadata := c.metadata.reread }

/-- The document of the reprinted contract is what is read from the text of its own document. -/
theorem toJson_reprinted (c : Contract) :
    c.reprinted.toJson = c.toJson.mapNumbers Number.reread := by
  have hparty : ∀ name, (Json.ofMembers [("name", .string name)]).mapNumbers Number.reread =
      .ofMembers [("name", .string name)] := fun name => by
    rw [Json.mapNumbers_ofMembers]
    rfl
  have hinteractions : (c.interactions.map Interaction.reprinted).map Interaction.toJson =
      (c.interactions.map Interaction.toJson).map (Json.mapNumbers Number.reread) := by
    rw [List.map_map, List.map_map]
    exact List.map_congr_left fun i _ => i.toJson_reprinted
  rw [toJson, toJson, Json.mapNumbers_ofMembers]
  simp only [reprinted, Assoc.mapValues, List.map_cons, List.map_nil, hparty, hinteractions,
    Json.mapNumbers_array, Metadata.toJson_reread]

/-- The contract as it comes back from the text of its pact document. -/
def returned (c : Contract) : Contract :=
  c.reprinted.decoded

theorem interactions_returned (c : Contract) :
    c.returned.interactions = c.interactions.map Interaction.returned :=
  List.map_map

theorem Readable.ofJson_reprinted {c : Contract} (h : c.Readable) :
    ofJson c.reprinted.toJson = .ok c.returned := by
  -- rules, methods and statuses decide what can be read, and reprinting leaves them alone
  have hreadable : c.reprinted.Readable := by
    refine ⟨fun i hi => ?_, h.metadata.reread⟩
    obtain ⟨j, hj, rfl⟩ := List.mem_map.1 hi
    exact (h.interactions j hj).reprinted
  exact hreadable.ofJson_toJson

/-! ## Merging what came back -/

theorem find?_returned (is : List Interaction) (key : String × Option String) :
    (is.map Interaction.returned).find? (fun j => j.key == key) =
      (is.find? fun j => j.key == key).map Interaction.returned := by
  rw [List.find?_map]
  rfl

/-- The contract that came back with the metadata that were written. -/
def restored (c : Contract) : Contract :=
  { c.returned with metadata := c.metadata.versioned }

/-- A merge puts all metadata of the contract in the place of those that came back. -/
theorem extra_returned (c : Contract) :
    c.metadata.extra.toList.foldl (fun extra entry => extra.insert entry.1 entry.2)
      c.returned.metadata.extra = c.metadata.extra := by
  refine Dict.ext_get? fun key => ?_
  have hback : c.returned.metadata.extra.get? key =
      (c.metadata.extra.get? key).map (Json.mapNumbers Number.reread) :=
    Dict.get?_map _ _ _
  -- what came back has the same keys, so nothing of it is left under any other one
  rw [get?_overridden, hback]
  cases c.metadata.extra.get? key <;> rfl

/-- A contract is folded into what it comes back as without change but for the metadata, if
    interactions with one key have one document; or else two of them conflict. -/
theorem merge_returned {c : Contract}
    (hjson : ∀ i ∈ c.interactions, i.returned.toJson = i.toJson) :
    (c.Consistent ∧ c.returned.merge c = (c.restored, none)) ∨
      ¬ c.Consistent ∧ ∃ description,
        c.returned.merge c = (c.returned, some (.interaction description)) := by
  -- the parties agree and the metadata are replaced, so only the interactions matter
  have hparties : ¬ (c.returned.consumer ≠ c.consumer ∨ c.returned.provider ≠ c.provider) := by
    rintro (h | h) <;> exact h rfl
  have hkeys : ∀ i ∈ c.interactions, i.key ∈ c.returned.interactions.map Interaction.key := by
    intro i hi
    rw [interactions_returned]
    exact List.mem_map.2 ⟨i.returned, List.mem_map_of_mem hi, i.key_returned⟩
  -- what stands first under a key is what came back of what stood first there
  have hfirst : ∀ {i e : Interaction},
      c.returned.interactions.find? (fun j => j.key == i.key) = some e →
        ∃ e', c.interactions.find? (fun j => j.key == i.key) = some e' ∧
          e.toJson = e'.toJson := by
    intro i e he
    rw [interactions_returned, find?_returned] at he
    obtain ⟨e', he', rfl⟩ := Option.map_eq_some_iff.1 he
    exact ⟨e', he', hjson e' (List.mem_of_find?_eq_some he')⟩
  rcases mergeInteractions_present hkeys with ⟨hmerge, hall⟩ | ⟨i, hi, e, he, hdiffers, hmerge⟩
  · refine Or.inl ⟨consistent_iff_first.2 fun i hi e he => ?_, ?_⟩
    · obtain ⟨found, hfound, hsame⟩ := hall i hi
      obtain ⟨e', he', hjson'⟩ := hfirst hfound
      rw [he] at he'
      cases he'
      rwa [← hjson']
    · rw [merge, if_neg hparties, hmerge]
      simp only [extra_returned]
      rfl
  · refine Or.inr ⟨fun hconsistent => ?_, i.description, ?_⟩
    · obtain ⟨e', he', hjson'⟩ := hfirst he
      have hsame := consistent_iff_first.1 hconsistent i hi e' he'
      rw [hjson', hsame] at hdiffers
      cases hdiffers
    · rw [merge, if_neg hparties, hmerge]

/-! ## Steady contracts -/

/-- A contract whose interactions come back from the text of its pact document as they were written.
    It has no apostrophe in the paths of rules for bodies, and its bodies can be stored. -/
structure Steady (c : Contract) : Prop where
  unquoted : c.Unquoted
  bodies : ∀ i ∈ c.interactions, i.request.body.Storable ∧ i.response.body.Storable

/-- What the reader of contracts leaves in the interactions and the metadata. -/
theorem interactions_of_ofText {text : String} {c : Contract} (h : ofText text = .ok c) :
    (∀ i ∈ c.interactions, ∃ location item, Interaction.ofJson location item = .ok i) ∧
      ∃ value, c.metadata = Metadata.ofJson value ∧
        (∀ v ∈ value, v.Ordered) ∧ ∀ v ∈ value, v.depth ≤ Body.maxDepth + 3 := by
  obtain ⟨document, hdocument, hread⟩ := document_of_ofText h
  obtain ⟨hordered, hdepth⟩ := Json.parse_shape hdocument
  obtain ⟨⟨items, -, hitems⟩, hmetadata⟩ := parts_of_ofJson hread
  refine ⟨fun i hi => ?_, _, hmetadata, fun v hv => hordered.of_get? hv, fun v hv => ?_⟩
  · obtain ⟨item, -, ⟨location, hitem⟩, -⟩ :=
      exists_item (P := fun _ _ => True) hitems (fun _ _ => trivial) i hi
    exact ⟨location, item, hitem⟩
  · have hinside := Json.depth_lt_of_get? hv
    exact Nat.le_of_lt_succ (Nat.lt_of_lt_of_le hinside hdepth)

namespace Steady

variable {text : String} {c : Contract}

theorem readable (h : c.Steady) (hread : ofText text = .ok c) : c.Readable := by
  obtain ⟨hinteractions, value, hmetadata, -⟩ := interactions_of_ofText hread
  refine ⟨fun i hi => ?_, hmetadata ▸ Metadata.plain_ofJson value⟩
  obtain ⟨location, item, hitem⟩ := hinteractions i hi
  exact Interaction.readable_of_ofJson hitem (h.unquoted i hi)

/-- The interactions of the contract that comes back have the same documents. -/
theorem toJson_returned (h : c.Steady) (hread : ofText text = .ok c) {i : Interaction}
    (hi : i ∈ c.interactions) : i.returned.toJson = i.toJson := by
  obtain ⟨location, item, hitem⟩ := (interactions_of_ofText hread).1 i hi
  obtain ⟨hrequest, hresponse⟩ := Interaction.declared_of_ofJson hitem
  obtain ⟨hrequestBody, hresponseBody⟩ := h.bodies i hi
  have hreadable := Interaction.readable_of_ofJson hitem (h.unquoted i hi)
  -- the rules came back sorted and the bodies with other octets, and neither shows in a document
  have hsameRequest :=
    hreadable.request.toPactJson_again (hrequest.member?_again hrequestBody)
  have hsameResponse :=
    hreadable.response.toPactJson_again (hresponse.member?_again hresponseBody)
  exact Interaction.toJson_congr i.key_returned hsameRequest hsameResponse

/-- So once its metadata are put back, the contract that comes back has the same document. -/
theorem toJson_restored (h : c.Steady) (hread : ofText text = .ok c) :
    c.restored.toJson = c.toJson := by
  have hinteractions : c.returned.interactions.map Interaction.toJson =
      c.interactions.map Interaction.toJson := by
    rw [interactions_returned, List.map_map]
    exact List.map_congr_left fun i hi => h.toJson_returned hread hi
  have hmetadata : c.metadata.versioned.toJson = c.metadata.toJson := rfl
  rw [toJson, toJson, restored, hinteractions, hmetadata]
  rfl

/-- The pact document nests no deeper than the reader allows. -/
theorem fits_toJson (h : c.Steady) (hread : ofText text = .ok c) :
    c.toJson.Fits (fun _ => True) Json.maxDepth := by
  obtain ⟨hinteractions, value, hmetadata, hordered, hdepth⟩ := interactions_of_ofText hread
  refine Contract.fits_toJson (fun _ _ => trivial) (fun i hi => ?_) ?_
  · obtain ⟨location, item, hitem⟩ := hinteractions i hi
    obtain ⟨hrequest, hresponse⟩ := Interaction.declared_of_ofJson hitem
    exact ⟨hrequest.bodyFits (h.bodies i hi).1, hresponse.bodyFits (h.bodies i hi).2⟩
  -- metadata stand directly in the document, so nothing is asked of their depth
  · rw [hmetadata]
    exact Metadata.fits_ofJson hordered hdepth fun entry _ =>
      Json.numbers_of_forall (fun _ => trivial) entry.2

/-- The text of the pact document is read. -/
theorem ofText_toPrettyText (h : c.Steady) (hread : ofText text = .ok c) :
    ofText c.toJson.toPrettyText = .ok c.returned := by
  have hfits := h.fits_toJson hread
  -- what is read is the document with its numbers reread, so that of the reprinted contract
  rw [ofText_eq_ofJson (Json.parseText_toPrettyText hfits.ordered hfits.depth),
    ← toJson_reprinted]
  exact (h.readable hread).ofJson_reprinted

end Steady

end Contract

end MockProvider
