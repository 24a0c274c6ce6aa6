import MockProvider.Proofs.Contract.Storing

/-!
# Keys of interactions and merging

The keys of the interactions of a contract can be told from its document, whether it was read from
the document or is written as it. A merge that comes to its end keeps the interactions that were
there in front and has the key of every interaction that was folded in.
-/

namespace MockProvider

/-! ## Keys in documents -/

namespace Interaction

/-- The text of a member, when it is one. -/
def textIn (item : Json) (key : String) : Option String :=
  (item.get? key).bind Json.string?

/-- The key that the document of an interaction spells. -/
def keyIn (item : Json) : String × Option String :=
  ((textIn item "description").getD "",
    (textIn item "provider_state").or ((textIn item "providerState").or do
      let states ← (item.get? "providerStates").bind Json.items?
      let first ← states.head?
      textIn first "name"))

theorem textIn_of_optionalString {location : Location} {members : List (String × Json)}
    {key : String} {text : Option String}
    (h : Message.optionalString location members key = .ok text) :
    textIn (.object members) key = text := by
  have hget : (Json.object members).get? key = Assoc.get? members key := rfl
  rw [textIn, hget]
  unfold Message.optionalString at h
  split at h
  · next hnone =>
    cases h
    rw [hnone]
    rfl
  · next hnull =>
    cases h
    rw [hnull]
    rfl
  · next s hs =>
    cases h
    rw [hs]
    rfl
  · cases h

theorem state_of_stateOf {location : Location} {members : List (String × Json)}
    {state : Option String} (h : stateOf location members = .ok state) :
    (keyIn (.object members)).2 = state := by
  obtain ⟨snake, hsnake, h⟩ := bind_eq_ok.1 h
  have htextSnake := textIn_of_optionalString hsnake
  cases snake with
  | some s =>
    cases h
    rw [keyIn, htextSnake]
    rfl
  | none =>
    obtain ⟨camel, hcamel, h⟩ := bind_eq_ok.1 h
    have htextCamel := textIn_of_optionalString hcamel
    cases camel with
    | some s =>
      cases h
      rw [keyIn, htextSnake, htextCamel]
      rfl
    | none =>
      cases h
      rw [keyIn, htextSnake, htextCamel]
      rfl

/-- An interaction that was read has the key that its document spells. -/
theorem keyIn_of_ofJson {location : Location} {item : Json} {i : Interaction}
    (h : ofJson location item = .ok i) : keyIn item = i.key := by
  obtain ⟨members, rfl, ⟨description, hdescription, hi⟩, hstate, -, -⟩ := parts_of_ofJson h
  refine Prod.ext ?_ (state_of_stateOf hstate)
  rw [keyIn, textIn_of_optionalString hdescription, key, hi]

/-- The document of an interaction spells its key. -/
theorem keyIn_toJson (i : Interaction) : keyIn i.toJson = i.key := by
  obtain ⟨members, hmembers, hdescription, -, -, hsnake, hcamel, hlist⟩ := i.members_toJson
  have hget : ∀ key, i.toJson.get? key = Assoc.get? members key := fun key => by
    rw [Json.eq_object_of_members? hmembers]
    rfl
  simp only [keyIn, textIn, hget, hdescription, hsnake, hcamel, hlist, key]
  cases i.providerState <;> rfl

end Interaction

namespace Contract

/-- The keys of the interactions that a document lists, in their order. -/
def documentKeys (document : Json) : List (String × Option String) :=
  (interactionItems document).map Interaction.keyIn

theorem documentKeys_of_ofJson {document : Json} {c : Contract} (h : ofJson document = .ok c) :
    documentKeys document = c.interactions.map Interaction.key := by
  obtain ⟨⟨items, hitems, hread⟩, -⟩ := parts_of_ofJson h
  rw [documentKeys, interactionItems, hitems]
  change items.map Interaction.keyIn = _
  -- items and interactions are walked side by side
  clear hitems
  generalize c.interactions = interactions at hread ⊢
  induction hread with
  | nil => rfl
  | cons hfirst _ ih =>
    obtain ⟨location, hfirst⟩ := hfirst
    rw [List.map_cons, List.map_cons, Interaction.keyIn_of_ofJson hfirst, ih]

theorem documentKeys_toJson (c : Contract) :
    documentKeys c.toJson = c.interactions.map Interaction.key := by
  obtain ⟨members, hmembers, -, -, hinteractions, -⟩ := c.members_toJson
  have hget : c.toJson.get? "interactions" =
      some (.array (c.interactions.map Interaction.toJson)) := by
    rw [Json.eq_object_of_members? hmembers]
    exact hinteractions
  rw [documentKeys, interactionItems, hget]
  change (c.interactions.map Interaction.toJson).map Interaction.keyIn = _
  rw [List.map_map]
  exact List.map_congr_left fun i _ => i.keyIn_toJson

/-! ## Merging -/

/-- A merge that comes to its end only adds interactions, and misses no key. -/
theorem mergeInteractions_keys {incoming : List Interaction} :
    ∀ {present result : List Interaction}, mergeInteractions present incoming = (result, none) →
      present <+: result ∧
        ∀ i ∈ incoming, i.key ∈ result.map Interaction.key := by
  induction incoming with
  | nil =>
    intro present result h
    cases h
    exact ⟨List.prefix_refl present, fun _ h => nomatch h⟩
  | cons next incoming ih =>
    intro present result h
    rw [mergeInteractions] at h
    split at h
    · next existing hfound =>
      split at h
      · obtain ⟨hfront, hkeys⟩ := ih h
        -- the interaction is not added, but the one it was compared with has its key
        have hkey : existing.key = next.key := by simpa using List.find?_some hfound
        have hmem := hfront.subset (List.mem_of_find?_eq_some hfound)
        exact ⟨hfront, List.forall_mem_cons.2 ⟨List.mem_map.2 ⟨existing, hmem, hkey⟩, hkeys⟩⟩
      · cases h
    · obtain ⟨hfront, hkeys⟩ := ih h
      have hmem : next ∈ result := hfront.subset (List.mem_append_right _ List.mem_cons_self)
      exact ⟨(List.prefix_append _ _).trans hfront,
        List.forall_mem_cons.2 ⟨List.mem_map_of_mem hmem, hkeys⟩⟩

theorem merge_keys {c other merged : Contract} (h : c.merge other = (merged, none)) :
    c.interactions <+: merged.interactions ∧
      ∀ i ∈ other.interactions, i.key ∈ merged.interactions.map Interaction.key := by
  unfold merge at h
  split at h
  · cases h
  · split at h
    · cases h
    · next interactions hinteractions =>
      cases h
      exact mergeInteractions_keys hinteractions

/-! ## Merging what is there already -/

theorem exists_first {is : List Interaction} {key : String × Option String}
    (h : key ∈ is.map Interaction.key) : ∃ e, is.find? (fun i => i.key == key) = some e := by
  obtain ⟨i, hi, hkey⟩ := List.mem_map.1 h
  apply Option.isSome_iff_exists.1
  rw [List.find?_isSome]
  exact ⟨i, hi, beq_iff_eq.2 hkey⟩

/-- Where all keys are there, a merge adds nothing. It compares each interaction with the first one
    that has its key, and stops at the first that differs. -/
theorem mergeInteractions_present {present incoming : List Interaction}
    (hkeys : ∀ i ∈ incoming, i.key ∈ present.map Interaction.key) :
    (mergeInteractions present incoming = (present, none) ∧
      ∀ i ∈ incoming, ∃ e, present.find? (fun j => j.key == i.key) = some e ∧
        (e.toJson == i.toJson) = true) ∨
    ∃ i ∈ incoming, ∃ e, present.find? (fun j => j.key == i.key) = some e ∧
      (e.toJson == i.toJson) = false ∧
      mergeInteractions present incoming = (present, some (.interaction i.description)) := by
  induction incoming with
  | nil => exact Or.inl ⟨rfl, fun _ hi => nomatch hi⟩
  | cons next incoming ih =>
    obtain ⟨hnext, hkeys⟩ := List.forall_mem_cons.1 hkeys
    obtain ⟨existing, hfound⟩ := exists_first hnext
    rw [mergeInteractions, hfound]
    by_cases hsame : (existing.toJson == next.toJson) = true
    · simp only [hsame, if_true]
      rcases ih hkeys with ⟨hmerge, hall⟩ | ⟨i, hi, e, he, hdiffers, hmerge⟩
      · exact Or.inl ⟨hmerge, List.forall_mem_cons.2 ⟨⟨existing, hfound, hsame⟩, hall⟩⟩
      · exact Or.inr ⟨i, List.mem_cons_of_mem _ hi, e, he, hdiffers, hmerge⟩
    · simp only [hsame, Bool.false_eq_true, if_false]
      exact Or.inr ⟨next, List.mem_cons_self, existing, hfound, Bool.eq_false_iff.2 hsame, rfl⟩

/-- Interactions with one key have one document. -/
def Consistent (c : Contract) : Prop :=
  ∀ i ∈ c.interactions, ∀ j ∈ c.interactions, i.key = j.key → (i.toJson == j.toJson) = true

/-- It is enough to look at the first interaction with each key. -/
theorem consistent_iff_first {c : Contract} :
    c.Consistent ↔ ∀ i ∈ c.interactions, ∀ e,
      c.interactions.find? (fun j => j.key == i.key) = some e → (e.toJson == i.toJson) = true := by
  constructor
  · intro h i hi e he
    exact h e (List.mem_of_find?_eq_some he) i hi (by simpa using List.find?_some he)
  · intro h i hi j hj hkey
    -- both interactions are compared with the first one that has their key
    obtain ⟨e, he⟩ := exists_first (List.mem_map_of_mem hi)
    have hfirst : (e.toJson.same i.toJson) = true := h i hi e he
    have hsecond : (e.toJson.same j.toJson) = true := by
      rw [hkey] at he
      exact h j hj e he
    rw [Json.same_comm] at hfirst
    exact Json.same_trans hfirst hsecond

/-- Entries that are there already change nothing when they are inserted. -/
theorem foldl_insert_present {d : Dict Json} {entries : List (String × Json)}
    (h : ∀ entry ∈ entries, d.get? entry.1 = some entry.2) :
    entries.foldl (fun extra entry => extra.insert entry.1 entry.2) d = d := by
  induction entries with
  | nil => rfl
  | cons entry entries ih =>
    obtain ⟨hfirst, hrest⟩ := List.forall_mem_cons.1 h
    have hsame : d.insert entry.1 entry.2 = d := by
      refine Dict.ext_get? fun key => ?_
      rw [Dict.get?_insert]
      split
      · next hkey => rw [← hkey, hfirst]
      · rfl
    rw [List.foldl_cons, hsame, ih hrest]

theorem get?_overridden (extra others : Dict Json) (key : String) :
    (others.toList.foldl (fun extra entry => extra.insert entry.1 entry.2) extra).get? key =
      (others.get? key).or (extra.get? key) := by
  rw [Dict.get?_foldl_insert, Assoc.get?_reverse others.ascending.nodup_keys]
  rfl

end Contract

end MockProvider
