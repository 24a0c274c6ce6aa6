import MockProvider.Proofs.Contract.RoundTrip

/-!
# Storing contracts

How deep the documents of rules, messages and interactions nest, level by level up to the pact
document: `Contract.fits_toJson`. Of the numbers in it only those in bodies and in metadata can be
other than integers. So the pact document of a contract can be stored when its bodies and its
metadata can: `Contract.storable_toJson`.
-/

namespace MockProvider

/-! ## Rules -/

theorem Rule.fits_boundMember (key : String) (bound : Option UInt64) :
    ∀ pair ∈ boundMember key bound, pair.2.Fits Number.IsInteger 0 := by
  cases bound with
  | none => exact fun _ hpair => nomatch hpair
  | some n =>
    intro pair hpair
    rw [List.mem_singleton.1 hpair]
    exact Json.Fits.ofNat 0 n.toNat

theorem Rule.fits_toJson (rule : Rule) : rule.toJson.Fits Number.IsInteger 1 := by
  have hstrings : ∀ pairs : List (String × String),
      (Json.ofMembers (pairs.map fun pair => (pair.1, .string pair.2))).Fits
        Number.IsInteger 1 := by
    intro pairs
    refine Json.Fits.ofMembers fun pair hpair => ?_
    obtain ⟨texts, -, rfl⟩ := List.mem_map.1 hpair
    exact Json.Fits.string 0 texts.2
  cases rule with
  | equality => exact hstrings [("match", "equality")]
  | type => exact hstrings [("match", "type")]
  | regex pattern => exact hstrings [("match", "regex"), ("regex", pattern.text)]
  | contains text => exact hstrings [("match", "include"), ("value", text)]
  | minMax least most =>
    refine Json.Fits.ofMembers (List.forall_mem_cons.2 ⟨Json.Fits.string 0 "type", ?_⟩)
    exact List.forall_mem_append.2 ⟨fits_boundMember "min" least, fits_boundMember "max" most⟩

theorem RuleList.fits_toJson (list : RuleList) : list.toJson.Fits Number.IsInteger 3 := by
  have hrules : (Json.array (list.rules.map Rule.toJson)).Fits Number.IsInteger 2 := by
    refine Json.Fits.array fun item hitem => ?_
    obtain ⟨rule, -, rfl⟩ := List.mem_map.1 hitem
    exact rule.fits_toJson
  refine Json.Fits.ofMembers (List.forall_mem_cons.2 ⟨Json.Fits.string 2 list.logic.word, ?_⟩)
  exact List.forall_mem_singleton.2 hrules

namespace RuleTable

theorem fits_categoryJson (t : RuleTable) (category : Category) :
    ∀ content ∈ t.categoryJson category, content.Fits Number.IsInteger 4 := by
  have hlists : ∀ (key : DocPath → String) (es : List RuleEntry),
      (Json.ofMembers (es.map fun e => (key e.path, e.list.toJson))).Fits Number.IsInteger 4 := by
    intro key es
    refine Json.Fits.ofMembers fun pair hpair => ?_
    obtain ⟨e, -, rfl⟩ := List.mem_map.1 hpair
    exact e.list.fits_toJson
  intro content hcontent
  unfold categoryJson at hcontent
  split at hcontent
  · cases hcontent
  · next first rest _ =>
    cases category with
    | path => exact Option.some.inj hcontent ▸ first.list.fits_toJson.mono (by decide)
    | status => exact Option.some.inj hcontent ▸ first.list.fits_toJson.mono (by decide)
    | query => exact Option.some.inj hcontent ▸ hlists nameKey (first :: rest)
    | header => exact Option.some.inj hcontent ▸ hlists nameKey (first :: rest)
    | body => exact Option.some.inj hcontent ▸ hlists DocPath.render (first :: rest)

theorem fits_toJson (t : RuleTable) : t.toJson.Fits Number.IsInteger 5 := by
  refine Json.Fits.ofMembers fun pair hpair => ?_
  obtain ⟨category, -, hcategory⟩ := List.mem_filterMap.1 hpair
  obtain ⟨content, hcontent, rfl⟩ := Option.map_eq_some_iff.1 hcategory
  exact t.fits_categoryJson category content hcontent

end RuleTable

/-! ## Messages -/

section

variable {P : Number → Prop}

theorem Json.fits_optional {room : Nat} {key : String} {value : Option Json}
    (h : ∀ v ∈ value, v.Fits P room) : ∀ pair ∈ Json.optional key value, pair.2.Fits P room := by
  cases value with
  | none => exact fun _ hpair => nomatch hpair
  | some v => exact List.forall_mem_singleton.2 (h v rfl)

namespace Message

/-- What is written for the body fits into a pact document, and its numbers are all of a kind. -/
def BodyFits (P : Number → Prop) (m : Message) : Prop :=
  ∀ v ∈ m.body.member?, v.Fits P Body.maxDepth

theorem Declared.bodyFits {m : Message} (h : m.Declared) (hbody : m.body.Storable) :
    m.BodyFits fun _ => True := by
  obtain ⟨declared, hdeclared⟩ := h
  exact hbody.fits ⟨declared, _, hdeclared⟩

theorem fits_valuesJson {room : Nat} (hroom : 2 ≤ room) (values : Option (Dict (List String))) :
    ∀ v ∈ values.map valuesJson, v.Fits P room := by
  intro v hv
  obtain ⟨values, -, rfl⟩ := Option.map_eq_some_iff.1 hv
  have hfits : (valuesJson values).Fits P 2 := by
    refine Json.Fits.ofDict fun entry hentry => ?_
    obtain ⟨texts, -, rfl⟩ := List.mem_map.1 hentry
    exact Json.Fits.ofStrings 0 texts.2
  exact hfits.mono hroom

end Message

-- rules and statuses have integers only, which are of every kind that is asked for
variable (hP : ∀ n : Number, n.IsInteger → P n)

include hP

theorem Message.BodyFits.members {m : Message} (h : m.BodyFits P) :
    ∀ pair ∈ m.contentMembers ++ m.rulesMembers, pair.2.Fits P Body.maxDepth := by
  rw [contentMembers_eq, rulesMembers_eq]
  refine List.forall_mem_append.2 ⟨List.forall_mem_append.2 ⟨?_, Json.fits_optional h⟩, ?_⟩
  · exact Json.fits_optional (fits_valuesJson (by decide) m.headers)
  · refine Json.fits_optional fun v hv => ?_
    split at hv
    · cases hv
    · exact Option.some.inj hv ▸ (m.rules.fits_toJson.imp hP).mono (by decide)

theorem Request.fits_toPactJson {r : Request} (h : r.toMessage.BodyFits P) :
    r.toPactJson.Fits P (Body.maxDepth + 1) := by
  refine Json.Fits.ofMembers ?_
  rw [summaryMembers_eq, List.append_assoc]
  refine List.forall_mem_append.2 ⟨List.forall_mem_append.2 ⟨?_, ?_⟩, h.members hP⟩
  · exact List.forall_mem_cons.2 ⟨Json.Fits.string _ r.method,
      List.forall_mem_singleton.2 (Json.Fits.string _ r.path)⟩
  · exact Json.fits_optional (Message.fits_valuesJson (by decide) r.query)

theorem Response.fits_toPactJson {r : Response} (h : r.toMessage.BodyFits P) :
    r.toPactJson.Fits P (Body.maxDepth + 1) :=
  Json.Fits.ofMembers
    (List.forall_mem_cons.2 ⟨(Json.Fits.ofNat _ r.status.toNat).imp hP, h.members hP⟩)

/-! ## Contracts -/

theorem Interaction.fits_toJson {i : Interaction} (hrequest : i.request.toMessage.BodyFits P)
    (hresponse : i.response.toMessage.BodyFits P) : i.toJson.Fits P (Body.maxDepth + 2) := by
  rw [toJson_eq]
  refine Json.Fits.ofMembers (List.forall_mem_append.2 ⟨?_, Json.fits_optional fun v hv => ?_⟩)
  · exact List.forall_mem_cons.2 ⟨Json.Fits.string _ i.description, List.forall_mem_cons.2
      ⟨Request.fits_toPactJson hP hrequest,
        List.forall_mem_singleton.2 (Response.fits_toPactJson hP hresponse)⟩⟩
  · obtain ⟨state, -, rfl⟩ := Option.map_eq_some_iff.1 hv
    exact Json.Fits.string _ state

omit hP

namespace Metadata

/-- All metadata besides the version fit into a pact document, and their numbers are all of a
    kind. -/
def Fits (P : Number → Prop) (m : Metadata) : Prop :=
  ∀ entry ∈ m.extra.toList, entry.2.Fits P (Body.maxDepth + 2)

theorem Fits.toJson {m : Metadata} (h : m.Fits P) : m.toJson.Fits P (Body.maxDepth + 3) := by
  refine Json.Fits.ofDict fun entry hentry => ?_
  have hfound := Dict.get?_of_mem hentry
  rw [Dict.get?_insert] at hfound
  -- the version was inserted, all other members are those of the metadata
  split at hfound
  · rw [← Option.some.inj hfound]
    refine Json.Fits.ofMembers (List.forall_mem_singleton.2 ?_)
    exact Json.Fits.string _ (m.specVersion.getD defaultVersion)
  · exact h (entry.1, entry.2) (Assoc.mem_of_get? hfound)

/-- Metadata that were read from a value stand no deeper than in it. -/
theorem fits_ofJson {value : Option Json} (hordered : ∀ v ∈ value, v.Ordered)
    (hdepth : ∀ v ∈ value, v.depth ≤ Body.maxDepth + 3)
    (hnumbers : ∀ entry ∈ (ofJson value).extra.toList, entry.2.Numbers P) :
    (ofJson value).Fits P := by
  intro entry hentry
  have hfound : (ofJson value).extra.get? entry.1 = some entry.2 := Dict.get?_of_mem hentry
  have hother : ¬ IsVersionKey entry.1 := by
    intro hkey
    rw [plain_ofJson value entry.1 hkey] at hfound
    cases hfound
  -- no key of the rest gives a version, so its value is the last member with this key
  have hinside : ∃ members, value = some (.object members) ∧ entry ∈ members := by
    unfold ofJson at hfound
    split at hfound
    · cases hfound
    · next members hmembers =>
      obtain ⟨v, rfl, hv⟩ := Option.bind_eq_some_iff.1 hmembers
      rw [get?_foldl_readMember hother] at hfound
      refine ⟨members, congrArg some (Json.eq_object_of_members? hv), List.mem_reverse.1 ?_⟩
      refine Assoc.mem_of_get? ?_
      cases hget : Assoc.get? members.reverse entry.1 with
      | some found =>
        rw [hget] at hfound
        exact hfound
      | none =>
        rw [hget] at hfound
        cases hfound
  obtain ⟨members, rfl, hmem⟩ := hinside
  have hall := hordered _ rfl
  have hlow := Json.depthMembers_le_iff.1 (Nat.le_of_succ_le_succ (hdepth _ rfl)) entry hmem
  exact ⟨Json.orderedMembers_iff.1 hall.2 entry hmem, hlow, hnumbers entry hentry⟩

end Metadata

/-- The pact document of a contract nests as deep as the reader allows when its bodies and metadata
    fit into it. -/
theorem Contract.fits_toJson (hP : ∀ n : Number, n.IsInteger → P n) {c : Contract}
    (hbodies : ∀ i ∈ c.interactions,
      i.request.toMessage.BodyFits P ∧ i.response.toMessage.BodyFits P)
    (hmetadata : c.metadata.Fits P) : c.toJson.Fits P Json.maxDepth := by
  have hparty : ∀ name, (Json.ofMembers [("name", .string name)]).Fits P (Body.maxDepth + 3) :=
    fun name => Json.Fits.ofMembers (List.forall_mem_singleton.2 (Json.Fits.string _ name))
  have hinteractions :
      (Json.array (c.interactions.map Interaction.toJson)).Fits P (Body.maxDepth + 3) := by
    refine Json.Fits.array fun item hitem => ?_
    obtain ⟨i, hi, rfl⟩ := List.mem_map.1 hitem
    exact Interaction.fits_toJson hP (hbodies i hi).1 (hbodies i hi).2
  exact Json.Fits.ofMembers (List.forall_mem_cons.2 ⟨hparty c.consumer, List.forall_mem_cons.2
    ⟨hparty c.provider, List.forall_mem_cons.2
      ⟨hinteractions, List.forall_mem_singleton.2 hmetadata.toJson⟩⟩⟩)

end

/-- The pact document of a contract can be stored when its bodies and metadata can. -/
theorem Contract.storable_toJson {c : Contract}
    (hbodies : ∀ i ∈ c.interactions,
      i.request.toMessage.BodyFits Number.Rereads ∧ i.response.toMessage.BodyFits Number.Rereads)
    (hmetadata : c.metadata.Fits Number.Rereads) : c.toJson.Storable :=
  (fits_toJson (fun _ hn => hn.rereads) hbodies hmetadata).storable

end MockProvider
