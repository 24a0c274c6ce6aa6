import MockProvider.Proofs.Matching.Reflexive

/-!
# Messages match themselves

Where all rules ask for equality or for the type, a request and a response are as expected of them:
`mismatches_self`. For bodies this is an induction over the expected value or element. Each
container hands on to its parts that a part is compared with itself, at whatever place; what it adds
is that every part finds itself again, by its key, its position or its position among the siblings
of its name.
-/

namespace MockProvider

namespace Matching

variable {rules : RuleTable}

/-! ## JSON -/

theorem length_itemChecks (rules : RuleTable) :
    ∀ items : List Json, (itemChecks rules items).length = items.length := by
  intro items
  induction items with
  | nil => rfl
  | cons item items ih => exact congrArg (· + 1) ih

theorem unexpectedMembers_self (place : DocPath) (members : List (String × Json)) :
    unexpectedMembers place members members = [] := by
  refine List.filterMap_eq_nil_iff.2 fun (key, value) hm => if_pos ?_
  rw [Assoc.contains, Option.isSome_iff_ne_none]
  intro hnone
  exact Assoc.get?_eq_none_iff.1 hnone (List.mem_map.2 ⟨_, hm, rfl⟩)

theorem failuresAt_self {r : RuleTable.Resolved} (hr : r.Reflexive) (place : DocPath)
    (value : Json) : failuresAt place value value (r.failures value value) = [] := by
  rw [hr.failures_self]
  rfl

theorem typeOnly_bounds {resolved : Option RuleTable.Resolved}
    (hr : ∀ r, resolved = some r → r.Reflexive) :
    resolved.bind RuleTable.Resolved.bounds? = none := by
  cases resolved with
  | none => rfl
  | some r => exact (hr r rfl).bounds?_eq_none

/-- Arrays of the same items, whose checks find nothing in them. -/
theorem checkItems_self {resolved : Option RuleTable.Resolved} {place : DocPath}
    {items : List Json} {checks : List Check} (hr : ∀ r, resolved = some r → r.Reflexive)
    (hlength : checks.length = items.length) (hitems : checkPaired place 0 checks items = []) :
    checkItems resolved place items checks items = [] := by
  simp only [checkItems, typeOnly_bounds hr, Option.bind_none, Option.toList_none, List.map_nil,
    List.nil_append, if_true, hitems]
  split
  -- no item stands past the last check, so the template has nothing left to check
  · cases checks with
    | nil => rfl
    | cons first checks =>
      rw [checkTemplates, hitems, hlength, List.drop_length]
      rfl
  · rfl

mutual

theorem checkOf_self (hrules : rules.Reflexive) :
    ∀ (value : Json) (place : DocPath), value.Ordered → checkOf rules value place value = []
  | .object members, place, hv => by
    rw [checkOf]
    split
    · next whole hwhole =>
      have hr := (Option.filter_eq_some_iff.1 hwhole).1
      exact failuresAt_self (hrules.resolved hr) place _
    -- keys ascend, so each member finds itself under its key
    · have hfound : ∀ member ∈ members, Assoc.get? members member.1 = some member.2 :=
        fun member hm => hv.1.get?_of_mem hm
      simp only [membersCheck_self hrules members place members hfound hv.2,
        unexpectedMembers_self, ite_self, List.nil_append]
  | .array items, place, hv => by
    rw [checkOf]
    split
    · next whole hwhole =>
      have hr := (Option.filter_eq_some_iff.1 hwhole).1
      exact failuresAt_self (hrules.resolved hr) place _
    · exact checkItems_self (fun r hr => hrules.resolved hr) (length_itemChecks rules items)
        (itemChecks_self hrules items place 0 hv)
  | .null, place, _ => by rw [checkOf]; exact compareLeaf_self hrules place _; all_goals simp
  | .bool _, place, _ => by rw [checkOf]; exact compareLeaf_self hrules place _; all_goals simp
  | .number _, place, _ => by rw [checkOf]; exact compareLeaf_self hrules place _; all_goals simp
  | .string _, place, _ => by rw [checkOf]; exact compareLeaf_self hrules place _; all_goals simp

theorem itemChecks_self (hrules : rules.Reflexive) :
    ∀ (items : List Json) (place : DocPath) (index : Nat), Json.OrderedItems items →
      checkPaired place index (itemChecks rules items) items = []
  | [], _, _, _ => rfl
  | item :: items, place, index, hv => by
    rw [itemChecks, checkPaired, checkOf_self hrules item _ hv.1,
      itemChecks_self hrules items place (index + 1) hv.2]
    rfl

theorem membersCheck_self (hrules : rules.Reflexive) :
    ∀ (members : List (String × Json)) (place : DocPath) (whole : List (String × Json)),
      (∀ member ∈ members, Assoc.get? whole member.1 = some member.2) →
      Json.OrderedMembers members → membersCheck rules members place whole = []
  | [], _, _, _, _ => rfl
  | (key, value) :: members, place, whole, hfound, hv => by
    obtain ⟨hfirst, hrest⟩ := List.forall_mem_cons.1 hfound
    rw [membersCheck, checkMember, hfirst, membersCheck_self hrules members place whole hrest hv.2]
    simp only [checkOf_self hrules value _ hv.1, List.append_nil]

end

theorem matchJson_self (hrules : rules.Reflexive) {bytes : Bytes} {v : Json}
    (h : Json.parse bytes = .ok v) : matchJson rules bytes bytes = [] := by
  rw [matchJson, h]
  exact checkOf_self hrules v .root (Json.parse_shape h).1

/-! ## XML -/

open Xml (Element)

/-- An element that is compared with itself is as expected, wherever it stands. -/
def Selfsame (rules : RuleTable) (e : Element) : Prop :=
  ∀ place, elementCheck rules e place e = []

theorem expectedAttributes_self (hrules : rules.Reflexive) (place : DocPath)
    (attributes : Dict String) : expectedAttributes rules place attributes attributes = [] := by
  refine List.flatMap_eq_nil_iff.2 fun (name, value) hm => ?_
  simp only [Dict.get?_of_mem hm, compareLeaf_self hrules]

theorem unexpectedAttributes_self (place : DocPath) (attributes : Dict String) :
    unexpectedAttributes place attributes attributes = [] := by
  refine List.filterMap_eq_nil_iff.2 fun (name, value) hm => if_pos ?_
  have hfound : Assoc.get? attributes.toList name = some value := Dict.get?_of_mem hm
  rw [Dict.contains, Assoc.contains, hfound]
  rfl

theorem compareText_self (hrules : rules.Reflexive) (place : DocPath) (lenient : Bool)
    (text : String) : compareText rules place lenient text text = [] := by
  rw [compareText]
  split
  · rfl
  · exact compareLeaf_self hrules _ _

theorem pairedElements_self {es : List Element} (h : ∀ e ∈ es, Selfsame rules e)
    (place : DocPath) (index : Nat) :
    checkPaired place index (es.map (elementCheck rules)) es = [] := by
  induction es generalizing index with
  | nil => rfl
  | cons e es ih =>
    obtain ⟨hfirst, hrest⟩ := List.forall_mem_cons.1 h
    rw [List.map_cons, checkPaired, hfirst, ih hrest]
    rfl

theorem checkGroup_self (hrules : rules.Reflexive) {es : List Element} (hne : es ≠ [])
    (h : ∀ e ∈ es, Selfsame rules e) (place : DocPath) (name : String) :
    checkGroup rules place name (es.map (elementCheck rules)) es = [] := by
  have hbounds : (rules.resolve .body place).bind RuleTable.Resolved.bounds? = none :=
    typeOnly_bounds fun r hr => hrules.resolved hr
  have hempty : es.isEmpty = false := by simpa using hne
  have hpaired := pairedElements_self h place 0
  simp only [checkGroup, hempty, hbounds, List.length_map, if_true, Option.bind_none,
    Option.toList_none, List.map_nil, List.nil_append, hpaired, Bool.false_eq_true, if_false]
  split
  -- as for arrays, no element stands past the last check
  · cases es with
    | nil => exact absurd rfl hne
    | cons e es =>
      rw [List.map_cons] at hpaired
      have hpast : (e :: es).drop (es.length + 1) = [] := List.drop_eq_nil_of_le (Nat.le_refl _)
      rw [List.map_cons, checkTemplates, hpaired, List.length_cons, List.length_map, hpast]
      rfl
  · rfl

theorem mem_of_mem_distinct {name : String} {names : List String} (h : name ∈ distinct names) :
    name ∈ names := by
  induction names with
  | nil => cases h
  | cons first names ih =>
    rcases List.mem_cons.1 h with rfl | h
    · exact List.mem_cons_self
    · exact List.mem_cons_of_mem _ (ih (List.mem_filter.1 h).1)

theorem childChecks_eq_map (rules : RuleTable) :
    ∀ children : List Element,
      childChecks rules children = children.map fun e => (e.name, elementCheck rules e)
  | [] => rfl
  | child :: children => by rw [childChecks, childChecks_eq_map rules children]; rfl

/-- The checks of the siblings of one name are those of the elements of that name. -/
theorem group_childChecks (rules : RuleTable) (children : List Element) (name : String) :
    ((childChecks rules children).filter fun check => check.1 == name).map Prod.snd =
      (withName name children).map (elementCheck rules) := by
  rw [childChecks_eq_map, List.filter_map, List.map_map]
  rfl

theorem checkGroups_self (hrules : rules.Reflexive) {children : List Element}
    (h : ∀ e ∈ children, Selfsame rules e) (place : DocPath) :
    checkGroups rules place (childChecks rules children) children = [] := by
  refine List.flatMap_eq_nil_iff.2 fun name hname => ?_
  simp only [group_childChecks]
  -- a name that occurs has an element, so its group is not empty
  refine checkGroup_self hrules ?_ (fun e he => h e (List.mem_filter.1 he).1) _ _
  obtain ⟨check, hcheck, rfl⟩ := List.mem_map.1 (mem_of_mem_distinct hname)
  rw [childChecks_eq_map] at hcheck
  obtain ⟨e, he, rfl⟩ := List.mem_map.1 hcheck
  exact List.ne_nil_of_mem (List.mem_filter.2 ⟨he, beq_self_eq_true _⟩)

theorem unexpectedGroups_self (place : DocPath) (children : List Element) :
    unexpectedGroups place (childChecks rules children) children = [] := by
  refine List.filterMap_eq_nil_iff.2 fun name hname => if_pos ?_
  obtain ⟨e, he, rfl⟩ := List.mem_map.1 (mem_of_mem_distinct hname)
  rw [childChecks_eq_map]
  exact List.any_eq_true.2 ⟨_, List.mem_map.2 ⟨e, he, rfl⟩, beq_self_eq_true _⟩

mutual

theorem elementCheck_self (hrules : rules.Reflexive) : ∀ e : Element, Selfsame rules e
  | .mk name attributes text children, place => by
    rw [elementCheck, compareElement]
    simp only [Element.attributes, Element.text, Element.children, expectedAttributes_self hrules,
      unexpectedAttributes_self, compareText_self hrules, unexpectedGroups_self,
      checkGroups_self hrules (childChecks_self hrules children), ite_self, List.append_nil]

theorem childChecks_self (hrules : rules.Reflexive) :
    ∀ children : List Element, ∀ e ∈ children, Selfsame rules e
  | [], _, he => nomatch he
  | child :: children, e, he => by
    rcases List.mem_cons.1 he with h | h
    · rw [h]
      exact elementCheck_self hrules child
    · exact childChecks_self hrules children e h

end

theorem matchXml_self (hrules : rules.Reflexive) {bytes : Bytes} {e : Element}
    (h : Xml.parse bytes = .ok e) : matchXml rules bytes bytes = [] := by
  simp only [matchXml, h, if_true]
  exact elementCheck_self hrules e _

/-! ## Bodies -/

theorem matchRaw_self (hrules : rules.Reflexive) (body : Body) : matchRaw rules body body = [] := by
  rw [matchRaw, rawFailures, if_pos rfl, hrules.outcome_self]

end Matching

/-- A body with a structured type can be read as that type. -/
def Body.Readable : Body → Prop
  | .present bytes type =>
    match type.kind with
    | .json => ∃ v, Json.parse bytes = .ok v
    | .xml => ∃ e, Xml.parse bytes = .ok e
    | .text => True
    | .binary => True
  | _ => True

namespace Matching

theorem matchBody_self {m : Message} (hrules : m.rules.Reflexive) (hbody : m.body.Readable) :
    matchBody m m = [] := by
  cases hb : m.body with
  | absent => simp [matchBody, hb]
  | empty => simp [matchBody, hb]
  | present bytes type =>
    rw [hb] at hbody
    simp only [matchBody, hb, if_true]
    cases hk : type.kind with
    | json =>
      simp only [Body.Readable, hk] at hbody
      obtain ⟨v, hv⟩ := hbody
      exact matchJson_self hrules hv
    | xml =>
      simp only [Body.Readable, hk] at hbody
      obtain ⟨e, he⟩ := hbody
      exact matchXml_self hrules he
    | text => exact matchRaw_self hrules _
    | binary => exact matchRaw_self hrules _

end Matching

/-! ## Messages -/

/-- A message that cannot but match itself: its rules ask for equality or for the type, its header
    names differ in more than case, and its body can be read as what it is. -/
structure Message.Reflexive (m : Message) : Prop where
  rules : m.rules.Reflexive
  headers : ∀ headers, m.headers = some headers → headers.Distinct
  body : m.body.Readable

open Matching in
theorem Message.Reflexive.mismatches_self :
    (∀ r : Request, r.toMessage.Reflexive → r.mismatches r = []) ∧
      ∀ r : Response, r.toMessage.Reflexive → r.mismatches r = [] := by
  refine ⟨fun r hr => ?_, fun r hr => ?_⟩
  · have hheaders := matchHeaders_self hr.rules hr.headers
    have hbody := matchBody_self hr.rules hr.body
    simp only [Request.mismatches, RequestFacets.mismatches, RequestFacets.toList, Request.facets,
      matchMethod_self, matchPath_self hr.rules, matchQuery_self hr.rules, hheaders, hbody,
      List.flatten_cons, List.flatten_nil, List.append_nil]
  · have hheaders := matchHeaders_self hr.rules hr.headers
    have hbody := matchBody_self hr.rules hr.body
    simp only [Response.mismatches, ResponseFacets.mismatches, Response.facets,
      matchStatus_self hr.rules, hheaders, hbody, List.append_nil]

/-- Rules for a template below a wildcard, of which one has to hold. -/
def Message.templateRules : RuleTable :=
  RuleTable.empty.addList .body ((DocPath.root.push .anyChild).push .anyIndex)
    ⟨[.type, .equality], .any⟩

theorem Message.templateRules_reflexive : Message.templateRules.Reflexive := by
  intro category entry hentry rule hrule
  cases category with
  | body =>
    cases List.mem_singleton.1 hentry
    simpa [or_comm] using hrule
  | _ => cases hentry

theorem Message.mismatches_templateRules :
    ({ body := .present (Bytes.ofString "\x7b\"a\": [[], \x7b\x7d]\x7d") .json,
       rules := Message.templateRules } : Request).mismatches
      { body := .present (Bytes.ofString "\x7b\"a\": [[], \x7b\x7d]\x7d") .json,
        rules := Message.templateRules } = [] ∧
    ({ body := .present (Bytes.ofString "<a><b/><c/><b/></a>") .xml,
       rules := Message.templateRules } : Response).mismatches
      { body := .present (Bytes.ofString "<a><b/><c/><b/></a>") .xml,
        rules := Message.templateRules } = [] := by
  have hjson : ContentType.json.kind = .json := by decide
  have hxml : ContentType.xml.kind = .xml := by decide
  refine ⟨Message.Reflexive.mismatches_self.1 _ ⟨Message.templateRules_reflexive, by simp, ?_⟩,
    Message.Reflexive.mismatches_self.2 _ ⟨Message.templateRules_reflexive, by simp, ?_⟩⟩
  · simp only [Body.Readable, hjson]
    exact ok_of_toBool (by decide +kernel)
  · simp only [Body.Readable, hxml]
    exact ok_of_toBool (by decide +kernel)

end MockProvider
