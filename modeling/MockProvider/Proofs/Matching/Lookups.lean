import MockProvider.Matching.Selection
import MockProvider.Proofs.Matching.Cascading
import MockProvider.Proofs.Matching.Siblings
import MockProvider.Proofs.Rule.Precedence

/-!
# Comparing depends on the rules looked up

The lists of places at which rules are looked up leave none out: tables that find the same rules at
these places find the same mismatches, `matchBody_of_alike`, whatever they find elsewhere. So a weight
that is too large for a word matters only where one of these places is looked up.

No weight is too large where expressions, or places, have fewer than 64 steps.
-/

namespace MockProvider

namespace RuleTable

variable {t : RuleTable} {category : Category} {place : DocPath}

theorem overflows_of_lengths (h : ∀ e ∈ t.entries category, e.path.length < 64) :
    t.overflows category place = false :=
  exact_iff.1 (exact_of_lengths h place)

theorem overflows_of_place (h : place.length < 64) : t.overflows category place = false := by
  refine exact_iff.1 fun e _ => ?_
  by_cases hshort : e.path.length < 64
  · exact DocPath.overflowsAgainst_of_length hshort place
  · have hlonger : ¬ e.path.length ≤ place.length := fun hle => hshort (Nat.lt_of_le_of_lt hle h)
    rw [DocPath.overflowsAgainst, decide_eq_false hlonger, Bool.false_and]

/-- The rules for a path, a status code, a header or a query parameter are found without. -/
theorem overflows_outside_bodies (t : RuleTable) (category : Category) (name : String) :
    t.overflows category .root = false ∧
      t.overflows category (namedPlace category name) = false := by
  have hnamed : (namedPlace category name).length = 2 := rfl
  exact ⟨overflows_of_place (by decide), overflows_of_place (by rw [hnamed]; decide)⟩

/-- Two tables find the same rules for a place in bodies. -/
def Alike (t other : RuleTable) (place : DocPath) : Prop :=
  t.resolve .body place = other.resolve .body place

end RuleTable

namespace Matching

open RuleTable (Alike)

/-! ## Parts of containers -/

section

variable {α ε : Type} {alike : DocPath → Prop} {es : List ε} {lookups : ε → Walk α DocPath}
  {check other : ε → Walk α Mismatch} {place : DocPath} {parts : List α}

/-- Two checks find the same where all places of a walk are alike. -/
def Follows (alike : DocPath → Prop) (lookups : Walk α DocPath) (check other : Walk α Mismatch) :
    Prop :=
  ∀ place a, (∀ p ∈ lookups place a, alike p) → check place a = other place a

theorem checkPaired_congr (h : ∀ e ∈ es, Follows alike (lookups e) (check e) (other e))
    {index : Nat} (hplaces : ∀ p ∈ checkPaired place index (es.map lookups) parts, alike p) :
    checkPaired place index (es.map check) parts =
      checkPaired place index (es.map other) parts := by
  induction es generalizing index parts with
  | nil => rfl
  | cons e es ih =>
    cases parts with
    | nil => rfl
    | cons part parts =>
      obtain ⟨hfirst, hrest⟩ := List.forall_mem_cons.1 h
      obtain ⟨hhere, hbelow⟩ := List.forall_mem_append.1 hplaces
      rw [List.map_cons, List.map_cons, checkPaired, checkPaired, hfirst _ _ hhere,
        ih hrest hbelow]

theorem checkEach_congr {e : ε} (h : Follows alike (lookups e) (check e) (other e)) {index : Nat}
    (hplaces : ∀ p ∈ checkEach place (lookups e) index parts, alike p) :
    checkEach place (check e) index parts = checkEach place (other e) index parts := by
  induction parts generalizing index with
  | nil => rfl
  | cons part parts ih =>
    obtain ⟨hhere, hbelow⟩ := List.forall_mem_append.1 hplaces
    rw [checkEach, checkEach, h _ _ hhere, ih hbelow]

theorem checkTemplates_congr (h : ∀ e ∈ es, Follows alike (lookups e) (check e) (other e))
    (hplaces : ∀ p ∈ checkTemplates place (es.map lookups) parts, alike p) :
    checkTemplates place (es.map check) parts = checkTemplates place (es.map other) parts := by
  cases es with
  | nil => rfl
  | cons e es =>
    obtain ⟨hpaired, hpast⟩ := List.forall_mem_append.1 hplaces
    simp only [List.length_cons, List.length_map] at hpast
    have hfirst := checkEach_congr (h e List.mem_cons_self) hpast
    have hall := checkPaired_congr h hpaired
    simp only [List.map_cons] at hall ⊢
    simp only [checkTemplates, List.length_cons, List.length_map, hall, hfirst]

/-- Parts are found alike in the way of going through them that the rules ask for. -/
theorem comparedParts_congr (h : ∀ e ∈ es, Follows alike (lookups e) (check e) (other e))
    {resolved : Option RuleTable.Resolved}
    (hplaces : ∀ p ∈ comparedParts resolved place (es.map lookups) parts, alike p) :
    (typeOnly resolved = true →
      checkTemplates place (es.map check) parts = checkTemplates place (es.map other) parts) ∧
    (¬ typeOnly resolved = true →
      checkPaired place 0 (es.map check) parts = checkPaired place 0 (es.map other) parts) := by
  rw [comparedParts] at hplaces
  constructor
  · intro htype
    rw [if_pos htype] at hplaces
    exact checkTemplates_congr h hplaces
  · intro htype
    rw [if_neg htype] at hplaces
    exact checkPaired_congr h hplaces

end

/-! ## Documents -/

variable {rules other : RuleTable}

theorem compareLeaf_congr {place : DocPath} (h : Alike rules other place) (expected actual : Json) :
    compareLeaf rules place expected actual = compareLeaf other place expected actual := by
  rw [compareLeaf, compareLeaf, h]

theorem itemLookups_eq_map (rules : RuleTable) (expected : List Json) :
    itemLookups rules expected = expected.map (lookupsOf rules) := by
  induction expected with
  | nil => rfl
  | cons item expected ih => rw [itemLookups, ih, List.map_cons]

theorem checkItems_congr {expected : List Json}
    (h : ∀ e ∈ expected, Follows (Alike rules other) (lookupsOf rules e) (checkOf rules e)
      (checkOf other e))
    {resolved : Option RuleTable.Resolved} {place : DocPath} {items : List Json}
    (hplaces : ∀ p ∈ comparedParts resolved place (itemLookups rules expected) items,
      Alike rules other p) :
    checkItems resolved place expected (itemChecks rules expected) items =
      checkItems resolved place expected (itemChecks other expected) items := by
  rw [itemLookups_eq_map] at hplaces
  obtain ⟨htemplates, hpaired⟩ := comparedParts_congr h hplaces
  rw [itemChecks_eq_map, itemChecks_eq_map, checkItems, checkItems]
  split
  · next htype => rw [htemplates htype]
  · next htype => rw [hpaired htype]

theorem checkMember_congr {place : DocPath} {actual : List (String × Json)} {key : String}
    {expected : Json}
    (h : Follows (Alike rules other) (lookupsOf rules expected) (checkOf rules expected)
      (checkOf other expected))
    (hplaces : ∀ p ∈ (Assoc.get? actual key).elim [] (lookupsOf rules expected (place.field key)),
      Alike rules other p) :
    checkMember place actual key expected (checkOf rules expected) =
      checkMember place actual key expected (checkOf other expected) := by
  rw [checkMember, checkMember]
  cases hget : Assoc.get? actual key with
  | none => rfl
  | some received =>
    rw [hget] at hplaces
    exact h _ _ hplaces

mutual

/-- What is found in a value depends on the rules at the places that are looked up. -/
theorem checkOf_congr : ∀ expected : Json,
    Follows (Alike rules other) (lookupsOf rules expected) (checkOf rules expected)
      (checkOf other expected)
  | .object expected, place, actual, h => by
    obtain ⟨hplace, hbelow⟩ := List.forall_mem_cons.1 h
    have hsame : rules.resolve .body place = other.resolve .body place := hplace
    cases actual with
    -- the rules at the place agree, so both judge the value as a whole or both go on below
    | object members =>
      rw [checkOf, checkOf, ← hsame]
      cases hwhole : wholeRules? (rules.resolve .body place) with
      | some whole => rfl
      | none =>
        rw [hwhole] at hbelow
        rw [membersCheck_congr expected place members hbelow]
    | _ => simp only [checkOf, ← hsame, compareLeaf_congr hplace]
  | .array expected, place, actual, h => by
    obtain ⟨hplace, hbelow⟩ := List.forall_mem_cons.1 h
    have hsame : rules.resolve .body place = other.resolve .body place := hplace
    cases actual with
    | array items =>
      rw [checkOf, checkOf, ← hsame]
      cases hwhole : wholeRules? (rules.resolve .body place) with
      | some whole => rfl
      | none =>
        rw [hwhole] at hbelow
        exact checkItems_congr (itemChecks_follow expected) hbelow
    | _ => simp only [checkOf, ← hsame, compareLeaf_congr hplace]
  | .null, place, _, h => compareLeaf_congr (h place List.mem_cons_self) _ _
  | .bool _, place, _, h => compareLeaf_congr (h place List.mem_cons_self) _ _
  | .number _, place, _, h => compareLeaf_congr (h place List.mem_cons_self) _ _
  | .string _, place, _, h => compareLeaf_congr (h place List.mem_cons_self) _ _

theorem itemChecks_follow : ∀ expected : List Json, ∀ e ∈ expected,
    Follows (Alike rules other) (lookupsOf rules e) (checkOf rules e) (checkOf other e)
  | [], _, he => nomatch he
  | item :: items, e, he => by
    rcases List.mem_cons.1 he with h' | h'
    · rw [h']
      exact checkOf_congr item
    · exact itemChecks_follow items e h'

theorem membersCheck_congr : ∀ (expected : List (String × Json)) (place : DocPath)
    (actual : List (String × Json)),
    (∀ p ∈ memberLookups rules expected place actual, Alike rules other p) →
    membersCheck rules expected place actual = membersCheck other expected place actual
  | [], _, _, _ => rfl
  | (key, value) :: expected, place, actual, h => by
    obtain ⟨hhere, hrest⟩ := List.forall_mem_append.1 h
    rw [membersCheck, membersCheck, checkMember_congr (checkOf_congr value) hhere,
      membersCheck_congr expected place actual hrest]

end

theorem matchJson_congr {expected actual : Bytes}
    (h : ∀ p ∈ jsonLookups rules expected actual, Alike rules other p) :
    matchJson rules expected actual = matchJson other expected actual := by
  rw [jsonLookups] at h
  rw [matchJson, matchJson]
  cases hexpected : Json.parse expected with
  | error e => rfl
  | ok e =>
    cases hactual : Json.parse actual with
    | error a => rfl
    | ok a =>
      rw [hexpected, hactual] at h
      exact checkOf_congr e .root a h

/-! ## Elements -/

open Xml (Element)

theorem expectedAttributes_congr {place : DocPath} {expected actual : Dict String}
    (h : ∀ p ∈ attributeLookups place expected actual, Alike rules other p) :
    expectedAttributes rules place expected actual =
      expectedAttributes other place expected actual := by
  refine List.flatMap_congr fun (name, value) hentry => ?_
  cases hget : actual.get? name with
  | none => simp only [hget]
  | some received =>
    have hpresent : actual.contains name = true := by
      rw [Dict.contains, Assoc.contains, ← Dict.get?, hget]
      rfl
    have hlookup : (name, value) ∈ expected.toList.filter fun entry => actual.contains entry.1 :=
      List.mem_filter.2 ⟨hentry, hpresent⟩
    simp only [hget]
    exact compareLeaf_congr (h _ (List.mem_map.2 ⟨_, hlookup, rfl⟩)) _ _

theorem compareText_congr {place : DocPath} {lenient : Bool} {expected actual : String}
    (h : ∀ p ∈ textLookups place lenient expected actual, Alike rules other p) :
    compareText rules place lenient expected actual =
      compareText other place lenient expected actual := by
  rw [textLookups] at h
  rw [compareText, compareText]
  split
  · rfl
  · next htext =>
    rw [if_neg htext] at h
    exact compareLeaf_congr (h _ (List.mem_singleton_self _)) _ _

theorem childLookups_eq_map (rules : RuleTable) (children : List Element) :
    childLookups rules children = children.map fun e => (e.name, elementLookups rules e) := by
  induction children with
  | nil => rfl
  | cons child children ih => rw [childLookups, ih, List.map_cons]

/-- The walks of the siblings of one name are those of the elements of that name. -/
theorem group_childLookups (rules : RuleTable) (children : List Element) (name : String) :
    ((childLookups rules children).filter fun lookup => lookup.1 == name).map Prod.snd =
      (withName name children).map (elementLookups rules) := by
  rw [childLookups_eq_map, List.filter_map, List.map_map]
  rfl

theorem checkGroup_congr {es : List Element}
    (h : ∀ e ∈ es, Follows (Alike rules other) (elementLookups rules e) (elementCheck rules e)
      (elementCheck other e))
    {place : DocPath} (hplace : Alike rules other place) {actual : List Element}
    (hplaces : ∀ p ∈ comparedParts (rules.resolve .body place) place
      (es.map (elementLookups rules)) actual, Alike rules other p) (name : String) :
    checkGroup rules place name (es.map (elementCheck rules)) actual =
      checkGroup other place name (es.map (elementCheck other)) actual := by
  have hsame : rules.resolve .body place = other.resolve .body place := hplace
  obtain ⟨htemplates, hpaired⟩ := comparedParts_congr h hplaces
  rw [checkGroup, checkGroup, ← hsame, List.length_map, List.length_map]
  split
  · rfl
  · split
    · next htype => rw [htemplates htype]
    · next htype => rw [hpaired htype]

theorem checkGroups_congr {es : List Element}
    (h : ∀ e ∈ es, Follows (Alike rules other) (elementLookups rules e) (elementCheck rules e)
      (elementCheck other e))
    {place : DocPath} {actual : List Element}
    (hplaces : ∀ p ∈ groupLookups rules place (childLookups rules es) actual,
      Alike rules other p) :
    checkGroups rules place (childChecks rules es) actual =
      checkGroups other place (childChecks other es) actual := by
  have hnames (t : RuleTable) : (childChecks t es).map Prod.fst = es.map Element.name := by
    rw [childChecks_eq_map, List.map_map]
    rfl
  have hlookups : (childLookups rules es).map Prod.fst = es.map Element.name := by
    rw [childLookups_eq_map, List.map_map]
    rfl
  -- all three lists are made from the same elements, so they have the same names in one order
  rw [checkGroups, checkGroups, hnames, hnames]
  refine List.flatMap_congr fun name hname => ?_
  have hgroup : ∀ p ∈ place.field name ::
      comparedParts (rules.resolve .body (place.field name)) (place.field name)
        ((withName name es).map (elementLookups rules)) (withName name actual),
      Alike rules other p := by
    intro p hp
    refine hplaces p (List.mem_flatMap.2 ⟨name, by rwa [hlookups], ?_⟩)
    simp only [group_childLookups]
    exact hp
  obtain ⟨hplace, hparts⟩ := List.forall_mem_cons.1 hgroup
  simp only [group_childChecks]
  exact checkGroup_congr (fun e he => h e (mem_withName.1 he).1) hplace hparts name

theorem unexpectedGroups_congr (place : DocPath) (es actual : List Element) :
    unexpectedGroups place (childChecks rules es) actual =
      unexpectedGroups place (childChecks other es) actual := by
  simp [unexpectedGroups, childChecks_eq_map]

mutual

/-- What is found in an element depends on the rules at the places that are looked up. -/
theorem elementCheck_congr : ∀ e : Element,
    Follows (Alike rules other) (elementLookups rules e) (elementCheck rules e)
      (elementCheck other e)
  | .mk _ attributes text children, place, actual, h => by
    rw [elementLookups, comparedElement, List.append_assoc, List.cons_append] at h
    obtain ⟨hplace, hparts⟩ := List.forall_mem_cons.1 h
    obtain ⟨hattributes, hbelow⟩ := List.forall_mem_append.1 hparts
    obtain ⟨htext, hgroups⟩ := List.forall_mem_append.1 hbelow
    have hsame : rules.resolve .body place = other.resolve .body place := hplace
    rw [elementCheck, elementCheck, compareElement, compareElement, ← hsame,
      expectedAttributes_congr hattributes, compareText_congr htext,
      checkGroups_congr (childChecks_follow children) hgroups, unexpectedGroups_congr]

theorem childChecks_follow : ∀ children : List Element, ∀ e ∈ children,
    Follows (Alike rules other) (elementLookups rules e) (elementCheck rules e)
      (elementCheck other e)
  | [], _, he => nomatch he
  | child :: children, e, he => by
    rcases List.mem_cons.1 he with h' | h'
    · rw [h']
      exact elementCheck_congr child
    · exact childChecks_follow children e h'

end

theorem matchXml_congr {expected actual : Bytes}
    (h : ∀ p ∈ xmlLookups rules expected actual, Alike rules other p) :
    matchXml rules expected actual = matchXml other expected actual := by
  rw [xmlLookups] at h
  rw [matchXml, matchXml]
  cases hexpected : Xml.parse expected with
  | error e => rfl
  | ok e =>
    cases hactual : Xml.parse actual with
    | error a => rfl
    | ok a =>
      simp only [hexpected, hactual] at h ⊢
      split
      · next hname =>
        rw [if_pos hname] at h
        exact elementCheck_congr e _ a h
      · rfl

/-! ## Bodies -/

theorem matchKind_congr {kind : BodyKind} {expected actual : Body}
    (h : ∀ p ∈ kindLookups rules kind expected.bytes actual.bytes, Alike rules other p) :
    matchKind rules kind expected actual = matchKind other kind expected actual := by
  have hraw : Alike rules other .root → matchRaw rules expected actual =
      matchRaw other expected actual := fun hroot => by
    rw [matchRaw, matchRaw, rawFailures, rawFailures, hroot]
  cases kind with
  | json =>
    rw [kindLookups] at h
    rw [matchKind, matchKind, matchJson_congr h]
  | xml =>
    rw [kindLookups] at h
    rw [matchKind, matchKind, matchXml_congr h]
  | text | binary =>
    rw [kindLookups] at h
    rw [matchKind, matchKind, hraw (h _ (List.mem_singleton_self _))]

/-- Bodies are compared by the rules at the places that are looked up, and by no others. -/
theorem matchBody_of_alike {expected actual : Message} {other : RuleTable}
    (h : ∀ p ∈ bodyLookups expected actual, Alike expected.rules other p) :
    matchBody expected actual = matchBody { expected with rules := other } actual := by
  rw [bodyLookups] at h
  cases hexpected : expected.body with
  | absent => simp only [matchBody, hexpected]
  | empty => cases hactual : actual.body <;> simp only [matchBody, hexpected, hactual]
  | present bytes type =>
    cases hactual : actual.body with
    | absent | empty => simp only [matchBody, hexpected, hactual]
    | present received receivedType =>
      simp only [hexpected, hactual] at h
      simp only [matchBody, hexpected, hactual]
      split
      · next hkinds =>
        rw [if_pos hkinds] at h
        exact matchKind_congr h
      · rfl

end Matching

/-- Comparing a request never meets a weight that is too large when the rules for its body have
    expressions of fewer than 64 steps. -/
theorem Request.overflows_of_lengths {expected : Request}
    (h : ∀ e ∈ expected.rules.body, e.path.length < 64) (actual : Request) :
    expected.overflows actual = false :=
  List.any_eq_false.2 fun _ _ => Bool.eq_false_iff.1 (RuleTable.overflows_of_lengths h)

/-- Where it meets none, the rules at each place that is looked up are those of the entry that
    governs the place. -/
theorem Request.governs_of_not_overflows {expected actual : Request}
    (h : expected.overflows actual = false) {place : DocPath}
    (hplace : place ∈ Matching.bodyLookups expected.toMessage actual.toMessage)
    {r : RuleTable.Resolved} (hr : expected.rules.resolve .body place = some r) :
    ∃ e, RuleTable.Governs (expected.rules.entries .body) place e ∧ r.list = e.list := by
  have hexact : expected.rules.overflows .body place = false :=
    Bool.eq_false_iff.2 (List.any_eq_false.1 h place hplace)
  obtain ⟨e, hgoverns, hlist, -⟩ := RuleTable.governs_of_exact (RuleTable.exact_iff.2 hexact) hr
  exact ⟨e, hgoverns, hlist⟩

end MockProvider
