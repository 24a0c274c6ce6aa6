import MockProvider.Proofs.Matching.Equality

/-!
# Elements without rules

Where no rules are declared for bodies, an XML body has no mismatches exactly when its root element
is equivalent to the expected one: `matchXml_without_rules`. Elements are equivalent when they have
the same name, attributes and text, and for every name the children of that name are equivalent one
by one. So the order among children of different names does not matter, and that among children of
one name does.

The comparison goes through the names of the expected children and then through those of the
received ones; together these are all names that matter: `groups_eq_nil_iff`.
-/

namespace MockProvider

open Matching

namespace Xml.Element

/-- Two elements are equal up to the order among children of different names. -/
inductive Equivalent : Element → Element → Prop
  | mk {name : String} {attributes : Dict String} {text : String} {children children' : List Element}
      (siblings : ∀ n, List.Forall₂ Equivalent (withName n children) (withName n children')) :
      Equivalent (.mk name attributes text children) (.mk name attributes text children')

theorem equivalent_iff {e a : Element} :
    e.Equivalent a ↔ e.name = a.name ∧ e.attributes = a.attributes ∧ e.text = a.text ∧
      ∀ n, List.Forall₂ Equivalent (withName n e.children) (withName n a.children) := by
  obtain ⟨name, attributes, text, children⟩ := e
  obtain ⟨name', attributes', text', children'⟩ := a
  constructor
  · rintro ⟨siblings⟩
    exact ⟨rfl, rfl, rfl, siblings⟩
  · rintro ⟨hname, hattributes, htext, hsiblings⟩
    obtain rfl : name = name' := hname
    obtain rfl : attributes = attributes' := hattributes
    obtain rfl : text = text' := htext
    exact .mk hsiblings

end Xml.Element

namespace Matching

open Xml (Element)

variable {rules : RuleTable}

/-! ## Attributes and text -/

theorem mem_distinct_iff {name : String} {names : List String} :
    name ∈ distinct names ↔ name ∈ names := by
  refine ⟨mem_of_mem_distinct, fun h => ?_⟩
  induction names with
  | nil => cases h
  | cons first names ih =>
    by_cases hfirst : name = first
    · exact hfirst ▸ List.mem_cons_self
    · have hrest := ih ((List.mem_cons.1 h).resolve_left hfirst)
      exact List.mem_cons_of_mem _ (List.mem_filter.2 ⟨hrest, bne_iff_ne.2 hfirst⟩)

theorem compareLeaf_string_eq_nil_iff (h : rules.entries .body = []) (place : DocPath)
    (expected actual : String) :
    compareLeaf rules place (.string expected) (.string actual) = [] ↔ expected = actual := by
  rw [compareLeaf_eq_nil_iff h, Json.same, beq_iff_eq]

theorem expectedAttributes_eq_nil_iff (h : rules.entries .body = []) {place : DocPath}
    {expected actual : Dict String} :
    expectedAttributes rules place expected actual = [] ↔
      ∀ name value, expected.get? name = some value → actual.get? name = some value := by
  rw [expectedAttributes, List.flatMap_eq_nil_iff]
  constructor
  · intro hall name value hget
    have hentry := hall _ (Assoc.mem_of_get? hget)
    cases hactual : actual.get? name with
    | none => simp [hactual] at hentry
    | some received =>
      simp only [hactual, compareLeaf_string_eq_nil_iff h] at hentry
      rw [hentry]
  · rintro hall ⟨name, value⟩ hm
    simp only [hall name value (Dict.get?_of_mem hm), compareLeaf_string_eq_nil_iff h]

theorem unexpectedAttributes_eq_nil_iff {place : DocPath} {expected actual : Dict String} :
    unexpectedAttributes place expected actual = [] ↔
      ∀ name value, actual.get? name = some value → expected.contains name = true := by
  rw [unexpectedAttributes, List.filterMap_eq_nil_iff]
  constructor
  · intro hall name value hget
    by_contra hnot
    have hnone := hall _ (Assoc.mem_of_get? hget)
    simp [hnot] at hnone
  · rintro hall ⟨name, value⟩ hm
    exact if_pos (hall name value (Dict.get?_of_mem hm))

/-- The attributes are as expected when they are the same. -/
theorem attributes_eq_nil_iff (h : rules.entries .body = []) {place : DocPath}
    {expected actual : Dict String} :
    expectedAttributes rules place expected actual = [] ∧
        unexpectedAttributes place expected actual = [] ↔ expected = actual := by
  rw [expectedAttributes_eq_nil_iff h, unexpectedAttributes_eq_nil_iff]
  constructor
  · rintro ⟨hexpected, hfurther⟩
    refine Dict.ext_get? fun name => Option.ext fun value => ⟨hexpected name value, fun hget => ?_⟩
    obtain ⟨found, hfound⟩ := Option.isSome_iff_exists.1 (hfurther name value hget)
    have hsame := hexpected name found hfound
    rw [hget] at hsame
    cases hsame
    exact hfound
  · rintro rfl
    exact ⟨fun _ _ hget => hget, fun _ _ hget => Option.isSome_iff_exists.2 ⟨_, hget⟩⟩

theorem compareText_eq_nil_iff (h : rules.entries .body = []) {place : DocPath}
    {expected actual : String} :
    compareText rules place false expected actual = [] ↔ expected = actual := by
  rw [compareText]
  split
  · next hempty =>
    simp only [Bool.false_eq_true, false_or, String.isEmpty_iff] at hempty
    exact iff_of_true rfl (hempty.1.trans hempty.2.symm)
  · exact compareLeaf_string_eq_nil_iff h _ _ _

/-! ## Children -/

/-- The check of an expected element tells whether a received one of its name is equivalent. -/
def Decides (rules : RuleTable) (e : Element) : Prop :=
  ∀ place a, e.name = a.name → (elementCheck rules e place a = [] ↔ e.Equivalent a)

theorem mem_withName {name : String} {es : List Element} {e : Element} :
    e ∈ withName name es ↔ e ∈ es ∧ e.name = name := by
  simp [withName]

theorem withName_eq_nil_iff {name : String} {es : List Element} :
    withName name es = [] ↔ name ∉ es.map Element.name := by
  simp [withName, List.filter_eq_nil_iff]

theorem pairedElements_eq_nil_iff {name : String} {es as : List Element}
    (hes : ∀ e ∈ es, Decides rules e ∧ e.name = name) (has : ∀ a ∈ as, a.name = name)
    (place : DocPath) (index : Nat) :
    es.length = as.length ∧ checkPaired place index (es.map (elementCheck rules)) as = [] ↔
      List.Forall₂ Element.Equivalent es as := by
  induction es generalizing as index with
  | nil => cases as <;> simp [checkPaired]
  | cons e es ih =>
    cases as with
    | nil => simp
    | cons a as =>
      obtain ⟨⟨hdecides, hname⟩, hrest⟩ := List.forall_mem_cons.1 hes
      obtain ⟨hname', hrest'⟩ := List.forall_mem_cons.1 has
      rw [List.map_cons, checkPaired, List.append_eq_nil_iff, List.length_cons, List.length_cons,
        Nat.add_right_cancel_iff, hdecides _ a (hname.trans hname'.symm), List.forall₂_cons,
        ← ih hrest hrest' (index + 1)]
      exact and_left_comm

/-- Siblings of one name are as expected when they are equivalent one by one. -/
theorem checkGroup_eq_nil_iff (h : rules.entries .body = []) {name : String} {es as : List Element}
    (hne : es ≠ []) (hes : ∀ e ∈ es, Decides rules e ∧ e.name = name)
    (has : ∀ a ∈ as, a.name = name) (place : DocPath) :
    checkGroup rules place name (es.map (elementCheck rules)) as = [] ↔
      List.Forall₂ Element.Equivalent es as := by
  rw [← pairedElements_eq_nil_iff hes has place 0, checkGroup, resolve_eq_none h]
  cases as with
  | nil => simp [allowsNone, hne]
  | cons a as =>
    by_cases hlength : es.length = as.length + 1
    · simp [typeOnly, hlength]
    · simp [typeOnly, hlength]

theorem checkGroups_eq_nil_iff (h : rules.entries .body = []) {es as : List Element}
    (hes : ∀ e ∈ es, Decides rules e) (place : DocPath) :
    checkGroups rules place (childChecks rules es) as = [] ↔
      ∀ n ∈ es.map Element.name,
        List.Forall₂ Element.Equivalent (withName n es) (withName n as) := by
  have hnames : (childChecks rules es).map Prod.fst = es.map Element.name := by
    rw [childChecks_eq_map, List.map_map]
    rfl
  rw [checkGroups, List.flatMap_eq_nil_iff, hnames]
  refine forall_congr' fun n => ?_
  rw [mem_distinct_iff]
  refine forall_congr' fun hn => ?_
  simp only [group_childChecks]
  exact checkGroup_eq_nil_iff h (mt withName_eq_nil_iff.1 (not_not.2 hn))
    (fun e he => ⟨hes e (mem_withName.1 he).1, (mem_withName.1 he).2⟩)
    (fun a ha => (mem_withName.1 ha).2) _

theorem unexpectedGroups_eq_nil_iff {place : DocPath} {es as : List Element} :
    unexpectedGroups place (childChecks rules es) as = [] ↔
      ∀ n ∈ as.map Element.name, n ∈ es.map Element.name := by
  have hexpected : ∀ n, ((childChecks rules es).any fun check => check.1 == n) = true ↔
      n ∈ es.map Element.name := by
    intro n
    simp [childChecks_eq_map]
  rw [unexpectedGroups, List.filterMap_eq_nil_iff]
  refine forall_congr' fun n => ?_
  rw [mem_distinct_iff, ← hexpected]
  refine forall_congr' fun _ => ?_
  split
  · next hfound => exact iff_of_true rfl hfound
  · next hnot => exact iff_of_false (by simp) hnot

/-- The children are as expected when those of every name are equivalent one by one. -/
theorem groups_eq_nil_iff (h : rules.entries .body = []) {es as : List Element}
    (hes : ∀ e ∈ es, Decides rules e) (place : DocPath) :
    checkGroups rules place (childChecks rules es) as = [] ∧
        unexpectedGroups place (childChecks rules es) as = [] ↔
      ∀ n, List.Forall₂ Element.Equivalent (withName n es) (withName n as) := by
  rw [checkGroups_eq_nil_iff h hes, unexpectedGroups_eq_nil_iff]
  constructor
  · rintro ⟨hgroups, hfurther⟩ n
    by_cases hn : n ∈ es.map Element.name
    · exact hgroups n hn
    · -- a name that is not expected is not received either
      rw [withName_eq_nil_iff.2 hn, withName_eq_nil_iff.2 (mt (hfurther n) hn)]
      exact .nil
  · intro hall
    refine ⟨fun n _ => hall n, fun n hn => ?_⟩
    by_contra hnot
    have hnone := hall n
    rw [withName_eq_nil_iff.2 hnot, List.forall₂_nil_left_iff] at hnone
    exact withName_eq_nil_iff.1 hnone hn

/-! ## Elements -/

mutual

theorem elementCheck_eq_nil_iff (h : rules.entries .body = []) : ∀ e : Element, Decides rules e
  | .mk name attributes text children, place, a, hname => by
    have hchildren := childChecks_decide h children
    rw [elementCheck, compareElement, resolve_eq_none h, Element.equivalent_iff]
    simp only [typeOnly, Option.any_none, Bool.false_eq_true, if_false, List.append_eq_nil_iff]
    rw [attributes_eq_nil_iff h, compareText_eq_nil_iff h, and_assoc, and_assoc,
      groups_eq_nil_iff h hchildren]
    exact (and_iff_right hname).symm

theorem childChecks_decide (h : rules.entries .body = []) :
    ∀ children : List Element, ∀ e ∈ children, Decides rules e
  | [], _, he => nomatch he
  | child :: children, e, he => by
    rcases List.mem_cons.1 he with h' | h'
    · rw [h']
      exact elementCheck_eq_nil_iff h child
    · exact childChecks_decide h children e h'

end

/-! ## The order of children -/

/-- Equivalence looks at the children of each name by themselves, on either side. -/
theorem equivalent_congr {e : Element} {name : String} {attributes : Dict String} {text : String}
    {children children' : List Element} (h : ∀ n, withName n children = withName n children') :
    (e.Equivalent (.mk name attributes text children) ↔
        e.Equivalent (.mk name attributes text children')) ∧
      ((Element.mk name attributes text children).Equivalent e ↔
        (Element.mk name attributes text children').Equivalent e) := by
  simp only [Element.equivalent_iff, Element.children, h]
  exact ⟨Iff.rfl, Iff.rfl⟩

/-- Two children of one name that are not equivalent cannot change places. -/
theorem not_equivalent_exchanged {x y : Element} (hname : x.name = y.name) (hxy : ¬ x.Equivalent y)
    (name : String) (attributes : Dict String) (text : String) (front mid back : List Element) :
    ¬ (Element.mk name attributes text (front ++ x :: (mid ++ y :: back))).Equivalent
      (.mk name attributes text (front ++ y :: (mid ++ x :: back))) := by
  intro h
  have hsiblings := (Element.equivalent_iff.1 h).2.2.2 x.name
  have hsplit : ∀ (z : Element) (rest : List Element), z.name = x.name →
      withName x.name (front ++ z :: rest) = withName x.name front ++ z :: withName x.name rest :=
    fun z rest hz => by simp [withName, hz]
  -- the children of the name that stand in front of both are as many on either side
  rw [Element.children, Element.children, hsplit x _ rfl, hsplit y _ hname.symm] at hsiblings
  have hat := hsiblings.get (i := (withName x.name front).length) (by simp) (by simp)
  simp only [List.get_eq_getElem, List.getElem_append_right (Nat.le_refl _), Nat.sub_self,
    List.getElem_cons_zero] at hat
  exact hxy hat

/-! ## Documents -/

/-- Without rules for bodies, a root element has no mismatches exactly when it is equivalent to the
    expected one. Any order among children of different names is as good as any other, and children
    of one name have theirs. -/
theorem matchXml_without_rules (h : rules.entries .body = []) :
    (∀ e a : Element, e.name = a.name ∧ elementCheck rules e (DocPath.root.field e.name) a = [] ↔
      e.Equivalent a) ∧
    (∀ expected actual e a, Xml.parse expected = .ok e → Xml.parse actual = .ok a →
      (matchXml rules expected actual = [] ↔ e.Equivalent a)) ∧
    (∀ (e : Element) name attributes text children children',
      (∀ n, withName n children = withName n children') →
      (e.Equivalent (.mk name attributes text children) ↔
        e.Equivalent (.mk name attributes text children')) ∧
      ((Element.mk name attributes text children).Equivalent e ↔
        (Element.mk name attributes text children').Equivalent e)) ∧
    ∀ (x y : Element), x.name = y.name → ¬ x.Equivalent y → ∀ name attributes text front mid back,
      ¬ (Element.mk name attributes text (front ++ x :: (mid ++ y :: back))).Equivalent
        (.mk name attributes text (front ++ y :: (mid ++ x :: back))) := by
  have hroots : ∀ e a : Element, e.name = a.name ∧
      elementCheck rules e (DocPath.root.field e.name) a = [] ↔ e.Equivalent a := by
    intro e a
    constructor
    · rintro ⟨hname, hpasses⟩
      exact (elementCheck_eq_nil_iff h e _ a hname).1 hpasses
    · intro hequivalent
      have hname := (Element.equivalent_iff.1 hequivalent).1
      exact ⟨hname, (elementCheck_eq_nil_iff h e _ a hname).2 hequivalent⟩
  refine ⟨hroots, fun expected actual e a he ha => ?_, fun _ _ _ _ _ _ => equivalent_congr,
    fun x y => not_equivalent_exchanged⟩
  rw [← hroots, matchXml, he, ha]
  by_cases hname : e.name = a.name
  · simp [hname]
  · simp [hname]

/-- An element of another name may stand before two of one name, which may not change places. -/
theorem matchXml_without_rules_order :
    let expected := Bytes.ofString "<a><b>1</b><c/><b>2</b></a>"
    let actual := Bytes.ofString "<a><c/><b>1</b><b>2</b></a>"
    let item (text : String) : Element := .mk "b" .empty text []
    RuleTable.empty.entries .body = [] ∧
    (∃ e a, Xml.parse expected = .ok e ∧ Xml.parse actual = .ok a ∧ e.Equivalent a) ∧
    ¬ (Element.mk "a" .empty "" [item "1", item "2"]).Equivalent
      (.mk "a" .empty "" [item "2", item "1"]) := by
  intro expected actual item
  have hrules : RuleTable.empty.entries .body = [] := rfl
  obtain ⟨-, hdocuments, -, hexchanged⟩ := matchXml_without_rules hrules
  obtain ⟨e, he⟩ := ok_of_toBool (x := Xml.parse expected) (by decide +kernel)
  obtain ⟨a, ha⟩ := ok_of_toBool (x := Xml.parse actual) (by decide +kernel)
  have hpasses : matchXml .empty expected actual = [] := by decide +kernel
  have hdiffer : ¬ (item "1").Equivalent (item "2") := fun h =>
    absurd (Element.equivalent_iff.1 h).2.2.1 (by decide)
  exact ⟨hrules, ⟨e, a, he, ha, (hdocuments _ _ e a he ha).1 hpasses⟩,
    hexchanged (item "1") (item "2") rfl hdiffer "a" .empty "" [] [] []⟩

end Matching

end MockProvider
