import MockProvider.Proofs.Rule.Locations
import MockProvider.Proofs.Rule.Tables

/-!
# The two forms of rules in documents

A declaration defines rules for a target: the path, the status, a header, a query parameter or a
place in the body. Declarations for different targets can be written by category, `byCategory`, or
under keys that begin with the category, `flat`. Both documents are read, or neither is, and the
tables that they are read as have the same lists: `ofJson_flat_byCategory`.

A reader adds the lists of the declarations to a table, one after another, in the order in which
the keys of the document stand: `declare`. Where no two declarations have one place this order does
not matter.
-/

namespace MockProvider

namespace RuleTable

/-! ## Declarations -/

/-- What rules are declared for. -/
inductive Target where
  | path
  | status
  | header (name : String)
  | query (name : String)
  | body (place : DocPath)

namespace Target

def category : Target → Category
  | .path => .path
  | .status => .status
  | .header _ => .header
  | .query _ => .query
  | .body _ => .body

/-- Where the category keeps the rules. -/
def place : Target → DocPath
  | .path => .root
  | .status => .root
  | .header name => namedPlace .header name
  | .query name => namedPlace .query name
  | .body place => place

/-- No name has an apostrophe, and indexes fit. -/
def Writable : Target → Prop
  | .path => True
  | .status => True
  | .header name => '\'' ∉ name.toList
  | .query name => '\'' ∉ name.toList
  | .body place => place.Writable

/-- The key among those of the category. -/
def key : Target → String
  | .path => ""
  | .status => ""
  | .header name => name
  | .query name => name
  | .body place => place.render

/-- The key in the flat form; that of a place in a body has `$.body` for the root sign. -/
def flatKey : Target → String
  | .path => "$.path"
  | .status => "$.status"
  | .header name => ((DocPath.root.field "header").field name).render
  | .query name => ((DocPath.root.field "query").field name).render
  | .body place => "$.body" ++ String.ofList (place.render.toList.drop 1)

/-- The path that the flat key is read as. -/
def flatPath : Target → DocPath
  | .path => ⟨[.field "path"]⟩
  | .status => ⟨[.field "status"]⟩
  | .header name => ⟨[.field "header", .field name]⟩
  | .query name => ⟨[.field "query", .field name]⟩
  | .body place => ⟨.field "body" :: place.steps⟩

end Target

/-- Rules that are defined for a target. -/
structure Declaration where
  target : Target
  definition : Json

/-- Each declaration has a place of its own and can be written. An empty object is no definition:
    it stands for no rules where a category has no names. -/
structure Declarable (ds : List Declaration) : Prop where
  distinct : (ds.map fun d => (d.target.category, d.target.place)).Nodup
  writable : ∀ d ∈ ds, d.target.Writable
  defined : ∀ d ∈ ds, d.definition ≠ .object []

/-- Declarations in the flat form. -/
def flat (ds : List Declaration) : Json :=
  .ofMembers (ds.map fun d => (d.target.flatKey, d.definition))

/-- The declarations for a category. -/
def declaredIn (ds : List Declaration) (category : Category) : List Declaration :=
  ds.filter fun d => d.target.category = category

/-- What is written for a category, when something is declared for it. -/
def sectionOf (ds : List Declaration) (category : Category) : Option Json :=
  match declaredIn ds category with
  | [] => none
  | first :: rest =>
    if category = .path ∨ category = .status then some first.definition
    else some (.ofMembers ((first :: rest).map fun d => (d.target.key, d.definition)))

/-- Declarations by category. -/
def byCategory (ds : List Declaration) : Json :=
  .ofMembers (Category.every.filterMap fun category =>
    (sectionOf ds category).map fun content => (category.name, content))

/-! ## Declaring one after another -/

def Declaration.list? (d : Declaration) : Option RuleList :=
  (RuleList.ofJson ⟨""⟩ d.definition).toOption

/-- The table with the lists of declarations, when all of them can be read. -/
def declare (t : RuleTable) : List Declaration → Option RuleTable
  | [] => some t
  | d :: ds => d.list?.bind fun list =>
      declare (t.addList d.target.category d.target.place list) ds

theorem declare_append (t : RuleTable) (ds es : List Declaration) :
    t.declare (ds ++ es) = (t.declare ds).bind fun next => next.declare es := by
  induction ds generalizing t with
  | nil => rfl
  | cons d ds ih =>
    rw [List.cons_append, declare, declare]
    cases d.list? with
    | none => rfl
    | some list => exact ih _

theorem declare_eq_none_iff {t : RuleTable} {ds : List Declaration} :
    t.declare ds = none ↔ ∃ d ∈ ds, d.list? = none := by
  induction ds generalizing t with
  | nil => simp [declare]
  | cons d ds ih =>
    rw [declare]
    cases hlist : d.list? with
    | none => simp [hlist]
    | some list => simp [hlist, ih]

theorem list?_addList_of_new {t : RuleTable} {category : Category} {path : DocPath}
    (h : t.list? category path = none) (list : RuleList) (other : Category) (place : DocPath) :
    (t.addList category path list).list? other place =
      if category = other ∧ path = place then some list else t.list? other place := by
  have hnew : path ∉ (t.entries category).map RuleEntry.path := by
    simpa [list?] using h
  rw [list?, list?, entries_addList]
  by_cases hcategory : category = other
  · subst hcategory
    rw [if_pos rfl, addTo_new hnew, List.find?_append]
    by_cases hpath : path = place
    · subst hpath
      have hnone : (t.entries category).find? (fun e => e.path = path) = none := by
        simpa [list?] using h
      simp [hnone]
    · simp [hpath]
  · rw [if_neg hcategory, if_neg fun hboth => hcategory hboth.1]

/-- The lists of a table that declarations with places of their own were added to. -/
theorem list?_declare {ds : List Declaration} {t t' : RuleTable}
    (hdistinct : (ds.map fun d => (d.target.category, d.target.place)).Nodup)
    (hnew : ∀ d ∈ ds, t.list? d.target.category d.target.place = none)
    (h : t.declare ds = some t') (category : Category) (place : DocPath) (list : RuleList) :
    t'.list? category place = some list ↔ t.list? category place = some list ∨
      ∃ d ∈ ds, d.target.category = category ∧ d.target.place = place ∧ d.list? = some list := by
  induction ds generalizing t with
  | nil =>
    cases h
    simp
  | cons d ds ih =>
    obtain ⟨first, hfirst, h⟩ := Option.bind_eq_some_iff.1 h
    obtain ⟨hother, hdistinct⟩ := List.nodup_cons.1 hdistinct
    obtain ⟨hnewFirst, hnew⟩ := List.forall_mem_cons.1 hnew
    have hlists := list?_addList_of_new hnewFirst first
    have hstill : ∀ e ∈ ds, (t.addList d.target.category d.target.place first).list?
        e.target.category e.target.place = none := by
      intro e he
      rw [hlists, if_neg, hnew e he]
      exact fun hsame => hother (List.mem_map.2 ⟨e, he, (Prod.ext hsame.1 hsame.2).symm⟩)
    rw [ih hdistinct hstill h, hlists]
    by_cases hplace : d.target.category = category ∧ d.target.place = place
    · obtain ⟨rfl, rfl⟩ := hplace
      simp [hnewFirst, hfirst]
    · have hskip : ¬ (d.target.category = category ∧ d.target.place = place ∧
          d.list? = some list) := fun hall => hplace ⟨hall.1, hall.2.1⟩
      simp [hplace, hskip]

/-! ## The flat form -/

namespace Target

theorem flatKey_eq_render (target : Target) : target.flatKey = target.flatPath.render := by
  cases target with
  | path => decide +kernel
  | status => decide +kernel
  | header name => rfl
  | query name => rfl
  | body place =>
    have hbody : (DocPath.Step.field "body").chars = ".body".toList := by decide +kernel
    have hdrop : place.render.toList.drop 1 = place.steps.flatMap DocPath.Step.chars := by
      rw [DocPath.render, String.toList_ofList]
      rfl
    rw [flatKey, flatPath, hdrop, DocPath.render, DocPath.chars, List.flatMap_cons, hbody]
    refine String.toList_inj.1 ?_
    simp only [String.toList_append, String.toList_ofList]
    rfl

theorem Writable.flatPath {target : Target} (h : target.Writable) : target.flatPath.Writable := by
  have hname : ∀ name : String, '\'' ∉ name.toList → (DocPath.Step.field name).Writable :=
    fun _ => id
  cases target with
  | path => exact List.forall_mem_singleton.2 (hname _ (by decide))
  | status => exact List.forall_mem_singleton.2 (hname _ (by decide))
  | header name =>
    exact List.forall_mem_cons.2 ⟨hname _ (by decide), List.forall_mem_singleton.2 h⟩
  | query name =>
    exact List.forall_mem_cons.2 ⟨hname _ (by decide), List.forall_mem_singleton.2 h⟩
  | body place => exact List.forall_mem_cons.2 ⟨hname _ (by decide), h⟩

theorem parse_flatKey {target : Target} (h : target.Writable) :
    DocPath.parse target.flatKey = .ok target.flatPath := by
  rw [flatKey_eq_render, DocPath.parse_render h.flatPath]

theorem flatPath_inj {a b : Target} (h : a.flatPath = b.flatPath) : a = b := by
  cases a with
  | body place =>
    cases b with
    | body other =>
      cases place
      cases other
      simp_all [flatPath]
    | _ => simp_all [flatPath]
  | _ => cases b <;> simp_all [flatPath]

end Target

theorem addFlat_flatPath (t : RuleTable) (target : Target) (list : RuleList) :
    t.addFlat target.flatPath list = t.addList target.category target.place list := by
  cases target <;> rfl

theorem toOption_readFlat (location : Location) {ds : List Declaration}
    (h : ∀ d ∈ ds, d.target.Writable) (t : RuleTable) :
    (readFlat location t (ds.map fun d => (d.target.flatKey, d.definition))).toOption =
      t.declare ds := by
  induction ds generalizing t with
  | nil => rfl
  | cons d ds ih =>
    obtain ⟨hd, h⟩ := List.forall_mem_cons.1 h
    simp only [List.map_cons, readFlat, Target.parse_flatKey hd]
    rw [toOption_bind, RuleList.toOption_ofJson _ ⟨""⟩, declare]
    congr 1
    funext list
    rw [addFlat_flatPath]
    exact ih h _

theorem nodup_map_of_inj {α β γ : Type} {f : α → β} {g : α → γ} {xs : List α}
    (h : (xs.map f).Nodup) (hinj : ∀ x ∈ xs, ∀ y ∈ xs, g x = g y → f x = f y) :
    (xs.map g).Nodup := by
  rw [List.Nodup, List.pairwise_map] at h ⊢
  exact h.imp_of_mem fun hx hy hne heq => hne (hinj _ hx _ hy heq)

theorem Declarable.flatKeys {ds : List Declaration} (h : Declarable ds) :
    (ds.map fun d => d.target.flatKey).Nodup := by
  refine nodup_map_of_inj h.distinct fun d hd e he hkey => ?_
  have hread := Target.parse_flatKey (h.writable d hd)
  rw [hkey, Target.parse_flatKey (h.writable e he)] at hread
  rw [Target.flatPath_inj (Except.ok.inj hread)]

/-- The flat form is read by declaring all, in some order. -/
theorem Declarable.toOption_ofJson_flat {ds : List Declaration} (h : Declarable ds)
    (location : Location) :
    ∃ es, es.Perm ds ∧ (ofJson location (flat ds)).toOption = empty.declare es := by
  obtain ⟨es, hperm, hmembers⟩ := Assoc.exists_perm_ofList (fun d => d.target.flatKey)
    Declaration.definition h.flatKeys
  refine ⟨es, hperm, ?_⟩
  rw [flat, Json.ofMembers, hmembers]
  cases es with
  | nil => rfl
  | cons e es =>
    have hflat : isFlatKey e.target.flatKey = true := by
      rw [Target.flatKey_eq_render, DocPath.render, isFlatKey, String.toList_ofList]
      rfl
    have hread := toOption_readFlat location
      (fun d hd => h.writable d (hperm.mem_iff.1 hd)) empty
    rw [ofJson, if_pos]
    · exact hread
    · rw [List.map_cons, List.any_cons, hflat, Bool.true_or]

/-! ## The form by category -/

theorem toOption_readNamed (location : Location) {category : Category} {ds : List Declaration}
    (hcategory : ∀ d ∈ ds, d.target.category = category)
    (hnamed : category ≠ .path ∧ category ≠ .status)
    (h : ∀ d ∈ ds, d.target.Writable) (t : RuleTable) :
    (readNamed location category t (ds.map fun d => (d.target.key, d.definition))).toOption =
      t.declare ds := by
  induction ds generalizing t with
  | nil => rfl
  | cons d ds ih =>
    obtain ⟨rfl, hcategory⟩ := List.forall_mem_cons.1 hcategory
    obtain ⟨hd, h⟩ := List.forall_mem_cons.1 h
    simp only [List.map_cons, readNamed]
    rw [toOption_bind, RuleList.toOption_ofJson _ ⟨""⟩, declare]
    congr 1
    funext list
    have hnext := ih hcategory h (t.addList d.target.category d.target.place list)
    obtain ⟨target, definition⟩ := d
    cases target with
    | path => exact absurd rfl hnamed.1
    | status => exact absurd rfl hnamed.2
    | header name => exact hnext
    | query name => exact hnext
    | body place =>
      have hread : DocPath.parse (Target.body place).key = .ok place := DocPath.parse_render hd
      rw [hread]
      exact hnext

theorem Target.place_eq_of_key {a b : Target} (ha : a.Writable) (hb : b.Writable)
    (hcategory : a.category = b.category) (hkey : a.key = b.key) : a.place = b.place := by
  cases a with
  | path =>
    cases b with
    | path => rfl
    | _ => cases hcategory
  | status =>
    cases b with
    | status => rfl
    | _ => cases hcategory
  | header name =>
    cases b with
    | header other => exact congrArg (namedPlace .header) hkey
    | _ => cases hcategory
  | query name =>
    cases b with
    | query other => exact congrArg (namedPlace .query) hkey
    | _ => cases hcategory
  | body place =>
    cases b with
    | body other =>
      have hread : DocPath.parse (Target.body place).key = .ok place := DocPath.parse_render ha
      have hother : DocPath.parse (Target.body other).key = .ok other := DocPath.parse_render hb
      rw [hkey, hother] at hread
      exact (Except.ok.inj hread).symm
    | _ => cases hcategory

theorem mem_declaredIn {ds : List Declaration} {category : Category} {d : Declaration} :
    d ∈ declaredIn ds category ↔ d ∈ ds ∧ d.target.category = category := by
  simp [declaredIn]

theorem Declarable.keys {ds : List Declaration} (h : Declarable ds) (category : Category) :
    ((declaredIn ds category).map fun d => d.target.key).Nodup := by
  refine nodup_map_of_inj (h.distinct.sublist (List.filter_sublist.map _))
    fun d hd e he hkey => ?_
  obtain ⟨hd, hdc⟩ := mem_declaredIn.1 hd
  obtain ⟨he, hec⟩ := mem_declaredIn.1 he
  have hcategory := hdc.trans hec.symm
  exact Prod.ext hcategory
    (Target.place_eq_of_key (h.writable d hd) (h.writable e he) hcategory hkey)

/-- A category without names has one declaration at most. -/
theorem Declarable.declaredIn_whole {ds : List Declaration} (h : Declarable ds)
    {category : Category} (hwhole : category = .path ∨ category = .status)
    (hne : declaredIn ds category ≠ []) :
    ∃ d, declaredIn ds category = [d] ∧ d.target.place = .root := by
  have hroot : ∀ d ∈ declaredIn ds category,
      d.target.category = category ∧ d.target.place = .root := by
    intro d hd
    have hcategory := (mem_declaredIn.1 hd).2
    refine ⟨hcategory, ?_⟩
    obtain ⟨target, _⟩ := d
    cases target <;> rcases hwhole with rfl | rfl <;> first | rfl | cases hcategory
  have hdistinct : ((declaredIn ds category).map fun d =>
      (d.target.category, d.target.place)).Nodup := h.distinct.sublist (List.filter_sublist.map _)
  match hof : declaredIn ds category with
  | [] => exact absurd hof hne
  | [d] => exact ⟨d, rfl, (hroot d (hof ▸ List.mem_cons_self)).2⟩
  | d :: e :: _ =>
    rw [hof] at hroot hdistinct
    obtain ⟨hdc, hdp⟩ := hroot d (by simp)
    obtain ⟨hec, hep⟩ := hroot e (by simp)
    simp [hdc, hdp, hec, hep] at hdistinct

/-- What is written for a category is read by declaring what is declared for it. -/
theorem Declarable.toOption_readCategory {ds : List Declaration} (h : Declarable ds)
    (location : Location) {category : Category} {content : Json}
    (hcontent : sectionOf ds category = some content) :
    ∃ es, es.Perm (declaredIn ds category) ∧
      ∀ t, (readCategory location category t content).toOption = t.declare es := by
  have hne : declaredIn ds category ≠ [] := by
    intro hnil
    rw [sectionOf, hnil] at hcontent
    cases hcontent
  by_cases hwhole : category = .path ∨ category = .status
  · obtain ⟨d, hd, hplace⟩ := h.declaredIn_whole hwhole hne
    have hmem := mem_declaredIn.1 (hd ▸ List.mem_cons_self : d ∈ declaredIn ds category)
    have hdefinition : d.definition = content := by
      rw [sectionOf, hd] at hcontent
      simpa [hwhole] using hcontent
    refine ⟨[d], by rw [hd], fun t => ?_⟩
    have hdefined := h.defined d hmem.1
    rw [hdefinition] at hdefined
    unfold readCategory
    rw [if_pos hwhole]
    split
    · exact absurd rfl hdefined
    · rw [toOption_map, RuleList.toOption_ofJson _ ⟨""⟩, declare, Declaration.list?, hdefinition,
        hmem.2, hplace]
      cases (RuleList.ofJson ⟨""⟩ content).toOption <;> rfl
  · obtain ⟨es, hperm, hmembers⟩ := Assoc.exists_perm_ofList (fun d => d.target.key)
      Declaration.definition (h.keys category)
    refine ⟨es, hperm, fun t => ?_⟩
    have hwritten : content = .object (es.map fun d => (d.target.key, d.definition)) := by
      obtain ⟨first, rest, hof⟩ := List.exists_cons_of_ne_nil hne
      rw [← hmembers, hof]
      rw [sectionOf, hof] at hcontent
      simpa [hwhole, Json.ofMembers] using hcontent.symm
    have hof := fun d (hd : d ∈ es) => mem_declaredIn.1 (hperm.mem_iff.1 hd)
    have hread := toOption_readNamed location (fun d hd => (hof d hd).2) (not_or.1 hwhole)
      (fun d hd => h.writable d (hof d hd).1) t
    unfold readCategory
    rw [if_neg hwhole, hwritten]
    exact hread

theorem Declarable.toOption_readCategories {ds : List Declaration} (h : Declarable ds)
    (location : Location) (content : Category → Json) {categories : List Category}
    (hcontent : ∀ category ∈ categories, sectionOf ds category = some (content category)) :
    ∃ es, es.Perm (categories.flatMap fun category => declaredIn ds category) ∧ ∀ t,
      (readCategories location t
        (categories.map fun category => (category.name, content category))).toOption =
          t.declare es := by
  induction categories with
  | nil => exact ⟨[], List.Perm.refl _, fun _ => rfl⟩
  | cons category categories ih =>
    obtain ⟨hfirst, hcontent⟩ := List.forall_mem_cons.1 hcontent
    obtain ⟨es, hes, hread⟩ := h.toOption_readCategory (location.field category.name) hfirst
    obtain ⟨rest, hrest, hreadRest⟩ := ih hcontent
    refine ⟨es ++ rest, hes.append hrest, fun t => ?_⟩
    rw [List.map_cons, readCategories, Category.named?_name, declare_append, ← hread]
    simp only [toOption_bind, hreadRest]

/-- Put together again, the declarations for all categories are the declarations. -/
theorem Declarable.declaredIn_perm {ds : List Declaration} (h : Declarable ds)
    {categories : List Category} (hnodup : categories.Nodup)
    (hall : ∀ d ∈ ds, d.target.category ∈ categories) :
    (categories.flatMap fun category => declaredIn ds category).Perm ds := by
  have hds : ds.Nodup := .of_map _ h.distinct
  refine (List.perm_ext_iff_of_nodup ?_ hds).2 fun d => ?_
  · refine List.nodup_flatMap.2 ⟨fun category _ => hds.filter _, hnodup.imp ?_⟩
    intro a b hne d hda hdb
    exact hne ((mem_declaredIn.1 hda).2.symm.trans (mem_declaredIn.1 hdb).2)
  · rw [List.mem_flatMap]
    constructor
    · rintro ⟨category, -, hd⟩
      exact (mem_declaredIn.1 hd).1
    · exact fun hd => ⟨d.target.category, hall d hd, mem_declaredIn.2 ⟨hd, rfl⟩⟩

theorem sectionOf_eq_none_iff {ds : List Declaration} {category : Category} :
    sectionOf ds category = none ↔ declaredIn ds category = [] := by
  rw [sectionOf]
  split
  · next hnil => simp [hnil]
  · next hcons => split <;> simp [hcons]

/-- The categories that are written, each with what is written for it. -/
theorem filterMap_sectionOf (ds : List Declaration) (categories : List Category) :
    (categories.filterMap fun category =>
        (sectionOf ds category).map fun content => (category.name, content)) =
      (categories.filter fun category => (sectionOf ds category).isSome).map fun category =>
        (category.name, (sectionOf ds category).getD .null) := by
  induction categories with
  | nil => rfl
  | cons category categories ih => cases hsection : sectionOf ds category <;> simp [hsection, ih]

/-- The form by category is read by declaring all, in some order. -/
theorem Declarable.toOption_ofJson_byCategory {ds : List Declaration} (h : Declarable ds)
    (location : Location) :
    ∃ es, es.Perm ds ∧ (ofJson location (byCategory ds)).toOption = empty.declare es := by
  have hevery : (Category.every.filter fun category => (sectionOf ds category).isSome).Nodup :=
    List.Nodup.filter _ (by decide)
  obtain ⟨categories, hperm, hwritten⟩ := Assoc.exists_perm_ofList Category.name
    (fun category => (sectionOf ds category).getD .null)
    (hevery.map fun _ _ => Category.name_inj)
  have hsome : ∀ category ∈ categories,
      sectionOf ds category = some ((sectionOf ds category).getD .null) := by
    intro category hmem
    have hsome := (List.mem_filter.1 (hperm.mem_iff.1 hmem)).2
    obtain ⟨value, hvalue⟩ := Option.isSome_iff_exists.1 hsome
    rw [hvalue, Option.getD_some]
  have hall : ∀ d ∈ ds, d.target.category ∈ categories := by
    intro d hd
    refine hperm.mem_iff.2 (List.mem_filter.2 ⟨Category.mem_every _, ?_⟩)
    rw [Option.isSome_iff_ne_none, Ne, sectionOf_eq_none_iff]
    exact List.ne_nil_of_mem (mem_declaredIn.2 ⟨hd, rfl⟩)
  obtain ⟨es, hes, hread⟩ := h.toOption_readCategories location _ hsome
  refine ⟨es, hes.trans (h.declaredIn_perm (hperm.nodup_iff.2 hevery) hall), ?_⟩
  rw [byCategory, filterMap_sectionOf, Json.ofMembers, hwritten, ← hread]
  -- no key looks like a path, so the document is not taken for a flat one
  have hflat : (categories.map fun category =>
        (category.name, (sectionOf ds category).getD .null)).any
      (fun member => isFlatKey member.1) = false := by
    refine List.any_eq_false.2 fun member hmember => ?_
    obtain ⟨category, -, rfl⟩ := List.mem_map.1 hmember
    exact Bool.eq_false_iff.1 category.isFlatKey_name
  rw [ofJson, if_neg (Bool.eq_false_iff.1 hflat)]

/-! ## Both forms -/

/-- In whichever order all is declared, the table has the lists of the declarations. -/
theorem Declarable.list?_of_declare {ds es : List Declaration} (h : Declarable ds)
    (hperm : es.Perm ds) {t : RuleTable} (ht : empty.declare es = some t) (category : Category)
    (place : DocPath) (list : RuleList) :
    t.list? category place = some list ↔
      ∃ d ∈ ds, d.target.category = category ∧ d.target.place = place ∧ d.list? = some list := by
  have hempty : ∀ category place, empty.list? category place = none := fun category place => by
    cases category <;> rfl
  rw [list?_declare ((hperm.map _).nodup_iff.2 h.distinct) (fun _ _ => hempty _ _) ht, hempty]
  simp [hperm.mem_iff]

/-- Declarations are read from both forms with the same lists, or from neither when the definition
    of one of them cannot be read. -/
theorem ofJson_flat_byCategory {ds : List Declaration} (h : Declarable ds)
    (location location' : Location) :
    ((∃ d ∈ ds, ∃ e, RuleList.ofJson location d.definition = .error e) ∧
      (∃ e, ofJson location (flat ds) = .error e) ∧
        ∃ e, ofJson location' (byCategory ds) = .error e) ∨
    ∃ t t', ofJson location (flat ds) = .ok t ∧ ofJson location' (byCategory ds) = .ok t' ∧
      t.SameLists t' ∧ ∀ d ∈ ds, ∃ list, RuleList.ofJson location d.definition = .ok list ∧
        t.list? d.target.category d.target.place = some list := by
  obtain ⟨es, hperm, hread⟩ := h.toOption_ofJson_flat location
  obtain ⟨es', hperm', hread'⟩ := h.toOption_ofJson_byCategory location'
  have hdefinition : ∀ d : Declaration,
      (RuleList.ofJson location d.definition).toOption = d.list? :=
    fun d => RuleList.toOption_ofJson location ⟨""⟩ d.definition
  by_cases hbad : ∃ d ∈ ds, d.list? = none
  · obtain ⟨d, hd, hnone⟩ := hbad
    rw [declare_eq_none_iff.2 ⟨d, hperm.mem_iff.2 hd, hnone⟩] at hread
    rw [declare_eq_none_iff.2 ⟨d, hperm'.mem_iff.2 hd, hnone⟩] at hread'
    exact Or.inl ⟨⟨d, hd, exists_error_of_toOption ((hdefinition d).trans hnone)⟩,
      exists_error_of_toOption hread, exists_error_of_toOption hread'⟩
  · have hall : ∀ {fs : List Declaration}, fs.Perm ds → ∃ t, empty.declare fs = some t := by
      intro fs hfs
      rw [← Option.ne_none_iff_exists', Ne, declare_eq_none_iff]
      rintro ⟨d, hd, hnone⟩
      exact hbad ⟨d, hfs.mem_iff.1 hd, hnone⟩
    obtain ⟨t, ht⟩ := hall hperm
    obtain ⟨t', ht'⟩ := hall hperm'
    have hlists := h.list?_of_declare hperm ht
    refine Or.inr ⟨t, t', eq_ok_of_toOption (hread.trans ht), eq_ok_of_toOption (hread'.trans ht'),
      fun category place => Option.ext fun list => ?_, fun d hd => ?_⟩
    · rw [hlists, h.list?_of_declare hperm' ht']
    · obtain ⟨list, hlist⟩ := Option.ne_none_iff_exists'.1 fun hnone => hbad ⟨d, hd, hnone⟩
      exact ⟨list, eq_ok_of_toOption ((hdefinition d).trans hlist),
        (hlists _ _ _).2 ⟨d, hd, rfl, rfl, hlist⟩⟩

/-- Declarations in all categories, with names that are written in quotes, a wildcard and two
    headers that differ in more than their case. -/
def sampleDeclarations : List Declaration :=
  [⟨.body ⟨[.field "a b", .anyIndex, .field "id"]⟩, .object [("min", .number (.ofNat 2))]⟩,
    ⟨.header "X-Id", .object [("match", .string "type")]⟩,
    ⟨.header "x id", .object [("combine", .string "OR"), ("matchers", .array [])]⟩,
    ⟨.body .root, .object [("match", .string "equality")]⟩,
    ⟨.query "", .object [("match", .string "include"), ("value", .string "q")]⟩,
    ⟨.status, .object [("match", .string "type")]⟩,
    ⟨.path, .object [("match", .string "type")]⟩]

theorem declarable_sampleDeclarations : Declarable sampleDeclarations where
  distinct := by decide +kernel
  writable := by
    simp [sampleDeclarations, Target.Writable, DocPath.Writable, DocPath.Step.Writable,
      DocPath.root]
  defined := by
    simp [sampleDeclarations]

theorem ofJson_flat_byCategory_sample :
    Declarable sampleDeclarations ∧ ∃ t t', ofJson ⟨"a"⟩ (flat sampleDeclarations) = .ok t ∧
      ofJson ⟨"b"⟩ (byCategory sampleDeclarations) = .ok t' ∧ t.SameLists t' ∧
        ∀ d ∈ sampleDeclarations, ∃ list, RuleList.ofJson ⟨"a"⟩ d.definition = .ok list ∧
          t.list? d.target.category d.target.place = some list := by
  refine ⟨declarable_sampleDeclarations,
    (ofJson_flat_byCategory declarable_sampleDeclarations ⟨"a"⟩ ⟨"b"⟩).resolve_left ?_⟩
  rintro ⟨-, ⟨e, he⟩, -⟩
  have hread : (ofJson ⟨"a"⟩ (flat sampleDeclarations)).toBool = true := by decide +kernel
  rw [he] at hread
  cases hread

end RuleTable

end MockProvider
