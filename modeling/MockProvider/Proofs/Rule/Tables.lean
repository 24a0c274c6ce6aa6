import MockProvider.Proofs.Rule.WellFormed
import MockProvider.Proofs.Text.Ascii

/-!
# Reading back tables of rules

A well-formed table is read back from its document as `RuleTable.sorted`: with the same lists at
the same paths, and the entries of each category in the order of their keys. Paths in bodies have
to be readable in their written form. The sorted table is written the same way.
-/

namespace MockProvider

/-! ## Keys -/

namespace Category

theorem mem_every (category : Category) : category ∈ every := by
  cases category <;> decide

theorem named?_name (category : Category) : named? category.name = some category := by
  cases category <;> rfl

theorem name_inj {a b : Category} (h : a.name = b.name) : a = b := by
  have hread := named?_name a
  rw [h, named?_name] at hread
  exact (Option.some.inj hread).symm

/-- Names of categories do not look like paths. -/
theorem isFlatKey_name (category : Category) : RuleTable.isFlatKey category.name = false := by
  cases category <;> rfl

end Category

namespace RuleTable

def writtenKey (category : Category) (path : DocPath) : String :=
  if category = .body then path.render else nameKey path

/-- The path that a key in a document stands for. -/
def keyPath? (category : Category) (key : String) : Option DocPath :=
  if category = .body then (DocPath.parse key).toOption else some (namedPlace category key)

/-- No name in the paths of a body has an apostrophe. -/
def Unquoted (t : RuleTable) : Prop :=
  ∀ e ∈ t.body, e.path.Unquoted

theorem namedPlace_lower (name : String) :
    namedPlace .header (Ascii.lower name) = namedPlace .header name := by
  rw [namedPlace, namedPlace, if_pos rfl, if_pos rfl, Ascii.lower_lower]

theorem keyPath?_writtenKey {category : Category} {path : DocPath}
    (hnamed : category ≠ .path ∧ category ≠ .status) (h : category.Holds path)
    (hbody : category = .body → path.Writable) :
    keyPath? category (writtenKey category path) = some path := by
  cases category with
  | path => exact absurd rfl hnamed.1
  | status => exact absurd rfl hnamed.2
  | query =>
    obtain ⟨name, rfl⟩ := h
    rfl
  | header =>
    obtain ⟨name, rfl⟩ := h
    exact congrArg some (namedPlace_lower name)
  | body =>
    have hread := DocPath.parse_render (hbody rfl)
    rw [keyPath?, writtenKey, if_pos rfl, if_pos rfl, hread]
    rfl

/-- Paths that are written under one key are equal. -/
theorem writtenKey_inj {category : Category} {p q : DocPath} (hp : category.Holds p)
    (hq : category.Holds q) (hbody : category = .body → p.Writable ∧ q.Writable)
    (h : writtenKey category p = writtenKey category q) : p = q := by
  by_cases hwhole : category = .path ∨ category = .status
  · rcases hwhole with rfl | rfl <;> exact hp.trans hq.symm
  · have hread := keyPath?_writtenKey (not_or.1 hwhole) hp fun hb => (hbody hb).1
    rw [h, keyPath?_writtenKey (not_or.1 hwhole) hq fun hb => (hbody hb).2] at hread
    exact (Option.some.inj hread).symm

theorem WellFormed.writable {t : RuleTable} (h : t.WellFormed) (hu : t.Unquoted)
    {category : Category} {e : RuleEntry} (he : e ∈ t.entries category) (hbody : category = .body) :
    e.path.Writable := by
  subst hbody
  exact (hu e he).writable (h.held .body e he)

theorem WellFormed.nodup_keys {t : RuleTable} (h : t.WellFormed) (hu : t.Unquoted)
    (category : Category) :
    ((t.entries category).map fun e => writtenKey category e.path).Nodup := by
  have hpaths := h.distinct category
  rw [← Function.comp_def (writtenKey category) RuleEntry.path, ← List.map_map]
  refine hpaths.map_on fun p hp q hq heq => ?_
  obtain ⟨e, he, rfl⟩ := List.mem_map.1 hp
  obtain ⟨f, hf, rfl⟩ := List.mem_map.1 hq
  exact writtenKey_inj (h.held category e he) (h.held category f hf)
    (fun hb => ⟨h.writable hu he hb, h.writable hu hf hb⟩) heq

/-! ## Tables in the order of their keys -/

/-- Entries of a category with their keys, in the order of these. -/
def keyed (category : Category) (es : List RuleEntry) : List (String × RuleEntry) :=
  Assoc.ofList (es.map fun e => (writtenKey category e.path, e))

/-- Entries of a category in the order of their keys. -/
def sortedEntries (category : Category) (es : List RuleEntry) : List RuleEntry :=
  (keyed category es).map Prod.snd

/-- The table with the entries of each category in the order of their keys. -/
def sorted (t : RuleTable) : RuleTable where
  path := sortedEntries .path t.path
  query := sortedEntries .query t.query
  header := sortedEntries .header t.header
  body := sortedEntries .body t.body
  status := sortedEntries .status t.status

theorem entries_sorted (t : RuleTable) (category : Category) :
    t.sorted.entries category = sortedEntries category (t.entries category) := by
  cases category <;> rfl

theorem WellFormed.keyed_perm {t : RuleTable} (h : t.WellFormed) (hu : t.Unquoted)
    (category : Category) :
    (keyed category (t.entries category)).Perm
      ((t.entries category).map fun e => (writtenKey category e.path, e)) := by
  refine Assoc.ofList_perm ?_
  rw [List.map_map]
  exact h.nodup_keys hu category

theorem WellFormed.sorted_perm {t : RuleTable} (h : t.WellFormed) (hu : t.Unquoted)
    (category : Category) : (t.sorted.entries category).Perm (t.entries category) := by
  have hperm := (h.keyed_perm hu category).map Prod.snd
  rw [List.map_map] at hperm
  rw [entries_sorted]
  exact hperm.trans (List.map_id _ ▸ List.Perm.refl _)

theorem WellFormed.sorted {t : RuleTable} (h : t.WellFormed) (hu : t.Unquoted) :
    t.sorted.WellFormed where
  distinct category := ((h.sorted_perm hu category).map RuleEntry.path).nodup_iff.2 (h.distinct category)
  held category e he := h.held category e ((h.sorted_perm hu category).mem_iff.1 he)
  bounded category e he := h.bounded category e ((h.sorted_perm hu category).mem_iff.1 he)

/-! ## Tables as maps -/

def list? (t : RuleTable) (category : Category) (path : DocPath) : Option RuleList :=
  ((t.entries category).find? fun e => e.path = path).map RuleEntry.list

/-- Two tables have the same lists at the same paths of all categories. -/
def SameLists (a b : RuleTable) : Prop :=
  ∀ category path, a.list? category path = b.list? category path

theorem WellFormed.list?_eq_some_iff {t : RuleTable} (h : t.WellFormed) {category : Category}
    {path : DocPath} {list : RuleList} :
    t.list? category path = some list ↔ (⟨path, list⟩ : RuleEntry) ∈ t.entries category := by
  have hdistinct := h.distinct category
  rw [list?]
  generalize t.entries category = es at hdistinct
  induction es with
  | nil => simp
  | cons e es ih =>
    obtain ⟨hnew, hrest⟩ := List.nodup_cons.1 hdistinct
    obtain ⟨path', list'⟩ := e
    -- no other entry has the path of the first one, so the search may end there
    by_cases hpath : path' = path
    · subst hpath
      have hother : (⟨path', list⟩ : RuleEntry) ∉ es := fun hm => hnew (List.mem_map.2 ⟨_, hm, rfl⟩)
      simp [hother, eq_comm]
    · have hne : ¬ path = path' := fun heq => hpath heq.symm
      simpa [hpath, hne] using ih hrest

/-- Sorting keeps the list at every path. -/
theorem WellFormed.sameLists_sorted {t : RuleTable} (h : t.WellFormed) (hu : t.Unquoted) :
    t.SameLists t.sorted := by
  intro category path
  refine Option.ext fun list => ?_
  rw [h.list?_eq_some_iff, (h.sorted hu).list?_eq_some_iff, (h.sorted_perm hu category).mem_iff]

/-! ## What is written -/

theorem mapValues_keyed (category : Category) (es : List RuleEntry) :
    Assoc.mapValues (fun e => e.list.toJson) (keyed category es) =
      Assoc.ofList (es.map fun e => (writtenKey category e.path, e.list.toJson)) := by
  rw [keyed, ← Assoc.ofList_mapValues, Assoc.mapValues, List.map_map]
  rfl

/-- What is written for a category in which rules have names or paths. -/
theorem categoryJson_named {t : RuleTable} {category : Category}
    (hnamed : category ≠ .path ∧ category ≠ .status) (hne : t.entries category ≠ []) :
    t.categoryJson category =
      some (.object (Assoc.mapValues (fun e => e.list.toJson)
        (keyed category (t.entries category)))) := by
  obtain ⟨first, rest, hentries⟩ := List.exists_cons_of_ne_nil hne
  rw [mapValues_keyed, categoryJson, hentries]
  cases category with
  | path => exact absurd rfl hnamed.1
  | status => exact absurd rfl hnamed.2
  | query => rfl
  | header => rfl
  | body => rfl

theorem WellFormed.entries_whole {t : RuleTable} (h : t.WellFormed) {category : Category}
    (hwhole : category = .path ∨ category = .status) (hne : t.entries category ≠ []) :
    ∃ list, t.entries category = [⟨.root, list⟩] ∧ list.Bounded := by
  have hroot : ∀ e ∈ t.entries category, e.path = .root := fun e he => by
    have hheld := h.held category e he
    rcases hwhole with rfl | rfl <;> exact hheld
  have hdistinct := h.distinct category
  have hbounded := h.bounded category
  -- all entries are at the root and no two at one path, so there is one at most
  match hentries : t.entries category with
  | [] => exact absurd hentries hne
  | [e] =>
    rw [hentries] at hroot hbounded
    have hpath := hroot e List.mem_cons_self
    obtain ⟨path, list⟩ := e
    obtain rfl : path = .root := hpath
    exact ⟨list, rfl, hbounded _ List.mem_cons_self⟩
  | e :: f :: es =>
    rw [hentries] at hroot hdistinct
    have hsame : e.path = f.path :=
      (hroot e List.mem_cons_self).trans (hroot f (List.mem_cons_of_mem _ List.mem_cons_self)).symm
    simp [hsame] at hdistinct

/-! ## Reading it back -/

/-- A member is read to the place that its key stands for. Keys are parsed as paths in bodies only;
    elsewhere they are names. -/
theorem readNamed_cons {location : Location} {category : Category} {key : String}
    {definition : Json} {path : DocPath} {list : RuleList}
    (hkey : keyPath? category key = some path)
    (hlist : RuleList.ofJson (location.key key) definition = .ok list) (t : RuleTable)
    (members : List (String × Json)) :
    readNamed location category t ((key, definition) :: members) =
      readNamed location category (t.addList category path list) members := by
  simp only [readNamed, hlist, bind, Except.bind]
  by_cases hbody : category = .body
  · rw [keyPath?, if_pos hbody] at hkey
    rw [if_pos hbody]
    cases hparse : DocPath.parse key with
    | error e =>
      rw [hparse] at hkey
      cases hkey
    | ok read =>
      rw [hparse] at hkey
      cases hkey
      rfl
  · rw [keyPath?, if_neg hbody] at hkey
    rw [if_neg hbody, Option.some.inj hkey]

/-- A list at a new path opens an entry at the end, and leaves the other categories alone. -/
theorem addList_new {t : RuleTable} {category : Category} {path : DocPath}
    (hnew : path ∉ (t.entries category).map RuleEntry.path) (list : RuleList) :
    t.addList category path list =
      t.withEntries category (t.entries category ++ [⟨path, list⟩]) := by
  rw [addList, addTo_new hnew]

theorem withEntries_withEntries (t : RuleTable) (category : Category) (es fs : List RuleEntry) :
    (t.withEntries category es).withEntries category fs = t.withEntries category fs := by
  cases category <;> rfl

theorem withEntries_entries (t : RuleTable) (category : Category) :
    t.withEntries category (t.entries category) = t := by
  cases category <;> rfl

/-- Entries at new paths are read back and go to the end. -/
theorem readNamed_toJson (location : Location) {category : Category}
    {entries : List (String × RuleEntry)}
    (hread : ∀ entry ∈ entries, keyPath? category entry.1 = some entry.2.path ∧ entry.2.list.Bounded) :
    ∀ {t : RuleTable}, ((t.entries category ++ entries.map Prod.snd).map RuleEntry.path).Nodup →
      readNamed location category t (Assoc.mapValues (fun e => e.list.toJson) entries) =
        .ok (t.withEntries category (t.entries category ++ entries.map Prod.snd)) := by
  induction entries with
  | nil =>
    intro t _
    rw [List.map_nil, List.append_nil, withEntries_entries]
    rfl
  | cons entry entries ih =>
    intro t hdistinct
    obtain ⟨key, path, list⟩ := entry
    obtain ⟨⟨hkey, hbounded⟩, hread⟩ := List.forall_mem_cons.1 hread
    have hnew : path ∉ (t.entries category).map RuleEntry.path := by
      rw [List.map_append, List.nodup_append] at hdistinct
      exact fun hm => hdistinct.2.2 path hm path List.mem_cons_self rfl
    have hentries : (t.addList category path list).entries category =
        t.entries category ++ [⟨path, list⟩] := by
      rw [entries_addList, if_pos rfl, addTo_new hnew]
    have hnext := ih hread (t := t.addList category path list) (by
      rw [hentries, List.append_assoc]
      exact hdistinct)
    rw [hentries, addList_new hnew, withEntries_withEntries, List.append_assoc] at hnext
    refine (readNamed_cons hkey (RuleList.ofJson_toJson _ hbounded) t _).trans ?_
    rw [addList_new hnew]
    exact hnext

/-- What was written for a category is read back into a table that has no rules there. -/
theorem WellFormed.readCategory_toJson {t : RuleTable} (h : t.WellFormed) (hu : t.Unquoted)
    (location : Location) {category : Category} {content : Json}
    (hcontent : t.categoryJson category = some content) {into : RuleTable}
    (hinto : into.entries category = []) :
    RuleTable.readCategory location category into content =
      .ok (into.withEntries category (sortedEntries category (t.entries category))) := by
  have hne : t.entries category ≠ [] := by
    intro hnil
    rw [categoryJson, hnil] at hcontent
    cases hcontent
  -- path and status have one list as a whole, the other categories one for each key
  by_cases hwhole : category = .path ∨ category = .status
  · obtain ⟨list, hentries, hbounded⟩ := h.entries_whole hwhole hne
    have hlist := RuleList.ofJson_toJson location hbounded
    have hwritten : content = list.toJson := by
      rw [categoryJson, hentries] at hcontent
      rcases hwhole with rfl | rfl <;> exact (Option.some.inj hcontent).symm
    have hadd : into.addList category .root list =
        into.withEntries category (sortedEntries category (t.entries category)) := by
      rw [RuleTable.addList, hinto, hentries]
      rfl
    rw [hwritten]
    unfold RuleTable.readCategory
    rw [if_pos hwhole]
    -- an empty object would be read as no list at all, but a list is never written as one
    split
    · next hempty =>
      have hmatchers := list.get?_matchers
      rw [hempty] at hmatchers
      cases hmatchers
    · rw [hlist, ← hadd]
      rfl
  · have hnamed := not_or.1 hwhole
    rw [categoryJson_named hnamed hne] at hcontent
    obtain rfl := Option.some.inj hcontent
    have hkeyed : ∀ entry ∈ keyed category (t.entries category),
        keyPath? category entry.1 = some entry.2.path ∧ entry.2.list.Bounded := by
      intro entry hentry
      obtain ⟨e, he, rfl⟩ := List.mem_map.1 (Assoc.mem_ofList hentry)
      exact ⟨keyPath?_writtenKey hnamed (h.held category e he) fun hb => h.writable hu he hb,
        h.bounded category e he⟩
    have hdistinct :
        ((into.entries category ++ (keyed category (t.entries category)).map Prod.snd).map
          RuleEntry.path).Nodup := by
      have hsorted := (h.sorted hu).distinct category
      rw [entries_sorted] at hsorted
      rw [hinto, List.nil_append]
      exact hsorted
    have hread := readNamed_toJson location hkeyed hdistinct
    rw [hinto, List.nil_append] at hread
    unfold RuleTable.readCategory
    rw [if_neg hwhole]
    exact hread

/-- The categories that were written are read back, each into a table that has no rules there. -/
theorem WellFormed.readCategories_toJson {t : RuleTable} (h : t.WellFormed) (hu : t.Unquoted)
    (location : Location) (members : List (String × Json))
    (hwritten : ∀ m ∈ members, ∃ category : Category,
      m.1 = category.name ∧ t.categoryJson category = some m.2)
    (hnodup : (members.map Prod.fst).Nodup) :
    ∀ into : RuleTable,
      (∀ category : Category, category.name ∈ members.map Prod.fst → into.entries category = []) →
        ∃ result, RuleTable.readCategories location into members = .ok result ∧
          ∀ category, result.entries category =
            if category.name ∈ members.map Prod.fst then
              sortedEntries category (t.entries category)
            else into.entries category := by
  induction members with
  | nil => exact fun into _ => ⟨into, rfl, fun _ => rfl⟩
  | cons member members ih =>
    intro into hinto
    obtain ⟨name, content⟩ := member
    obtain ⟨⟨category, hname, hcontent⟩, hrest⟩ := List.forall_mem_cons.1 hwritten
    obtain rfl : name = category.name := hname
    obtain ⟨hnew, hdistinct⟩ := List.nodup_cons.1 hnodup
    have hread := h.readCategory_toJson hu (location.field category.name) hcontent
      (hinto category List.mem_cons_self)
    -- no later member has the name of the first, so its entries stay what they are
    obtain ⟨result, hresult, hentries⟩ := ih hrest hdistinct
      (into.withEntries category (sortedEntries category (t.entries category)))
      (fun other hother => by
        have hne : category ≠ other := by
          rintro rfl
          exact hnew hother
        rw [entries_withEntries, if_neg hne]
        exact hinto other (List.mem_cons_of_mem _ hother))
    refine ⟨result, ?_, fun other => ?_⟩
    · rw [RuleTable.readCategories, Category.named?_name]
      simp only [hread, bind, Except.bind]
      exact hresult
    · rw [hentries other, entries_withEntries]
      by_cases hsame : category = other
      · subst hsame
        have hfirst : category.name ∈ ((category.name, content) :: members).map Prod.fst :=
          List.mem_cons_self
        rw [if_neg hnew, if_pos rfl, if_pos hfirst]
      · have hne : other.name ≠ category.name := fun heq => hsame (Category.name_inj heq).symm
        simp only [if_neg hsame, List.map_cons, List.mem_cons, hne, false_or]

theorem categoryJson_of_ne_nil (t : RuleTable) {category : Category}
    (h : t.entries category ≠ []) : ∃ content, t.categoryJson category = some content := by
  obtain ⟨first, rest, hentries⟩ := List.exists_cons_of_ne_nil h
  rw [categoryJson, hentries]
  cases category <;> exact ⟨_, rfl⟩

theorem sublist_writtenNames (t : RuleTable) (categories : List Category) :
    ((categories.filterMap fun category =>
        (t.categoryJson category).map fun value => (category.name, value)).map Prod.fst).Sublist
      (categories.map Category.name) := by
  induction categories with
  | nil => exact List.Sublist.slnil
  | cons category categories ih =>
    rw [List.filterMap_cons]
    cases t.categoryJson category with
    | none => exact ih.cons _
    | some value => exact ih.cons_cons _

/-- A table is read back with its entries in the order of their keys. -/
theorem WellFormed.ofJson_toJson {t : RuleTable} (h : t.WellFormed) (hu : t.Unquoted)
    (location : Location) : ofJson location t.toJson = .ok t.sorted := by
  -- the members that are written, before they are put into the order of their names
  obtain ⟨written, hw⟩ : ∃ written, written = Category.every.filterMap fun category =>
      (t.categoryJson category).map fun value => (category.name, value) := ⟨_, rfl⟩
  have hmem : ∀ m, m ∈ written ↔ ∃ category : Category,
      m.1 = category.name ∧ t.categoryJson category = some m.2 := by
    intro (name, content)
    rw [hw, List.mem_filterMap]
    constructor
    · rintro ⟨category, -, hm⟩
      obtain ⟨value, hvalue, heq⟩ := Option.map_eq_some_iff.1 hm
      cases heq
      exact ⟨category, rfl, hvalue⟩
    · rintro ⟨category, rfl, hcontent⟩
      exact ⟨category, category.mem_every, by rw [hcontent]; rfl⟩
  have hnodup : (written.map Prod.fst).Nodup := by
    have hnames : (Category.every.map Category.name).Nodup := by decide
    exact hnames.sublist (hw ▸ sublist_writtenNames t Category.every)
  have hperm := Assoc.ofList_perm hnodup
  obtain ⟨result, hresult, hentries⟩ := h.readCategories_toJson hu location
    (Assoc.ofList written) (fun m hm => (hmem m).1 (hperm.mem_iff.1 hm))
    (Assoc.ascending_ofList written).nodup_keys empty
    (fun category _ => by cases category <;> rfl)
  -- no key looks like a path, so the document is not taken for a flat one
  have hflat : (Assoc.ofList written).any (fun member => isFlatKey member.1) = false := by
    refine List.any_eq_false.2 fun m hm => ?_
    obtain ⟨category, hname, -⟩ := (hmem m).1 (hperm.mem_iff.1 hm)
    rw [hname, category.isFlatKey_name]
    exact Bool.false_ne_true
  have hsorted : result = t.sorted := by
    refine ext_entries fun category => ?_
    rw [hentries, entries_sorted]
    split
    · rfl
    · next hmissing =>
      have hnone : t.entries category = [] := by
        refine Classical.byContradiction fun hne => hmissing ?_
        obtain ⟨content, hcontent⟩ := t.categoryJson_of_ne_nil hne
        exact List.mem_map.2 ⟨_, hperm.mem_iff.2 ((hmem (category.name, content)).2
          ⟨category, rfl, hcontent⟩), rfl⟩
      rw [hnone]
      cases category <;> rfl
  rw [toJson, ← hw, Json.ofMembers, ofJson]
  simp only [hflat, Bool.false_eq_true, if_false, hresult, hsorted]

theorem eq_empty {t : RuleTable} (h : t.isEmpty = true) : t = empty := by
  refine ext_entries fun category => ?_
  have hcategory := List.isEmpty_iff.1 (List.all_eq_true.1 h category category.mem_every)
  rw [hcategory]
  cases category <;> rfl

/-! ## Writing it again -/

theorem WellFormed.keyed_sorted {t : RuleTable} (h : t.WellFormed) (hu : t.Unquoted)
    (category : Category) :
    keyed category (t.sorted.entries category) = keyed category (t.entries category) := by
  have hkeys := (h.sorted_perm hu category).map fun e => (writtenKey category e.path, e)
  refine (Assoc.ofList_eq_of_perm hkeys.symm ?_).symm
  rw [List.map_map]
  exact h.nodup_keys hu category

theorem WellFormed.categoryJson_sorted {t : RuleTable} (h : t.WellFormed) (hu : t.Unquoted)
    (category : Category) : t.sorted.categoryJson category = t.categoryJson category := by
  by_cases hne : t.entries category = []
  · have hsorted : t.sorted.entries category = [] := by
      rw [entries_sorted, hne]
      cases category <;> rfl
    rw [categoryJson, categoryJson, hne, hsorted]
  have hsorted : t.sorted.entries category ≠ [] := fun hnil => by
    have hperm := h.sorted_perm hu category
    rw [hnil] at hperm
    exact hne hperm.nil_eq.symm
  by_cases hwhole : category = .path ∨ category = .status
  · obtain ⟨list, hentries, -⟩ := h.entries_whole hwhole hne
    rw [categoryJson, categoryJson, entries_sorted, hentries]
    rfl
  · have hnamed := not_or.1 hwhole
    rw [categoryJson_named hnamed hne, categoryJson_named hnamed hsorted, h.keyed_sorted hu]

/-- The sorted table is written the same way. -/
theorem WellFormed.toJson_sorted {t : RuleTable} (h : t.WellFormed) (hu : t.Unquoted) :
    t.sorted.toJson = t.toJson := by
  simp only [toJson, h.categoryJson_sorted hu]

theorem WellFormed.isEmpty_sorted {t : RuleTable} (h : t.WellFormed) (hu : t.Unquoted) :
    t.sorted.isEmpty = t.isEmpty := by
  have hcategory : ∀ category, (t.sorted.entries category).isEmpty = (t.entries category).isEmpty :=
    fun category => (h.sorted_perm hu category).isEmpty_eq
  simp only [isEmpty, hcategory]

end RuleTable

end MockProvider
