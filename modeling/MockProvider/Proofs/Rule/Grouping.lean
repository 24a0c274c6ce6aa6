import Mathlib.Data.List.Induction
import MockProvider.Proofs.Rule.WellFormed

/-!
# Rules grouped by their paths

A table is made by adding rules, single ones or lists, in any order. Each category has one entry for
each path that rules were added at, in the order in which the paths were first used. An entry has
all rules for its path in the order in which they were added, and they combine as the first addition
says: `RuleTable.build_grouped`.
-/

namespace MockProvider.RuleTable

/-- A call that adds rules to a table: one rule, or all rules of a list. -/
inductive Addition where
  | one (category : Category) (path : DocPath) (rule : Rule)
  | many (category : Category) (path : DocPath) (list : RuleList)

namespace Addition

def category : Addition → Category
  | one category _ _ => category
  | many category _ _ => category

def path : Addition → DocPath
  | one _ path _ => path
  | many _ path _ => path

def rules : Addition → List Rule
  | one _ _ rule => [rule]
  | many _ _ list => list.rules

/-- How the rules at a new path combine. One rule alone says nothing on that: all have to hold. -/
def logic : Addition → RuleLogic
  | one _ _ _ => .all
  | many _ _ list => list.logic

def apply (t : RuleTable) : Addition → RuleTable
  | one category path rule => t.add category path rule
  | many category path list => t.addList category path list

theorem apply_eq (t : RuleTable) (a : Addition) :
    a.apply t = t.addList a.category a.path ⟨a.rules, a.logic⟩ := by
  cases a <;> rfl

end Addition

/-- The table that additions make, one after the other. -/
def build (additions : List Addition) : RuleTable :=
  additions.foldl Addition.apply .empty

/-! ## What additions lead to -/

def addedTo (category : Category) (additions : List Addition) : List Addition :=
  additions.filter fun a => a.category = category

def addedAt (path : DocPath) (additions : List Addition) : List Addition :=
  additions.filter fun a => a.path = path

/-- The paths of additions, each where it is used first. -/
def pathsOf (additions : List Addition) : List DocPath :=
  (additions.map Addition.path).eraseDups

/-- All rules of additions, combined as the first of these says. -/
def listOf (additions : List Addition) : RuleList :=
  ⟨additions.flatMap Addition.rules, (additions.head?.map Addition.logic).getD .all⟩

/-- Entries that hold additions to one category, path by path. -/
structure Grouped (additions : List Addition) (entries : List RuleEntry) : Prop where
  distinct : (entries.map RuleEntry.path).Nodup
  ordered : entries.map RuleEntry.path = pathsOf additions
  listed : ∀ e ∈ entries, e.list = listOf (addedAt e.path additions)

/-! ## One more addition -/

theorem addedTo_concat (category : Category) (additions : List Addition) (a : Addition) :
    addedTo category (additions ++ [a]) =
      if a.category = category then addedTo category additions ++ [a]
      else addedTo category additions := by
  by_cases h : a.category = category <;> simp [addedTo, h]

theorem addedAt_concat (path : DocPath) (additions : List Addition) (a : Addition) :
    addedAt path (additions ++ [a]) =
      if a.path = path then addedAt path additions ++ [a] else addedAt path additions := by
  by_cases h : a.path = path <;> simp [addedAt, h]

theorem mem_pathsOf {path : DocPath} {additions : List Addition} :
    path ∈ pathsOf additions ↔ path ∈ additions.map Addition.path :=
  List.mem_eraseDups

theorem addedAt_eq_nil_iff {path : DocPath} {additions : List Addition} :
    addedAt path additions = [] ↔ path ∉ pathsOf additions := by
  simp [addedAt, mem_pathsOf, List.filter_eq_nil_iff]

theorem pathsOf_concat (additions : List Addition) (a : Addition) :
    pathsOf (additions ++ [a]) =
      if a.path ∈ pathsOf additions then pathsOf additions else pathsOf additions ++ [a.path] := by
  have hlast : pathsOf (additions ++ [a]) =
      pathsOf additions ++ ([a.path].removeAll (additions.map Addition.path)).eraseDups := by
    rw [pathsOf, List.map_append, List.eraseDups_append]
    rfl
  by_cases h : a.path ∈ additions.map Addition.path
  · rw [if_pos (mem_pathsOf.2 h), hlast]
    simp [List.removeAll, h, -List.mem_map]
  · rw [if_neg (mt mem_pathsOf.1 h), hlast]
    simp [List.removeAll, h, List.eraseDups_cons, -List.mem_map]

theorem listOf_concat {additions : List Addition} (h : additions ≠ []) (a : Addition) :
    listOf (additions ++ [a]) = (listOf additions).append a.rules := by
  cases additions with
  | nil => exact absurd rfl h
  | cons first rest => simp [listOf, RuleList.append]

/-- An entry after an addition was there before and has another path, or has got the rules at its
    end, or is new. -/
theorem mem_addTo {path : DocPath} {list : RuleList} {entries : List RuleEntry}
    (hdistinct : (entries.map RuleEntry.path).Nodup) {e : RuleEntry} (h : e ∈ addTo path list entries) :
    (e ∈ entries ∧ e.path ≠ path) ∨
      (∃ f ∈ entries, f.path = path ∧ e = { f with list := f.list.append list.rules }) ∨
      path ∉ entries.map RuleEntry.path ∧ e = ⟨path, list⟩ := by
  induction entries with
  | nil => exact Or.inr (Or.inr ⟨List.not_mem_nil, List.mem_singleton.1 h⟩)
  | cons first rest ih =>
    obtain ⟨hfirst, hrest⟩ := List.nodup_cons.1 hdistinct
    rw [addTo] at h
    split at h
    · next hpath =>
      subst hpath
      rcases List.mem_cons.1 h with rfl | h
      · exact Or.inr (Or.inl ⟨first, List.mem_cons_self, rfl, rfl⟩)
      · -- no entry behind the first has its path
        exact Or.inl ⟨List.mem_cons_of_mem _ h, fun hsame => hfirst (hsame ▸ List.mem_map_of_mem h)⟩
    · next hpath =>
      rcases List.mem_cons.1 h with rfl | h
      · exact Or.inl ⟨List.mem_cons_self, hpath⟩
      · rcases ih hrest h with ⟨hmem, hne⟩ | ⟨f, hf, hsame⟩ | ⟨hnew, he⟩
        · exact Or.inl ⟨List.mem_cons_of_mem _ hmem, hne⟩
        · exact Or.inr (Or.inl ⟨f, List.mem_cons_of_mem _ hf, hsame⟩)
        · exact Or.inr (Or.inr ⟨List.not_mem_cons_of_ne_of_not_mem (Ne.symm hpath) hnew, he⟩)

theorem Grouped.step {additions : List Addition} {entries : List RuleEntry}
    (h : Grouped additions entries) (a : Addition) :
    Grouped (additions ++ [a]) (addTo a.path ⟨a.rules, a.logic⟩ entries) := by
  have hordered : (addTo a.path ⟨a.rules, a.logic⟩ entries).map RuleEntry.path =
      pathsOf (additions ++ [a]) := by
    rw [map_path_addTo, pathsOf_concat, h.ordered]
  refine ⟨nodup_map_path_addTo h.distinct, hordered, fun e he => ?_⟩
  rw [addedAt_concat]
  -- a path has an entry when there was an addition at it, whose logic the list then keeps
  rcases mem_addTo h.distinct he with ⟨hmem, hne⟩ | ⟨f, hf, hsame, rfl⟩ | ⟨hnew, rfl⟩
  · rw [if_neg (Ne.symm hne), h.listed e hmem]
  · have hused : addedAt f.path additions ≠ [] := by
      rw [ne_eq, addedAt_eq_nil_iff, ← h.ordered, Classical.not_not]
      exact List.mem_map_of_mem hf
    rw [if_pos hsame.symm, listOf_concat hused, h.listed f hf]
  · have hunused : addedAt a.path additions = [] := by
      rw [addedAt_eq_nil_iff, ← h.ordered]
      exact hnew
    rw [if_pos rfl, hunused]
    simp [listOf]

/-! ## All additions -/

theorem entries_apply (t : RuleTable) (a : Addition) (category : Category) :
    (a.apply t).entries category =
      if a.category = category then addTo a.path ⟨a.rules, a.logic⟩ (t.entries a.category)
      else t.entries category := by
  rw [a.apply_eq, entries_addList]

theorem build_concat (additions : List Addition) (a : Addition) :
    build (additions ++ [a]) = a.apply (build additions) :=
  List.foldl_concat ..

theorem grouped_build (additions : List Addition) (category : Category) :
    Grouped (addedTo category additions) ((build additions).entries category) := by
  induction additions using List.reverseRecOn with
  | nil => cases category <;> exact ⟨List.nodup_nil, rfl, nofun⟩
  | append_singleton additions a ih =>
    rw [build_concat, entries_apply, addedTo_concat]
    by_cases hcategory : a.category = category
    · subst hcategory
      rw [if_pos rfl, if_pos rfl]
      exact ih.step a
    · rw [if_neg hcategory, if_neg hcategory]
      exact ih

/-- Every category of a table groups what was added to it, and no addition changes another one. -/
theorem build_grouped (additions : List Addition) (category : Category) :
    Grouped (addedTo category additions) ((build additions).entries category) ∧
      ∀ a : Addition, a.category ≠ category →
        (a.apply (build additions)).entries category = (build additions).entries category := by
  refine ⟨grouped_build additions category, fun a ha => ?_⟩
  rw [entries_apply, if_neg ha]

/-- Additions to two categories, in which one path is used three times. -/
def sampleAdditions : List Addition :=
  [.many .body (DocPath.root.field "id") ⟨[.contains "7"], .any⟩,
    .one .header (DocPath.root.field "id") .equality,
    .one .body (DocPath.root.field "name") .type,
    .many .body (DocPath.root.field "id") ⟨[.type, .equality], .all⟩,
    .one .body (DocPath.root.field "id") .equality]

theorem build_grouped_sample :
    let entries := (build sampleAdditions).entries .body
    let further := Addition.many .header .root ⟨[], .any⟩
    entries.map RuleEntry.path = [DocPath.root.field "id", DocPath.root.field "name"] ∧
      (∀ e ∈ entries, e.path = DocPath.root.field "id" →
        e.list = ⟨[.contains "7", .type, .equality, .equality], .any⟩) ∧
      further.category ≠ .body ∧ (further.apply (build sampleAdditions)).entries .body = entries := by
  obtain ⟨hgrouped, hothers⟩ := build_grouped sampleAdditions .body
  refine ⟨hgrouped.ordered, fun e he hpath => ?_, by decide, hothers _ (by decide)⟩
  rw [hgrouped.listed e he, hpath]
  rfl

end MockProvider.RuleTable
