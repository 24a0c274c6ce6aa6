import MockProvider.Proofs.Dict.Lookup

/-!
# Values grouped by their names

Queries and headers come as pairs of a name and a value, and are kept as the values of each name.
`Dict.group` groups pairs, `Dict.valuesOf` are the values that a name has among pairs, and
`Dict.ungroup` makes pairs of grouped values again. Grouping what was made into pairs gives the
dictionary back without the names that have no values: `Dict.group_ungroup`.
-/

namespace MockProvider.Dict

/-- The values of a name, in the order in which they stand. -/
def valuesOf (name : String) (pairs : List (String × String)) : List String :=
  (pairs.filter fun pair => pair.1 == name).map Prod.snd

/-- Pairs that are grouped one after another. -/
def group (pairs : List (String × String)) : Dict (List String) :=
  pairs.foldl (fun d pair => d.alter pair.1 fun values => values.getD [] ++ [pair.2]) .empty

/-- One pair for each value of each name. -/
def ungroup (entries : List (String × List String)) : List (String × String) :=
  entries.flatMap fun entry => entry.2.map fun value => (entry.1, value)

theorem valuesOf_cons (name : String) (pair : String × String) (pairs : List (String × String)) :
    valuesOf name (pair :: pairs) =
      if pair.1 = name then pair.2 :: valuesOf name pairs else valuesOf name pairs := by
  by_cases h : pair.1 = name <;> simp [valuesOf, h]

theorem valuesOf_append (name : String) (front back : List (String × String)) :
    valuesOf name (front ++ back) = valuesOf name front ++ valuesOf name back := by
  simp [valuesOf]

theorem valuesOf_eq_nil_iff {name : String} {pairs : List (String × String)} :
    valuesOf name pairs = [] ↔ ∀ pair ∈ pairs, pair.1 ≠ name := by
  simp [valuesOf, List.filter_eq_nil_iff]

/-! ## Grouping -/

/-- A name has its values after those that it had before. -/
theorem get?_foldl_group (pairs : List (String × String)) (d : Dict (List String)) (name : String) :
    (pairs.foldl (fun d pair => d.alter pair.1 fun values => values.getD [] ++ [pair.2]) d).get?
        name =
      if valuesOf name pairs = [] then d.get? name
      else some ((d.get? name).getD [] ++ valuesOf name pairs) := by
  -- the pairs go into any dictionary, where a name may have values already
  induction pairs generalizing d with
  | nil => rfl
  | cons pair pairs ih =>
    rw [List.foldl_cons, ih, alter, get?_insert, valuesOf_cons]
    by_cases hname : pair.1 = name
    · subst hname
      by_cases hnone : valuesOf pair.1 pairs = []
      · simp [hnone]
      · simp [hnone]
    · simp only [if_neg hname]

theorem get?_group (pairs : List (String × String)) (name : String) :
    (group pairs).get? name =
      if valuesOf name pairs = [] then none else some (valuesOf name pairs) :=
  get?_foldl_group pairs .empty name

theorem mem_keys_group {pairs : List (String × String)} {name : String}
    (h : name ∈ (group pairs).keys) : ∃ value, (name, value) ∈ pairs := by
  by_contra hnone
  have hvalues : valuesOf name pairs = [] := by
    rw [valuesOf_eq_nil_iff]
    rintro ⟨other, value⟩ hpair rfl
    exact hnone ⟨value, hpair⟩
  have hget := get?_group pairs name
  rw [if_pos hvalues] at hget
  exact Assoc.get?_eq_none_iff.1 hget h

/-! ## Grouping pairs that were made -/

theorem valuesOf_ungroup {entries : List (String × List String)}
    (h : (entries.map Prod.fst).Nodup) (name : String) :
    valuesOf name (ungroup entries) = (Assoc.get? entries name).getD [] := by
  induction entries with
  | nil => rfl
  | cons entry entries ih =>
    obtain ⟨key, values⟩ := entry
    obtain ⟨hkey, hrest⟩ := List.nodup_cons.1 h
    have hfirst : valuesOf name (values.map fun value => (key, value)) =
        if key = name then values else [] := by
      by_cases hname : key = name <;> simp [valuesOf, List.filter_map, Function.comp_def, hname]
    rw [ungroup, List.flatMap_cons, valuesOf_append, hfirst, Assoc.get?_cons]
    change _ ++ valuesOf name (ungroup entries) = _
    rw [ih hrest]
    split
    · next hname =>
      subst hname
      rw [Assoc.get?_eq_none_iff.2 hkey]
      simp
    · rfl

/-- Renaming pairs is renaming the values that they were made of. -/
theorem ungroup_map (f : String → String) (entries : List (String × List String)) :
    (ungroup entries).map (fun pair => (f pair.1, pair.2)) =
      ungroup (entries.map fun entry => (f entry.1, entry.2)) := by
  simp [ungroup, List.map_flatMap, List.flatMap_map, Function.comp_def]

/-! ## Names with values -/

/-- What is left when the names without values are dropped. -/
def filled (d : Dict (List String)) : Dict (List String) :=
  ⟨d.toList.filter fun entry => !entry.2.isEmpty, d.ascending.filter _⟩

theorem mem_filled {d : Dict (List String)} {entry : String × List String} :
    entry ∈ d.filled.toList ↔ entry ∈ d.toList ∧ entry.2 ≠ [] := by
  simp [filled]

theorem filled_eq_self {d : Dict (List String)} (h : ∀ entry ∈ d.toList, entry.2 ≠ []) :
    d.filled = d := by
  apply ext_toList
  exact List.filter_eq_self.2 fun entry hentry => by simp [h entry hentry]

theorem get?_filled (d : Dict (List String)) (name : String) :
    d.filled.get? name = (d.get? name).filter fun values => !values.isEmpty := by
  apply Option.ext
  intro values
  rw [get?_eq_some_iff, mem_filled, Option.filter_eq_some_iff, get?_eq_some_iff]
  simp

/-- Grouped values are the same after they were made into pairs, but for the names without any. -/
theorem group_ungroup (d : Dict (List String)) : group (ungroup d.toList) = d.filled := by
  apply ext_get?
  intro name
  rw [get?_group, valuesOf_ungroup d.ascending.nodup_keys, get?_filled]
  change (if (d.get? name).getD [] = [] then none else some ((d.get? name).getD [])) = _
  cases d.get? name with
  | none => rfl
  | some values => cases values <;> rfl

theorem filled_group (pairs : List (String × String)) : (group pairs).filled = group pairs := by
  apply filled_eq_self
  intro entry hentry hnone
  have hget := get?_of_mem hentry
  rw [get?_group] at hget
  split at hget
  · cases hget
  · next hvalues =>
    rw [Option.some.inj hget] at hvalues
    exact hvalues hnone

end MockProvider.Dict
