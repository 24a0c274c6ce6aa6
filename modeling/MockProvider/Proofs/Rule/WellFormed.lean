import MockProvider.Proofs.DocPath.RoundTrip
import MockProvider.Proofs.Rule.RoundTrip
import MockProvider.Rule.Codec

/-!
# Tables that were read

What holds for every table that was read from a document: no path of a category has two entries,
each category keeps its rules where it looks for them, and bounds bound something. One rule list
after the other goes into the table by `RuleTable.addList`, which keeps all of it.
-/

namespace MockProvider

/-! ## Adding lists -/

namespace RuleTable

/-- Tables with the same entries in all categories are equal. -/
theorem ext_entries {a b : RuleTable} (h : ∀ category, a.entries category = b.entries category) :
    a = b := by
  obtain ⟨p, q, hd, bo, s⟩ := a
  obtain ⟨p', q', hd', bo', s'⟩ := b
  obtain rfl : p = p' := h .path
  obtain rfl : q = q' := h .query
  obtain rfl : hd = hd' := h .header
  obtain rfl : bo = bo' := h .body
  obtain rfl : s = s' := h .status
  rfl

theorem entries_withEntries (t : RuleTable) (category other : Category) (es : List RuleEntry) :
    (t.withEntries category es).entries other = if category = other then es else t.entries other := by
  cases category <;> cases other <;> rfl

theorem entries_addList (t : RuleTable) (category other : Category) (path : DocPath)
    (list : RuleList) :
    (t.addList category path list).entries other =
      if category = other then addTo path list (t.entries category) else t.entries other :=
  entries_withEntries t category other _

theorem map_path_addTo (path : DocPath) (list : RuleList) (es : List RuleEntry) :
    (addTo path list es).map RuleEntry.path =
      if path ∈ es.map RuleEntry.path then es.map RuleEntry.path
      else es.map RuleEntry.path ++ [path] := by
  induction es with
  | nil => rfl
  | cons e es ih =>
    rw [addTo]
    by_cases h : e.path = path
    · simp [h]
    · simp only [if_neg h, List.map_cons, ih, List.mem_cons, Ne.symm h, false_or]
      split <;> rfl

theorem nodup_map_path_addTo {path : DocPath} {list : RuleList} {es : List RuleEntry}
    (h : (es.map RuleEntry.path).Nodup) : ((addTo path list es).map RuleEntry.path).Nodup := by
  rw [map_path_addTo]
  split
  · exact h
  · next hnew =>
    rw [← List.concat_eq_append]
    exact List.Nodup.concat hnew h

theorem addTo_forall {P : RuleEntry → Prop} {path : DocPath} {list : RuleList}
    {es : List RuleEntry} (h : ∀ e ∈ es, P e) (hnew : P ⟨path, list⟩)
    (happend : ∀ e ∈ es, P e → P { e with list := e.list.append list.rules }) :
    ∀ e ∈ addTo path list es, P e := by
  induction es with
  | nil => simpa [addTo] using hnew
  | cons e es ih =>
    obtain ⟨hfirst, hrest⟩ := List.forall_mem_cons.1 h
    obtain ⟨happendFirst, happendRest⟩ := List.forall_mem_cons.1 happend
    rw [addTo]
    split
    · exact List.forall_mem_cons.2 ⟨happendFirst hfirst, hrest⟩
    · exact List.forall_mem_cons.2 ⟨hfirst, ih hrest happendRest⟩

theorem addTo_new {path : DocPath} {list : RuleList} {es : List RuleEntry}
    (h : path ∉ es.map RuleEntry.path) : addTo path list es = es ++ [⟨path, list⟩] := by
  induction es with
  | nil => rfl
  | cons e es ih =>
    obtain ⟨hfirst, hrest⟩ := not_or.1 (mt List.mem_cons.2 h)
    rw [addTo, if_neg (Ne.symm hfirst), ih hrest]
    rfl

end RuleTable

/-! ## Well-formed tables -/

/-- Where a category keeps rules. -/
def Category.Holds : Category → DocPath → Prop
  | .path, place => place = .root
  | .status, place => place = .root
  | .query, place => ∃ name, place = RuleTable.namedPlace .query name
  | .header, place => ∃ name, place = RuleTable.namedPlace .header name
  | .body, place => ∀ position, .index position ∈ place.steps → position < DocPath.indexBound

namespace RuleTable

/-- A table as the reader makes it. -/
structure WellFormed (t : RuleTable) : Prop where
  distinct : ∀ category, ((t.entries category).map RuleEntry.path).Nodup
  held : ∀ category, ∀ e ∈ t.entries category, category.Holds e.path
  bounded : ∀ category, ∀ e ∈ t.entries category, e.list.Bounded

theorem wellFormed_empty : empty.WellFormed where
  distinct category := by cases category <;> exact List.Pairwise.nil
  held category := by cases category <;> simp [empty, entries]
  bounded category := by cases category <;> simp [empty, entries]

theorem WellFormed.addList {t : RuleTable} (h : t.WellFormed) {category : Category} {path : DocPath}
    {list : RuleList} (hpath : category.Holds path) (hlist : list.Bounded) :
    (t.addList category path list).WellFormed := by
  refine ⟨fun other => ?_, fun other => ?_, fun other => ?_⟩
  · rw [entries_addList]
    split
    · exact nodup_map_path_addTo (h.distinct category)
    · exact h.distinct other
  · rw [entries_addList]
    split
    · next heq =>
      subst heq
      exact addTo_forall (h.held category) hpath fun _ _ hheld => hheld
    · exact h.held other
  · rw [entries_addList]
    split
    · exact addTo_forall (h.bounded category) hlist fun _ _ hbounded => hbounded.append hlist
    · exact h.bounded other

/-! ## What the reader does -/

theorem WellFormed.addFlat {t : RuleTable} (h : t.WellFormed) {path : DocPath} {list : RuleList}
    (hpath : ∀ position, .index position ∈ path.steps → position < DocPath.indexBound)
    (hlist : list.Bounded) : (t.addFlat path list).WellFormed := by
  have hbody : Category.body.Holds path.dropFirst := fun position hmem =>
    hpath position (List.mem_of_mem_drop hmem)
  -- the first steps of the path name the category, and the list goes there
  unfold RuleTable.addFlat
  split
  · split
    · exact h.addList rfl hlist
    · exact h.addList rfl hlist
    · exact h.addList hbody hlist
    · next name _ _ _ => exact h.addList ⟨name, rfl⟩ hlist
    · next name _ _ _ => exact h.addList ⟨name, rfl⟩ hlist
    · exact h
  · exact h

theorem WellFormed.readFlat {location : Location} {members : List (String × Json)} :
    ∀ {t t' : RuleTable}, t.WellFormed → readFlat location t members = .ok t' → t'.WellFormed := by
  induction members with
  | nil =>
    intro t t' h hread
    cases hread
    exact h
  | cons member members ih =>
    intro t t' h hread
    obtain ⟨key, definition⟩ := member
    rw [RuleTable.readFlat] at hread
    split at hread
    · exact ih h hread
    · next path hpath =>
      obtain ⟨list, hlist, hread⟩ := bind_eq_ok.1 hread
      exact ih (h.addFlat (DocPath.parse_fits hpath) (RuleList.bounded_of_ofJson hlist)) hread

theorem WellFormed.readNamed {location : Location} {category : Category}
    (hnamed : category ≠ .path ∧ category ≠ .status) {members : List (String × Json)} :
    ∀ {t t' : RuleTable}, t.WellFormed → readNamed location category t members = .ok t' →
      t'.WellFormed := by
  induction members with
  | nil =>
    intro t t' h hread
    cases hread
    exact h
  | cons member members ih =>
    intro t t' h hread
    obtain ⟨key, definition⟩ := member
    obtain ⟨list, hlist, hread⟩ := bind_eq_ok.1 hread
    have hbounded := RuleList.bounded_of_ofJson hlist
    split at hread
    · next hbody =>
      subst hbody
      split at hread
      -- a key that is no path is passed over
      · exact ih h hread
      · next path hpath =>
        have hheld : Category.body.Holds path := DocPath.parse_fits hpath
        exact ih (h.addList hheld hbounded) hread
    · next hother =>
      refine ih (h.addList ?_ hbounded) hread
      cases category with
      | path => exact absurd rfl hnamed.1
      | status => exact absurd rfl hnamed.2
      | body => exact absurd rfl hother
      | query => exact ⟨key, rfl⟩
      | header => exact ⟨key, rfl⟩

theorem WellFormed.readCategory {location : Location} {category : Category} {t t' : RuleTable}
    {content : Json} (h : t.WellFormed) (hread : readCategory location category t content = .ok t') :
    t'.WellFormed := by
  unfold RuleTable.readCategory at hread
  split at hread
  · next hwhole =>
    split at hread
    · cases hread
      exact h
    · obtain ⟨list, hlist, rfl⟩ := map_eq_ok.1 hread
      have hheld : category.Holds .root := by rcases hwhole with rfl | rfl <;> rfl
      exact h.addList hheld (RuleList.bounded_of_ofJson hlist)
  · next hnamed =>
    split at hread
    · cases hread
    · exact h.readNamed (not_or.1 hnamed) hread

theorem WellFormed.readCategories {location : Location} {members : List (String × Json)} :
    ∀ {t t' : RuleTable}, t.WellFormed → readCategories location t members = .ok t' →
      t'.WellFormed := by
  induction members with
  | nil =>
    intro t t' h hread
    cases hread
    exact h
  | cons member members ih =>
    intro t t' h hread
    obtain ⟨name, content⟩ := member
    rw [RuleTable.readCategories] at hread
    split at hread
    · exact ih h hread
    · obtain ⟨next, hnext, hread⟩ := bind_eq_ok.1 hread
      exact ih (h.readCategory hnext) hread

/-- Every table that was read is well-formed. -/
theorem wellFormed_of_ofJson {location : Location} {value : Json} {t : RuleTable}
    (h : ofJson location value = .ok t) : t.WellFormed := by
  unfold ofJson at h
  split at h
  · cases h
    exact wellFormed_empty
  · split at h
    · exact wellFormed_empty.readFlat h
    · exact wellFormed_empty.readCategories h
  · cases h

end RuleTable

end MockProvider
