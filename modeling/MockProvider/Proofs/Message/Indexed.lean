import Mathlib.Data.List.Induction
import MockProvider.Proofs.Message.Typing

/-!
# Values at indices

Headers and query parameters can be set one value at a time, each at an index and in any order. A
name is listed as it was spelled when it was set first. Its list ends at the greatest index that was
set and has the last value for every index, and an empty one where there was none
(`Request.indexed_build`). Two names that `fold` takes to one text are one name: those of headers
are folded to lower case, those of query parameters stand for themselves.
-/

namespace MockProvider

namespace Message

/-- A value that is set for a name, at an index among the values of the name. -/
structure Setting where
  name : String
  index : UInt64
  value : String

namespace Setting

/-! ## What settings lead to -/

/-- One more than the greatest index. -/
def extent (settings : List Setting) : Nat :=
  settings.foldl (fun length s => max length (s.index.toNat + 1)) 0

/-- The value that was set last at an index. -/
def last? (settings : List Setting) (index : Nat) : Option String :=
  (settings.reverse.find? fun s => s.index.toNat = index).map Setting.value

/-- The list that settings for one name make: the last value at every index up to the greatest. -/
def values (settings : List Setting) : List String :=
  (List.range (extent settings)).map fun index => (last? settings index).getD ""

section

variable (fold : String → String)

/-- The settings for a name. -/
def under (settings : List Setting) (name : String) : List Setting :=
  settings.filter fun s => fold s.name = fold name

/-- How a name was spelled when it was set first. -/
def spelling? (settings : List Setting) (name : String) : Option String :=
  (under fold settings name).head?.map Setting.name

/-- The values that settings give to a name. -/
def values? (settings : List Setting) (name : String) : Option (List String) :=
  if under fold settings name = [] then none else some (values (under fold settings name))

end

/-! ## One more value -/

theorem extent_append (settings : List Setting) (s : Setting) :
    extent (settings ++ [s]) = max (extent settings) (s.index.toNat + 1) :=
  List.foldl_concat ..

theorem last?_append (settings : List Setting) (s : Setting) (index : Nat) :
    last? (settings ++ [s]) index =
      if s.index.toNat = index then some s.value else last? settings index := by
  rw [last?, List.reverse_append, List.reverse_singleton, List.singleton_append, List.find?_cons]
  split
  · next h => rw [if_pos (of_decide_eq_true h), Option.map_some]
  · next h => rw [if_neg (of_decide_eq_false h), last?]

theorem last?_of_extent_le {settings : List Setting} {index : Nat}
    (h : extent settings ≤ index) : last? settings index = none := by
  induction settings using List.reverseRecOn with
  | nil => rfl
  | append_singleton settings s ih =>
    rw [extent_append] at h
    rw [last?_append, if_neg (by omega), ih (by omega)]

theorem getElem?_values (settings : List Setting) (index : Nat) :
    (values settings)[index]? =
      if index < extent settings then some ((last? settings index).getD "") else none := by
  rw [values, List.getElem?_map]
  split
  · next h => rw [List.getElem?_range h, Option.map_some]
  · next h =>
    rw [List.getElem?_eq_none (List.length_range.trans_le (Nat.le_of_not_lt h)), Option.map_none]

theorem getElem?_setAt (values : List String) (index : Nat) (value : String) (position : Nat) :
    (setAt values index value)[position]? =
      if position = index then some value
      else if position < index then some (values[position]?.getD "")
      else values[position]? := by
  induction values, index using setAt.induct generalizing position with
  | case1 => cases position <;> simp [setAt]
  | case2 index ih => cases position <;> simp [setAt, ih]
  | case3 first rest => cases position <;> simp [setAt]
  | case4 first rest index ih => cases position <;> simp [setAt, ih]

/-- Setting a value in the list of settings makes the list with one setting more. -/
theorem setAt_values (settings : List Setting) (s : Setting) :
    setAt (values settings) s.index.toNat s.value = values (settings ++ [s]) := by
  apply List.ext_getElem?
  intro position
  rw [getElem?_setAt, getElem?_values, getElem?_values, extent_append, last?_append]
  by_cases hat : position = s.index.toNat
  · rw [if_pos hat, if_pos (by omega), if_pos hat.symm, Option.getD_some]
  · rw [if_neg hat, if_neg (Ne.symm hat)]
    by_cases hwithin : position < extent settings
    · rw [if_pos hwithin, Option.getD_some, ite_self, if_pos (Nat.lt_of_lt_of_le hwithin
        (Nat.le_max_left _ _))]
    · -- beyond the list so far, where no value was set
      rw [if_neg hwithin, Option.getD_none, last?_of_extent_le (Nat.le_of_not_lt hwithin),
        Option.getD_none]
      exact ite_congr (propext (by omega)) (fun _ => rfl) fun _ => rfl

/-! ## Names -/

section

variable {fold : String → String} {settings : List Setting} {name other : String}

theorem under_congr (h : fold name = fold other) :
    under fold settings name = under fold settings other := by
  rw [under, under, h]

theorem spelling?_congr (h : fold name = fold other) :
    spelling? fold settings name = spelling? fold settings other := by
  rw [spelling?, spelling?, under_congr h]

theorem under_append_of_eq {s : Setting} (h : fold s.name = fold name) :
    under fold (settings ++ [s]) name = under fold settings name ++ [s] := by
  rw [under, List.filter_append, under]
  exact congrArg _ (List.filter_cons_of_pos (by simp [h]))

theorem under_append_of_ne {s : Setting} (h : fold s.name ≠ fold name) :
    under fold (settings ++ [s]) name = under fold settings name := by
  rw [under, List.filter_append, under]
  exact (congrArg _ (List.filter_cons_of_neg (by simp [h]))).trans (List.append_nil _)

theorem spelling?_append_of_eq {s : Setting} (h : fold s.name = fold name) :
    spelling? fold (settings ++ [s]) name = some ((spelling? fold settings name).getD s.name) := by
  rw [spelling?, under_append_of_eq h, spelling?]
  cases under fold settings name <;> rfl

theorem fold_spelling? {key : String} (h : spelling? fold settings name = some key) :
    fold key = fold name := by
  obtain ⟨s, hs, rfl⟩ := Option.map_eq_some_iff.1 h
  exact of_decide_eq_true (List.mem_filter.1 (List.mem_of_mem_head? hs)).2

theorem fold_spelling?_getD (fold : String → String) (settings : List Setting) (name : String) :
    fold ((spelling? fold settings name).getD name) = fold name := by
  cases h : spelling? fold settings name with
  | none => rfl
  | some key => exact fold_spelling? h

theorem under_eq_nil_of_spelling? (h : spelling? fold settings name = none) :
    under fold settings name = [] :=
  List.head?_eq_none_iff.1 (Option.map_eq_none_iff.1 h)

end

end Setting

/-! ## Lists of settings -/

open Setting

/-- The lists hold the values that settings give to every name, under its first spelling. -/
def Holds (fold : String → String) (settings : List Setting) (lists : Dict (List String)) : Prop :=
  ∀ key, lists.get? key =
    if spelling? fold settings key = some key then some (values (under fold settings key)) else none

section

variable {fold : String → String} {settings : List Setting} {lists : Dict (List String)}

theorem holds_empty (fold : String → String) : Holds fold [] .empty := fun _ => rfl

theorem mem_keys_iff (lists : Dict (List String)) (key : String) :
    key ∈ lists.keys ↔ lists.get? key ≠ none := by
  rw [Dict.get?, ne_eq, Assoc.get?_eq_none_iff, Classical.not_not]
  rfl

theorem Holds.mem_keys_iff (h : Holds fold settings lists) (key : String) :
    key ∈ lists.keys ↔ spelling? fold settings key = some key := by
  rw [Message.mem_keys_iff, h key]
  split
  · next hkey => exact iff_of_true (Option.some_ne_none _) hkey
  · next hkey => exact iff_of_false (fun hne => hne rfl) hkey

/-- The values of a name stand under its first spelling. -/
theorem Holds.get?_spelling (h : Holds fold settings lists) (name : String) :
    lists.get? ((spelling? fold settings name).getD name) = values? fold settings name := by
  have hfold := fold_spelling?_getD fold settings name
  rw [h, spelling?_congr hfold, under_congr hfold, values?]
  cases hname : spelling? fold settings name with
  | none => rw [under_eq_nil_of_spelling? hname, if_neg (Option.some_ne_none _).symm, if_pos rfl]
  | some key =>
    have hsome : under fold settings name ≠ [] := by
      intro hnil
      rw [spelling?, hnil] at hname
      cases hname
    rw [Option.getD_some, if_pos rfl, if_neg hsome]

/-- One more value is set under the first spelling of its name. -/
theorem Holds.step (h : Holds fold settings lists) {s : Setting} (hroom : s.index < mostValues)
    {key : String} (hkey : key = (spelling? fold settings s.name).getD s.name) :
    Holds fold (settings ++ [s]) (lists.alter key (valuesAfter s.index s.value)) := by
  have hfold : fold key = fold s.name := hkey ▸ fold_spelling?_getD fold settings s.name
  intro other
  rw [get?_alter]
  by_cases hsame : fold s.name = fold other
  · rw [spelling?_append_of_eq hsame, ← spelling?_congr hsame, ← hkey, under_append_of_eq hsame]
    by_cases hother : key = other
    · have hvalues : (lists.get? key).getD [] = values (under fold settings other) := by
        rw [hkey, h.get?_spelling, values?, under_congr hsame]
        split
        · next hnil => rw [hnil]; rfl
        · rfl
      rw [if_pos hother, if_pos (congrArg some hother), valuesAfter, if_pos hroom, hvalues,
        setAt_values]
    · -- another spelling of the name was not listed and still is not
      have hnot : spelling? fold settings other ≠ some other := by
        intro hspelled
        rw [spelling?_congr hsame, hspelled] at hkey
        exact hother hkey
      rw [if_neg hother, if_neg (by simpa using hother), h, if_neg hnot]
  · have hother : key ≠ other := fun heq => hsame (by rw [← hfold, heq])
    rw [if_neg hother, h, spelling?, spelling?, under_append_of_ne hsame]

end

/-- The key of a header is its first spelling. -/
theorem Holds.headerKey_eq {settings : List Setting} {headers : Headers}
    (h : Holds Ascii.lower settings headers) (name : String) :
    headerKey headers name = (spelling? Ascii.lower settings name).getD name := by
  rcases headerKey_cases headers name with ⟨entry, hentry, hfind, hkey⟩ | ⟨hnone, hkey⟩
  · have hfound := List.find?_some hfind
    have hsame : Ascii.lower entry.1 = Ascii.lower name := beq_iff_eq.1 hfound
    have hlisted := (h.mem_keys_iff entry.1).1 (List.mem_map_of_mem hentry)
    rw [hkey, ← spelling?_congr hsame, hlisted, Option.getD_some]
  · rw [hkey]
    cases hname : spelling? Ascii.lower settings name with
    | none => rfl
    | some key =>
      -- a first spelling is listed, and would have been found
      have hsame := fold_spelling? hname
      have hlisted := (h.mem_keys_iff key).2 ((spelling?_congr hsame).trans hname)
      obtain ⟨entry, hentry, rfl⟩ := List.mem_map.1 hlisted
      have hother := hnone entry hentry
      rw [Ascii.sameIgnoringCase, hsame, beq_self_eq_true] at hother
      cases hother

/-- Lists that hold settings, with the look-up of a name: names are told apart, each is spelled as
    it was first, and has the values that settings give to it. -/
structure Indexed (fold : String → String) (settings : List Setting) (lists : Dict (List String))
    (find : String → Option (List String)) : Prop where
  distinct : (lists.keys.map fold).Nodup
  spelled : ∀ key, key ∈ lists.keys ↔ spelling? fold settings key = some key
  found : ∀ name, find name = values? fold settings name

theorem Holds.indexed {fold : String → String} {settings : List Setting}
    {lists : Dict (List String)} (h : Holds fold settings lists)
    {find : String → Option (List String)}
    (hfind : ∀ name, find name = lists.get? ((spelling? fold settings name).getD name)) :
    Indexed fold settings lists find := by
  constructor
  · refine List.Nodup.map_on (fun key hkey other hother hsame => ?_) lists.ascending.nodup_keys
    rw [h.mem_keys_iff] at hkey hother
    rw [spelling?_congr hsame, hother] at hkey
    exact (Option.some.inj hkey).symm
  · exact h.mem_keys_iff
  · exact fun name => (hfind name).trans (h.get?_spelling name)

end Message

/-! ## Requests -/

namespace Request

open Message

namespace Change

/-- Whether a step sets a value at an index that a list has a place for. -/
def Sets : Change → Prop
  | .query _ index _ | .content (.header _ index _) => index < mostValues
  | .target _ _ | .content (.body _ _) => False

def header? : Change → Option Setting
  | .content (.header name index value) => some { name, index, value }
  | _ => none

def query? : Change → Option Setting
  | .query name index value => some { name, index, value }
  | _ => none

end Change

/-- The headers and the query of a request hold what was set, value by value. -/
theorem holds_build {changes : List Change} (h : ∀ change ∈ changes, change.Sets) :
    Holds Ascii.lower (changes.filterMap Change.header?) ((build changes).headers.getD .empty) ∧
      Holds id (changes.filterMap Change.query?) ((build changes).query.getD .empty) := by
  -- steps are taken one after another, so the induction takes them away from the end
  induction changes using List.reverseRecOn with
  | nil => exact ⟨holds_empty _, holds_empty _⟩
  | append_singleton changes change ih =>
    obtain ⟨hheaders, hquery⟩ := ih fun change hmem => h change (List.mem_append_left _ hmem)
    have hroom := h change (List.mem_append_right _ List.mem_cons_self)
    rw [build, List.foldl_concat, ← build, List.filterMap_append, List.filterMap_append]
    cases change with
    | query name index value =>
      refine ⟨(List.append_nil _).symm ▸ hheaders, ?_⟩
      have hname : name = (Setting.spelling? id (changes.filterMap Change.query?) name).getD name :=
        (Setting.fold_spelling?_getD id _ name).symm
      have hstep := hquery.step (s := { name, index, value }) hroom hname
      rw [← result_setValue] at hstep
      exact hstep
    | target method path => exact hroom.elim
    | content change =>
      cases change with
      | header name index value =>
        refine ⟨?_, (List.append_nil _).symm ▸ hquery⟩
        have hstep := hheaders.step (s := { name, index, value }) hroom (hheaders.headerKey_eq name)
        rw [← result_setValue] at hstep
        exact hstep
      | body type bytes => exact hroom.elim

/-- A request whose headers and query parameters were set value by value, in any order. -/
theorem indexed_build (changes : List Change) (h : ∀ change ∈ changes, change.Sets) :
    let r := build changes
    Indexed Ascii.lower (changes.filterMap Change.header?) (r.headers.getD .empty) r.header? ∧
      Indexed id (changes.filterMap Change.query?) (r.query.getD .empty) r.query? := by
  intro r
  obtain ⟨hheaders, hquery⟩ := holds_build h
  constructor
  · apply hheaders.indexed
    intro name
    rw [Message.header?_eq, lookup?_eq_get?, hheaders.headerKey_eq]
  · apply hquery.indexed
    intro name
    rw [query?_eq]
    exact congrArg _ (Setting.fold_spelling?_getD id _ name).symm

/-- Values for one header in three cases, and for two query parameters that differ in case. -/
def mixedChanges : List Change :=
  [.content (.header "Accept" 2 "c"), .query "q" 1 "x", .content (.header "ACCEPT" 0 "a"),
    .query "Q" 0 "y", .content (.header "accept" 2 "d")]

theorem indexed_build_mixed :
    (∀ change ∈ mixedChanges, change.Sets) ∧
      let r := build mixedChanges
      (∀ key, key ∈ (r.headers.getD .empty).keys ↔
          Setting.spelling? Ascii.lower (mixedChanges.filterMap Change.header?) key = some key) ∧
        r.header? "aCCEPT" = some ["a", "", "d"] ∧
        r.query? "q" = some ["", "x"] ∧ r.query? "Q" = some ["y"] := by
  have hsets : ∀ change ∈ mixedChanges, change.Sets := by
    simp only [mixedChanges, List.forall_mem_cons, Change.Sets, List.not_mem_nil, false_implies,
      implies_true, and_true]
    decide
  obtain ⟨hheaders, hquery⟩ := indexed_build mixedChanges hsets
  refine ⟨hsets, hheaders.spelled, ?_, ?_, ?_⟩
  · rw [hheaders.found]
    decide +kernel
  · rw [hquery.found]
    decide +kernel
  · rw [hquery.found]
    decide +kernel

end Request

end MockProvider
