import MockProvider.Matching.Query
import MockProvider.Proofs.Rule.Resolution
import MockProvider.Proofs.Text.Queries

/-!
# Comparing queries key by key

A query string is read key by key: its segments may be exchanged as long as those of one key keep
their order, whatever spelling of the key they use (`Query.parse_reordered`). A query without rules
is compared key by key too, and the values of a key are compared in their order: the paths of the
mismatches are the keys whose values are not the expected ones (`mem_paths_matchQuery_iff`).
-/

namespace MockProvider

/-! ## Order of segments -/

namespace Query

/-- The key that a segment of a query string gives a value to. -/
def segmentKey (segment : String) : String :=
  (cutPair segment.toList).1

/-- The segments of one key. -/
def segmentsOf (key : String) (segments : List String) : List String :=
  segments.filter fun segment => segmentKey segment == key

/-- The same segments in another order, but with those of each key in the order that they had. -/
structure Reordered (segments others : List String) : Prop where
  perm : segments.Perm others
  order : ∀ key, segmentsOf key others = segmentsOf key segments

/-- Neighbours with different keys can be exchanged. -/
theorem Reordered.exchange {a b : String} (h : segmentKey a ≠ segmentKey b)
    (front back : List String) : Reordered (front ++ a :: b :: back) (front ++ b :: a :: back) where
  perm := (List.Perm.swap b a back).append_left front
  order := by
    intro key
    rw [segmentsOf, segmentsOf, List.filter_append, List.filter_append]
    -- one of the two does not have the key
    by_cases ha : segmentKey a = key
    · have hb : segmentKey b ≠ key := fun hb => h (ha.trans hb.symm)
      simp [ha, hb]
    · simp [List.filter_cons, ha]

theorem pairs_eq (text : String) :
    pairs text = ((Text.split '&' text).filter fun segment => !segment.isEmpty).map
      fun segment => cutPair segment.toList := by
  have hempty : ((fun segment : String => !segment.isEmpty) ∘ String.ofList) =
      fun cs : List Char => !cs.isEmpty := by
    funext cs
    simp only [Function.comp_apply, Bool.not_inj_iff]
    rw [Bool.eq_iff_iff, String.isEmpty_iff, List.isEmpty_iff]
    exact String.ofList_eq_empty_iff
  rw [pairs, Text.split, List.filter_map, List.map_map, hempty]
  simp [Function.comp_def]

/-- The values of a key come from its segments. -/
theorem valuesOf_pairs (key text : String) :
    Dict.valuesOf key (pairs text) =
      ((segmentsOf key (Text.split '&' text)).filter fun segment => !segment.isEmpty).map
        fun segment => (cutPair segment.toList).2 := by
  rw [Dict.valuesOf, pairs_eq, List.filter_map, List.map_map, segmentsOf, List.filter_filter,
    List.filter_filter]
  simp only [Function.comp_def, segmentKey, Bool.and_comm]

/-- The order of segments with different keys does not matter. -/
theorem parse_reordered {text : String} {segments : List String}
    (h : Reordered (Text.split '&' text) segments) :
    parse (Text.join "&" segments) = parse text := by
  have hne : segments ≠ [] := by
    rintro rfl
    have hnone : Text.split '&' text = [] := h.perm.eq_nil
    exact Text.splitChars_ne_nil '&' text.toList (List.map_eq_nil_iff.1 hnone)
  -- the segments came from a text that was cut, so the joined text is cut into them again
  have hcut : Text.split '&' (Text.join "&" segments) = segments :=
    Text.split_join hne fun segment hsegment =>
      Text.not_mem_of_mem_split (h.perm.mem_iff.2 hsegment)
  apply Dict.ext_get?
  intro key
  have hvalues : Dict.valuesOf key (pairs (Text.join "&" segments)) =
      Dict.valuesOf key (pairs text) := by
    rw [valuesOf_pairs, valuesOf_pairs, hcut, h.order]
  rw [parse_eq_group, parse_eq_group, Dict.get?_group, Dict.get?_group, hvalues]

end Query

namespace Matching

/-! ## Keys without rules -/

theorem plainValues_eq_nil_iff {key : String} {index : Nat} {expected actual : List String}
    (h : expected.length = actual.length) :
    plainValues key index expected actual = [] ↔ expected = actual := by
  induction expected generalizing index actual with
  | nil =>
    cases actual with
    | nil => simp [plainValues]
    | cons a actual => cases h
  | cons e expected ih =>
    cases actual with
    | nil => cases h
    | cons a actual =>
      have hrest : plainValues key (index + 1) expected actual = [] ↔ expected = actual :=
        ih (Nat.succ.inj h)
      rw [plainValues, List.cons.injEq, ← hrest]
      by_cases he : e = a <;> simp [he]

/-- The values of a key have to be the same in the same order. -/
theorem plainFailures_eq_nil_iff {key : String} {expected actual : List String} :
    plainFailures key expected actual = [] ↔ expected = actual := by
  rw [plainFailures]
  split
  · next h => exact plainValues_eq_nil_iff h
  · next h =>
    have hne : expected ≠ actual := fun he => h (congrArg List.length he)
    simp [hne]

variable {rules : RuleTable} {key : String}

theorem keyMismatches_eq_nil_iff (h : rules.resolveNamed .query key = none) {actual : Query}
    {expected : List String} :
    keyMismatches rules actual key expected = [] ↔ actual.get? key = some expected := by
  rw [keyMismatches]
  cases actual.get? key with
  | none => simp
  | some received =>
    have hplain : plainFailures key expected received = [] ↔ expected = received :=
      plainFailures_eq_nil_iff
    rw [h, Option.some.injEq, eq_comm (a := received), ← hplain]
    exact List.map_eq_nil_iff

theorem path_of_mem_keyMismatches {actual : Query} {expected : List String} {m : Mismatch}
    (h : m ∈ keyMismatches rules actual key expected) : m.path = key := by
  rw [keyMismatches] at h
  split at h
  · rw [List.mem_singleton.1 h]
  · obtain ⟨description, -, rfl⟩ := List.mem_map.1 h
    rfl

/-! ## Queries without rules -/

variable {expected actual : Option Query}

theorem mem_matchQuery_iff {m : Mismatch} :
    m ∈ matchQuery rules expected actual ↔ ∃ key values,
      (expected.getD .empty).get? key = some values ∧
        m ∈ keyMismatches rules (actual.getD .empty) key values := by
  cases expected with
  | none => simp [matchQuery]
  | some expected =>
    rw [matchQuery, List.mem_flatMap, Prod.exists]
    simp only [Option.getD_some, Dict.get?_eq_some_iff]

/-- The paths of the mismatches are the keys whose values are not the expected ones. -/
theorem mem_paths_matchQuery_iff
    (hrules : ∀ key ∈ (expected.getD .empty).keys, rules.resolveNamed .query key = none) :
    key ∈ (matchQuery rules expected actual).map Mismatch.path ↔ ∃ values,
      (expected.getD .empty).get? key = some values ∧
        (actual.getD .empty).get? key ≠ some values := by
  have hrule : ∀ {key values}, (expected.getD .empty).get? key = some values →
      rules.resolveNamed .query key = none := fun hget =>
    hrules _ (List.mem_map_of_mem (Dict.get?_eq_some_iff.1 hget))
  rw [List.mem_map]
  constructor
  · rintro ⟨m, hm, rfl⟩
    -- the mismatch was made for a key, which is its path
    obtain ⟨key, values, hget, hmem⟩ := mem_matchQuery_iff.1 hm
    rw [path_of_mem_keyMismatches hmem]
    refine ⟨values, hget, fun hsame => ?_⟩
    rw [(keyMismatches_eq_nil_iff (hrule hget)).2 hsame] at hmem
    cases hmem
  · rintro ⟨values, hget, hdiffer⟩
    have hne := mt (keyMismatches_eq_nil_iff (hrule hget)).1 hdiffer
    obtain ⟨m, hm⟩ := List.exists_mem_of_ne_nil _ hne
    exact ⟨m, mem_matchQuery_iff.2 ⟨key, values, hget, hm⟩, path_of_mem_keyMismatches hm⟩

/-- Queries are compared key by key: the order of the segments of different keys makes no
    difference, and without rules just the keys whose values are the expected ones in their order
    are without mismatches. -/
theorem matchQuery_by_keys :
    (∀ text segments, Query.Reordered (Text.split '&' text) segments →
      Query.parse (Text.join "&" segments) = Query.parse text ∧
        ∀ rules expected,
          matchQuery rules expected (some (Query.parse (Text.join "&" segments))) =
            matchQuery rules expected (some (Query.parse text))) ∧
    ∀ (rules : RuleTable) (expected actual : Option Query),
      (∀ key ∈ (expected.getD .empty).keys, rules.resolveNamed .query key = none) →
      (matchQuery rules expected actual = [] ↔
        ∀ key values, (expected.getD .empty).get? key = some values →
          (actual.getD .empty).get? key = some values) ∧
      ∀ m ∈ matchQuery rules expected actual, ∃ values,
        (expected.getD .empty).get? m.path = some values ∧
          (actual.getD .empty).get? m.path ≠ some values := by
  refine ⟨fun text segments h => ?_, fun rules expected actual hrules => ⟨?_, fun m hm => ?_⟩⟩
  · have hparse := Query.parse_reordered h
    exact ⟨hparse, fun rules expected => by rw [hparse]⟩
  · rw [← List.map_eq_nil_iff (f := Mismatch.path), List.eq_nil_iff_forall_not_mem]
    simp only [mem_paths_matchQuery_iff hrules, not_exists, not_and, not_not]
  · exact (mem_paths_matchQuery_iff hrules).1 (List.mem_map_of_mem hm)

/-- A key may be spelled with escapes, and another key may stand anywhere between its values; these
    are not exchanged. -/
theorem matchQuery_by_keys_repeated :
    let segments := ["x=1", "id=2", "%69d=3"]
    let expected := some (Query.parse "id=2&id=3")
    (Query.Reordered (Text.split '&' "id=2&x=1&%69d=3") segments ∧
      Query.parse (Text.join "&" segments) = Query.parse "id=2&x=1&%69d=3") ∧
    (∀ key ∈ (expected.getD .empty).keys, RuleTable.empty.resolveNamed .query key = none) ∧
      matchQuery .empty expected (some (Query.parse "id=2&x=1&%69d=3")) = [] ∧
      matchQuery .empty expected (some (Query.parse "id=3&id=2")) ≠ [] := by
  intro segments expected
  obtain ⟨horder, hplain⟩ := matchQuery_by_keys
  have hcut : Text.split '&' "id=2&x=1&%69d=3" = ["id=2", "x=1", "%69d=3"] := by decide +kernel
  have hkeys : Query.segmentKey "id=2" ≠ Query.segmentKey "x=1" := by decide +kernel
  have hreordered : Query.Reordered (Text.split '&' "id=2&x=1&%69d=3") segments :=
    hcut ▸ Query.Reordered.exchange hkeys [] ["%69d=3"]
  have hrules : ∀ key ∈ (expected.getD .empty).keys,
      RuleTable.empty.resolveNamed .query key = none := fun _ _ => rfl
  have hentries : (expected.getD .empty).toList = [("id", ["2", "3"])] := by decide +kernel
  refine ⟨⟨hreordered, (horder _ _ hreordered).1⟩, hrules, ?_, fun hnone => ?_⟩
  · refine (hplain .empty expected _ hrules).1.2 fun key values hget => ?_
    have hentry : (key, values) ∈ (expected.getD .empty).toList := Dict.get?_eq_some_iff.1 hget
    rw [hentries] at hentry
    cases List.mem_singleton.1 hentry
    decide +kernel
  · have hget : (expected.getD .empty).get? "id" = some ["2", "3"] := by decide +kernel
    have hsame := (hplain .empty expected _ hrules).1.1 hnone "id" _ hget
    revert hsame
    decide +kernel

end Matching

end MockProvider
