import MockProvider.Proofs.Dict.Grouping
import MockProvider.Proofs.Text.Percent
import MockProvider.Proofs.Text.Separated
import MockProvider.Query

/-!
# Reading back queries

A query is written as its pairs, and these are read back one by one; grouped by their keys they are
the query again, without the keys that have no values: `Query.render_then_parse`.
-/

namespace MockProvider.Query

theorem parse_eq_group (text : String) : parse text = Dict.group (pairs text) := rfl

theorem toPairs_eq_ungroup (query : Query) : query.toPairs = Dict.ungroup query.toList := rfl

/-- A key or value is read back from its escapes. -/
theorem decode_encode (s : String) : decode (Percent.encode s) = s := by
  have hspaced : plusToBlank (Percent.encode s) = Percent.encode s := by
    have hplus := Percent.not_mem_encode (c := '+') (by decide) s
    have hmap : (Percent.encode s).toList.map (fun c => if c = '+' then ' ' else c) =
        (Percent.encode s).toList.map id := by
      apply List.map_congr_left
      intro c hc
      have hne : c ≠ '+' := fun heq => hplus (heq ▸ hc)
      exact if_neg hne
    rw [plusToBlank, hmap, List.map_id, String.ofList_toList]
  rw [decode, hspaced, Percent.decode?_encode, Option.getD_some]

/-! ## Pairs -/

theorem toList_renderPair (pair : String × String) :
    (renderPair pair).toList =
      (Percent.encode pair.1).toList ++ '=' :: (Percent.encode pair.2).toList := by
  rw [renderPair, String.toList_append, String.toList_append]
  simp

theorem not_mem_renderPair (pair : String × String) : '&' ∉ (renderPair pair).toList := by
  have hkey := Percent.not_mem_encode (c := '&') (by decide) pair.1
  have hvalue := Percent.not_mem_encode (c := '&') (by decide) pair.2
  rw [toList_renderPair, List.mem_append, List.mem_cons]
  rintro (hmem | heq | hmem)
  · exact hkey hmem
  · cases heq
  · exact hvalue hmem

/-- A pair is read back. -/
theorem cutPair_renderPair (pair : String × String) :
    cutPair (renderPair pair).toList = pair := by
  have hkey : ∀ c ∈ (Percent.encode pair.1).toList, (c != '=') = true := by
    intro c hc
    rw [bne_iff_ne]
    rintro rfl
    exact Percent.not_mem_encode (by decide) pair.1 hc
  rw [cutPair, toList_renderPair]
  rw [List.takeWhile_append_of_pos hkey, List.dropWhile_append_of_pos hkey]
  simp [decode_encode]

/-- The pairs of a query string that was written. -/
theorem pairs_render (query : Query) : pairs query.render = query.toPairs := by
  by_cases hnone : query.toPairs = []
  · rw [render, hnone]
    rfl
  · have hparts : ∀ part ∈ query.toPairs.map renderPair, '&' ∉ part.toList := by
      intro part hpart
      obtain ⟨pair, -, rfl⟩ := List.mem_map.1 hpart
      exact not_mem_renderPair pair
    have hsplit := Text.splitChars_join (by simpa using hnone) hparts
    have hjoin :
        Text.join (String.singleton '&') (query.toPairs.map renderPair) = query.render := rfl
    rw [hjoin] at hsplit
    have hfull : ∀ part ∈ (query.toPairs.map renderPair).map String.toList,
        (!part.isEmpty) = true := by
      intro part hpart
      obtain ⟨pair, -, rfl⟩ := List.mem_map.1 (List.map_map ▸ hpart)
      simp [toList_renderPair]
    rw [pairs, hsplit, List.filter_eq_self.2 hfull, List.map_map, List.map_map]
    exact (List.map_congr_left fun pair _ => cutPair_renderPair pair).trans (List.map_id _)

/-! ## Queries -/

theorem parse_render_eq_filled (query : Query) : parse query.render = query.filled := by
  rw [parse_eq_group, pairs_render, toPairs_eq_ungroup, Dict.group_ungroup]

/-- A query is read back, where no key is without values. -/
theorem parse_render {query : Query} (h : ∀ entry ∈ query.toList, entry.2 ≠ []) :
    parse query.render = query := by
  rw [parse_render_eq_filled, Dict.filled_eq_self h]

/-- What is read back from a query is the query without the keys that have no values. A query that
    was read has no such keys, so it is read back as it is. -/
theorem render_then_parse :
    (∀ query : Query, parse query.render = query.filled) ∧
      ∀ text : String, parse (parse text).render = parse text := by
  refine ⟨parse_render_eq_filled, fun text => ?_⟩
  rw [parse_render_eq_filled, parse_eq_group, Dict.filled_group]

theorem render_ne_empty {query : Query} (h : ∀ entry ∈ query.toList, entry.2 ≠ [])
    (hne : query.isEmpty = false) : query.render.isEmpty = false := by
  rw [Bool.eq_false_iff, ne_eq, String.isEmpty_iff]
  intro hempty
  -- an empty text is read as the empty query, which this one is not
  have hback := parse_render h
  rw [hempty] at hback
  rw [← hback] at hne
  cases hne

end MockProvider.Query
