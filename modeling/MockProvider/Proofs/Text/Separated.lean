import MockProvider.Text.Basic

/-!
# Cutting joined texts

Cutting goes by the separators one after the other, so the parts are free of them, and a text that
was put together at a separator is cut like its two halves; a text that was joined is cut like its
parts, which come out again when they are free of the separator. What is added at an end of a text
without a separator in it goes to the first or the last of the parts.
-/

namespace MockProvider.Text

variable {sep : Char}

theorem splitChars_ne_nil (sep : Char) (cs : List Char) : splitChars sep cs ≠ [] := by
  cases cs with
  | nil => simp [splitChars]
  | cons c cs =>
    rw [splitChars]
    split
    · simp
    · split <;> simp

theorem splitChars_cons_of_ne {c : Char} (h : c ≠ sep) (cs : List Char) :
    splitChars sep (c :: cs) = (splitChars sep cs).modifyHead (c :: ·) := by
  rw [splitChars, if_neg h]
  cases hparts : splitChars sep cs with
  | nil => exact absurd hparts (splitChars_ne_nil sep cs)
  | cons part parts => rfl

theorem splitChars_of_not_mem {cs : List Char} (h : sep ∉ cs) : splitChars sep cs = [cs] := by
  induction cs with
  | nil => rfl
  | cons c cs ih =>
    rw [List.mem_cons, not_or] at h
    rw [splitChars_cons_of_ne (Ne.symm h.1), ih h.2]
    rfl

theorem not_mem_of_mem_splitChars {part cs : List Char} (h : part ∈ splitChars sep cs) :
    sep ∉ part := by
  induction cs generalizing part with
  | nil =>
    cases List.mem_singleton.1 h
    exact List.not_mem_nil
  | cons c cs ih =>
    by_cases hc : c = sep
    · rw [splitChars, if_pos hc] at h
      rcases List.mem_cons.1 h with rfl | h
      · exact List.not_mem_nil
      · exact ih h
    · rw [splitChars_cons_of_ne hc] at h
      cases hparts : splitChars sep cs with
      | nil => exact absurd hparts (splitChars_ne_nil sep cs)
      | cons first parts =>
        rw [hparts] at h ih
        rcases List.mem_cons.1 h with rfl | h
        · rw [List.mem_cons, not_or]
          exact ⟨Ne.symm hc, ih List.mem_cons_self⟩
        · exact ih (List.mem_cons_of_mem _ h)

theorem not_mem_of_mem_split {part s : String} (h : part ∈ split sep s) : sep ∉ part.toList := by
  obtain ⟨chars, hchars, rfl⟩ := List.mem_map.1 h
  rw [String.toList_ofList]
  exact not_mem_of_mem_splitChars hchars

/-- A text is cut at a separator in it. -/
theorem splitChars_append_cons (sep : Char) (front back : List Char) :
    splitChars sep (front ++ sep :: back) = splitChars sep front ++ splitChars sep back := by
  induction front with
  | nil => simp [splitChars]
  | cons c front ih =>
    by_cases hc : c = sep
    · simp [splitChars, hc, ih]
    · rw [List.cons_append, splitChars_cons_of_ne hc, splitChars_cons_of_ne hc, ih]
      cases hparts : splitChars sep front with
      | nil => exact absurd hparts (splitChars_ne_nil sep front)
      | cons part parts => rfl

/-! ## Additions at the ends -/

theorem splitChars_append_left {front : List Char} (h : sep ∉ front) (cs : List Char) :
    splitChars sep (front ++ cs) = (splitChars sep cs).modifyHead (front ++ ·) := by
  induction front with
  | nil => exact (congrFun List.modifyHead_id _).symm
  | cons c front ih =>
    rw [List.mem_cons, not_or] at h
    rw [List.cons_append, splitChars_cons_of_ne (Ne.symm h.1), ih h.2, List.modifyHead_modifyHead]
    rfl

theorem splitChars_append_right {back : List Char} (h : sep ∉ back) (cs : List Char) :
    ∃ parts last, splitChars sep cs = parts ++ [last] ∧
      splitChars sep (cs ++ back) = parts ++ [last ++ back] := by
  induction cs with
  | nil => exact ⟨[], [], rfl, splitChars_of_not_mem h⟩
  | cons c cs ih =>
    obtain ⟨parts, last, hparts, hlonger⟩ := ih
    by_cases hc : c = sep
    · refine ⟨[] :: parts, last, ?_, ?_⟩
      · simp [splitChars, hc, hparts]
      · simp [splitChars, hc, hlonger]
    · rw [List.cons_append, splitChars_cons_of_ne hc, splitChars_cons_of_ne hc, hparts, hlonger]
      -- the character goes to the first part, which may be the last one too
      cases parts with
      | nil => exact ⟨[], c :: last, rfl, rfl⟩
      | cons part parts => exact ⟨(c :: part) :: parts, last, rfl, rfl⟩

/-! ## Joined texts -/

theorem toList_join_cons (sep part next : String) (parts : List String) :
    (join sep (part :: next :: parts)).toList =
      part.toList ++ sep.toList ++ (join sep (next :: parts)).toList := by
  rw [join, String.toList_append, String.toList_append]
  simp

theorem join_cons (sep part next : String) (parts : List String) :
    join sep (part :: next :: parts) = part ++ sep ++ join sep (next :: parts) := rfl

theorem join_append_first (sep front part : String) (parts : List String) :
    join sep ((front ++ part) :: parts) = front ++ join sep (part :: parts) := by
  cases parts with
  | nil => rfl
  | cons next parts => simp only [join_cons, String.append_assoc]

/-- The end of a separator can be taken for the front of the parts after it. -/
theorem join_append (sep blank part : String) (parts : List String) :
    join (sep ++ blank) (part :: parts) = join sep (part :: parts.map (blank ++ ·)) := by
  induction parts generalizing part with
  | nil => rfl
  | cons next parts ih =>
    rw [join_cons, ih, List.map_cons, join_cons, join_append_first]
    simp only [String.append_assoc]

/-- A joined text is cut like its parts. -/
theorem splitChars_join_eq_flatMap {parts : List String} (hne : parts ≠ []) :
    splitChars sep (join (String.singleton sep) parts).toList =
      parts.flatMap fun part => splitChars sep part.toList := by
  induction parts with
  | nil => exact absurd rfl hne
  | cons part parts ih =>
    cases parts with
    | nil => simp [join]
    | cons next parts =>
      rw [toList_join_cons, String.toList_singleton, List.append_assoc, List.singleton_append,
        splitChars_append_cons, ih (List.cons_ne_nil _ _)]
      rfl

/-- The parts of a joined text. -/
theorem splitChars_join {parts : List String} (hne : parts ≠ [])
    (h : ∀ part ∈ parts, sep ∉ part.toList) :
    splitChars sep (join (String.singleton sep) parts).toList = parts.map String.toList := by
  have hwhole : parts.map (fun part => splitChars sep part.toList) =
      parts.map fun part => [part.toList] :=
    List.map_congr_left fun part hpart => splitChars_of_not_mem (h part hpart)
  rw [splitChars_join_eq_flatMap hne, List.map_eq_flatMap, List.flatMap_def, hwhole,
    List.flatMap_def]

theorem split_join {parts : List String} (hne : parts ≠ [])
    (h : ∀ part ∈ parts, sep ∉ part.toList) :
    split sep (join (String.singleton sep) parts) = parts := by
  rw [split, splitChars_join hne h, List.map_map]
  exact (List.map_congr_left fun part _ => String.ofList_toList).trans (List.map_id _)

end MockProvider.Text
