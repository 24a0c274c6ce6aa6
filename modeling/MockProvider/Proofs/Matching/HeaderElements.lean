import Mathlib.Data.List.Forall2
import MockProvider.Matching.Headers
import MockProvider.Proofs.Text.Blank
import MockProvider.Proofs.Text.Separated

/-!
# Elements of headers

The values of a header are compared by their elements. The elements do not tell whether they stood
in one value or in several, nor how many blanks stood around the commas. The normal form of a header
is its elements in one text; it tells the elements and no more, `normalHeader_eq_iff`.
-/

namespace MockProvider

namespace Text

/-- The second text is the first one with blanks added at its ends. -/
def Padded (text padded : String) : Prop :=
  ∃ before after : List Char,
    (∀ c ∈ before, isBlank c = true) ∧ (∀ c ∈ after, isBlank c = true) ∧
      padded.toList = before ++ text.toList ++ after

section

variable {sep : Char} {blank : List Char}

theorem not_mem_of_isBlank (hsep : isBlank sep = false) (h : ∀ c ∈ blank, isBlank c = true) :
    sep ∉ blank := by
  intro hmem
  rw [h sep hmem] at hsep
  cases hsep

theorem map_trimChars_append_left (hsep : isBlank sep = false)
    (h : ∀ c ∈ blank, isBlank c = true) (cs : List Char) :
    (splitChars sep (blank ++ cs)).map trimChars = (splitChars sep cs).map trimChars := by
  rw [splitChars_append_left (not_mem_of_isBlank hsep h)]
  cases splitChars sep cs with
  | nil => rfl
  | cons part parts =>
    rw [List.modifyHead_cons, List.map_cons, List.map_cons, trimChars_append_left h]

theorem map_trimChars_append_right (hsep : isBlank sep = false)
    (h : ∀ c ∈ blank, isBlank c = true) (cs : List Char) :
    (splitChars sep (cs ++ blank)).map trimChars = (splitChars sep cs).map trimChars := by
  obtain ⟨parts, last, hparts, hlonger⟩ :=
    splitChars_append_right (not_mem_of_isBlank hsep h) cs
  rw [hparts, hlonger, List.map_append, List.map_append, List.map_singleton, List.map_singleton,
    trimChars_append_right h]

end

end Text

namespace Matching

theorem headerElements_append (front back : List String) :
    headerElements (front ++ back) = headerElements front ++ headerElements back :=
  List.flatMap_append

theorem headerElements_cons (value : String) (values : List String) :
    headerElements (value :: values) = headerElements [value] ++ headerElements values :=
  headerElements_append [value] values

theorem headerElements_singleton (value : String) :
    headerElements [value] =
      ((Text.splitChars ',' value.toList).map Text.trimChars).map String.ofList := by
  simp [headerElements, Text.split, Text.trim, Function.comp_def]

/-- Blanks around a value, and so around the commas between values, are no part of the elements. -/
theorem headerElements_of_padded {values padded : List String}
    (h : List.Forall₂ Text.Padded values padded) :
    headerElements padded = headerElements values := by
  induction h with
  | nil => rfl
  | cons hfirst _ ih =>
    obtain ⟨before, after, hbefore, hafter, hpadded⟩ := hfirst
    rw [headerElements_cons, ih, headerElements_singleton, hpadded,
      Text.map_trimChars_append_right rfl hafter, Text.map_trimChars_append_left rfl hbefore,
      ← headerElements_singleton, ← headerElements_cons]

/-- One value that lists several stands for these. -/
theorem headerElements_join {values : List String} (hne : values ≠ []) :
    headerElements [Text.join "," values] = headerElements values := by
  have hcut : Text.splitChars ',' (Text.join "," values).toList =
      values.flatMap fun value => Text.splitChars ',' value.toList :=
    Text.splitChars_join_eq_flatMap hne
  rw [headerElements_singleton, hcut, List.map_flatMap, List.map_flatMap]
  simp only [headerElements, Text.split, Text.trim, List.map_map, Function.comp_def,
    String.toList_ofList]

/-! ## Normal forms -/

/-- A text that is an element by itself. -/
structure IsElement (text : String) : Prop where
  comma : ',' ∉ text.toList
  trimmed : Text.trim text = text

theorem isElement_of_mem {values : List String} {element : String}
    (h : element ∈ headerElements values) : IsElement element := by
  obtain ⟨value, -, hvalue⟩ := List.mem_flatMap.1 h
  obtain ⟨part, hpart, rfl⟩ := List.mem_map.1 hvalue
  refine ⟨fun hcomma => ?_, Text.trim_trim part⟩
  rw [Text.trim, String.toList_ofList] at hcomma
  exact Text.not_mem_of_mem_split hpart (Text.mem_of_mem_trimChars hcomma)

theorem headerElements_of_elements {elements : List String} (h : ∀ e ∈ elements, IsElement e) :
    headerElements elements = elements := by
  induction elements with
  | nil => rfl
  | cons element elements ih =>
    obtain ⟨hfirst, hrest⟩ := List.forall_mem_cons.1 h
    have hwhole : (Text.split ',' element).map Text.trim = [element] := by
      rw [Text.split, Text.splitChars_of_not_mem hfirst.comma, List.map_singleton,
        List.map_singleton, String.ofList_toList, hfirst.trimmed]
    rw [headerElements_cons, ih hrest, headerElements, List.flatMap_singleton, hwhole]
    rfl

/-- The elements by which a header is compared: where there are no values these are the ones of an
    empty value. -/
def comparedElements (values : List String) : List String :=
  if values = [] then [""] else headerElements values

theorem comparedElements_ne_nil (values : List String) : comparedElements values ≠ [] := by
  cases values with
  | nil => simp [comparedElements]
  | cons value values =>
    rw [comparedElements, if_neg (List.cons_ne_nil _ _), headerElements_cons,
      headerElements_singleton]
    simp [Text.splitChars_ne_nil]

theorem isElement_of_mem_compared {values : List String} {element : String}
    (h : element ∈ comparedElements values) : IsElement element := by
  rw [comparedElements] at h
  split at h
  · cases List.mem_singleton.1 h
    exact ⟨by simp, rfl⟩
  · exact isElement_of_mem h

theorem normalHeader_eq_join (values : List String) :
    normalHeader values = Text.join ", " (comparedElements values) := by
  cases values <;> rfl

/-- The elements stand in the normal form, so it tells them apart. -/
theorem headerElements_normalHeader (values : List String) :
    headerElements [normalHeader values] = comparedElements values := by
  obtain ⟨element, elements, hcompared⟩ :=
    List.exists_cons_of_ne_nil (comparedElements_ne_nil values)
  have hall : ∀ e ∈ element :: elements, IsElement e := fun e he =>
    isElement_of_mem_compared (hcompared ▸ he)
  -- the blanks between the elements are added to those after them
  have hpadded : List.Forall₂ Text.Padded (element :: elements)
      (element :: elements.map (" " ++ ·)) := by
    refine .cons ⟨[], [], by simp, by simp, by simp⟩ ?_
    refine List.forall₂_map_right_iff.2 (List.forall₂_same.2 fun e _ => ?_)
    exact ⟨[' '], [], by simp [Text.isBlank], by simp, by simp⟩
  calc headerElements [normalHeader values]
      = headerElements [Text.join ", " (element :: elements)] := by
        rw [normalHeader_eq_join, hcompared]
    _ = headerElements [Text.join "," (element :: elements.map (" " ++ ·))] := by
        rw [← Text.join_append]
        rfl
    _ = headerElements (element :: elements) := by
        rw [headerElements_join (List.cons_ne_nil _ _), headerElements_of_padded hpadded]
    _ = comparedElements values := by
        rw [headerElements_of_elements hall, hcompared]

theorem normalHeader_eq_iff {values others : List String} :
    normalHeader values = normalHeader others ↔
      comparedElements values = comparedElements others := by
  constructor
  · intro h
    rw [← headerElements_normalHeader, h, headerElements_normalHeader]
  · intro h
    rw [normalHeader_eq_join, h, ← normalHeader_eq_join]

theorem normalHeader_normalHeader (values : List String) :
    normalHeader [normalHeader values] = normalHeader values := by
  rw [normalHeader, headerElements_normalHeader, ← normalHeader_eq_join]

end Matching

end MockProvider
