import Mathlib.Data.List.DropRight
import MockProvider.Text.Basic

/-!
# Trimming

A text without blanks at its ends, which is `Trimmed`, stays as it is when it is trimmed again. It
remains trimmed when blanks are dropped inside, and when its characters are replaced by others that
are blanks just where these were. Blanks that are added at its ends are gone after trimming.
-/

namespace MockProvider.Text

theorem trimChars_eq (cs : List Char) : trimChars cs = (trimStart cs).rdropWhile isBlank := rfl

/-- Cutting off the end leaves no blank at the front. -/
theorem trimStart_trimChars (cs : List Char) : trimStart (trimChars cs) = trimChars cs := by
  obtain ⟨rest, hrest⟩ := List.rdropWhile_prefix isBlank (trimStart cs)
  rw [← trimChars_eq] at hrest
  cases hfront : trimChars cs with
  | nil => rfl
  | cons c front =>
    have hfirst := List.head?_dropWhile_not isBlank cs
    rw [← trimStart, ← hrest, hfront] at hfirst
    have hblank : isBlank c = false := hfirst
    simp [trimStart, hblank]

theorem mem_of_mem_trimChars {c : Char} {cs : List Char} (h : c ∈ trimChars cs) : c ∈ cs := by
  have hstart : c ∈ trimStart cs :=
    List.mem_reverse.1 ((List.dropWhile_sublist _).subset (List.mem_reverse.1 h))
  exact (List.dropWhile_sublist _).subset hstart

/-! ## Trimmed texts -/

/-- No blank stands at either end. -/
structure Trimmed (cs : List Char) : Prop where
  start : trimStart cs = cs
  finish : trimStart cs.reverse = cs.reverse

theorem trimmed_trimChars (cs : List Char) : Trimmed (trimChars cs) where
  start := trimStart_trimChars cs
  finish := by
    rw [trimChars, List.reverse_reverse]
    exact List.dropWhile_idempotent _ _

theorem Trimmed.trimChars_eq {cs : List Char} (h : Trimmed cs) : trimChars cs = cs := by
  rw [trimChars, h.start, h.finish, List.reverse_reverse]

theorem trim_trim (s : String) : trim (trim s) = trim s := by
  rw [trim, trim, String.toList_ofList, (trimmed_trimChars _).trimChars_eq]

theorem trimStart_map {f : Char → Char} (hf : ∀ c, isBlank (f c) = isBlank c) (cs : List Char) :
    trimStart (cs.map f) = (trimStart cs).map f := by
  have hsame : isBlank ∘ f = isBlank := funext hf
  rw [trimStart, List.dropWhile_map, hsame, ← trimStart]

theorem Trimmed.map {f : Char → Char} (hf : ∀ c, isBlank (f c) = isBlank c) {cs : List Char}
    (h : Trimmed cs) : Trimmed (cs.map f) where
  start := by rw [trimStart_map hf, h.start]
  finish := by rw [← List.map_reverse, trimStart_map hf, h.finish]

/-- A character at the front that is no blank stays there when blanks are dropped. -/
theorem trimStart_filter {p : Char → Bool} (hp : ∀ c, isBlank c = false → p c = true)
    {cs : List Char} (h : trimStart cs = cs) : trimStart (cs.filter p) = cs.filter p := by
  cases cs with
  | nil => rfl
  | cons c cs =>
    have hfirst := List.head?_dropWhile_not isBlank (c :: cs)
    rw [← trimStart, h] at hfirst
    have hblank : isBlank c = false := hfirst
    simp [trimStart, hp c hblank, hblank]

theorem Trimmed.filter {p : Char → Bool} (hp : ∀ c, isBlank c = false → p c = true)
    {cs : List Char} (h : Trimmed cs) : Trimmed (cs.filter p) where
  start := trimStart_filter hp h.start
  finish := by rw [← List.filter_reverse, trimStart_filter hp h.finish]

/-! ## Blanks added at the ends -/

theorem trimChars_append_left {blank : List Char} (h : ∀ c ∈ blank, isBlank c = true)
    (cs : List Char) : trimChars (blank ++ cs) = trimChars cs := by
  rw [trimChars_eq, trimChars_eq, trimStart, List.dropWhile_append_of_pos h]
  rfl

theorem trimChars_append_right {blank : List Char} (h : ∀ c ∈ blank, isBlank c = true)
    (cs : List Char) : trimChars (cs ++ blank) = trimChars cs := by
  have hstart : trimStart blank = [] := List.dropWhile_eq_nil_iff.2 h
  have hend : ∀ front : List Char,
      (front ++ blank).rdropWhile isBlank = front.rdropWhile isBlank := by
    intro front
    rw [List.rdropWhile, List.rdropWhile, List.reverse_append,
      List.dropWhile_append_of_pos fun c hc => h c (List.mem_reverse.1 hc)]
  rw [trimChars_eq, trimChars_eq, trimStart, List.dropWhile_append]
  split
  -- a text of blanks only is trimmed to nothing together with what is added
  · next hnone =>
    rw [← trimStart, hstart, trimStart, List.isEmpty_iff.1 hnone]
  · exact hend _

end MockProvider.Text
