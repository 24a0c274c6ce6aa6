import MockProvider.Pattern.Basic

/-!
# What patterns match

`Pattern.Spans` tells from which place of a text to which one a pattern matches, by what its
constructs mean. The matcher goes through the places as a whole: from the marked places it marks
those where a match can end, `Pattern.steps_run`. A pattern between the signs for the begin and the
end of a text is found in it exactly if it spans the text, `Pattern.found_whole_iff`.
-/

namespace MockProvider.Pattern

/-! ## Meaning -/

/-- So many steps of a relation, one after the other. -/
def Rounds (R : Nat → Nat → Prop) : Nat → Nat → Nat → Prop
  | 0, i, j => i = j
  | n + 1, i, j => ∃ k, R i k ∧ Rounds R n k j

/-- The character in front of a place, given the one in front of the text. -/
def charBefore (before : Option Char) (text : List Char) : Nat → Option Char
  | 0 => before
  | i + 1 => text[i]?

/-- The pattern matches the text from one place to another. A place is the number of characters in
    front of it. -/
def Spans (text : List Char) : Pattern → Nat → Nat → Prop
  | .empty, i, j => i = j
  | .set accepts, i, j => (∃ c, text[i]? = some c ∧ accepts c = true) ∧ j = i + 1
  | .look assertion, i, j => assertion.holds (charBefore none text i) text[i]? = true ∧ i = j
  | .seq first second, i, j => ∃ k, first.Spans text i k ∧ second.Spans text k j
  | .alt first second, i, j => first.Spans text i j ∨ second.Spans text i j
  | .repeat body least most, i, j =>
    ∃ n, least ≤ n ∧ (∀ m ∈ most, n ≤ max least m) ∧ Rounds (body.Spans text) n i j

/-! ## Rounds -/

section

variable {R : Nat → Nat → Prop} {i j k n : Nat}

theorem rounds_add (m n : Nat) :
    Rounds R (m + n) i j ↔ ∃ k, Rounds R m i k ∧ Rounds R n k j := by
  induction m generalizing i with
  | zero => simp [Rounds]
  | succ m ih =>
    rw [Nat.add_right_comm]
    simp only [Rounds, ih]
    constructor
    · rintro ⟨l, hfirst, k, hm, hn⟩
      exact ⟨k, ⟨l, hfirst, hm⟩, hn⟩
    · rintro ⟨k, ⟨l, hfirst, hm⟩, hn⟩
      exact ⟨l, hfirst, k, hm, hn⟩

theorem Rounds.le (hR : ∀ i j, R i j → i ≤ j) (h : Rounds R n i j) : i ≤ j := by
  induction n generalizing i with
  | zero => exact Nat.le_of_eq h
  | succ n ih =>
    obtain ⟨k, hfirst, hrest⟩ := h
    exact Nat.le_trans (hR i k hfirst) (ih hrest)

theorem Rounds.le_of_le {bound : Nat} (hR : ∀ i j, R i j → i ≤ bound → j ≤ bound)
    (h : Rounds R n i j) (hi : i ≤ bound) : j ≤ bound := by
  induction n generalizing i with
  | zero => exact h ▸ hi
  | succ n ih =>
    obtain ⟨k, hfirst, hrest⟩ := h
    exact ih hrest (hR i k hfirst hi)

/-- Rounds that stay where they are can be left out, and the others each go on by one place. -/
theorem Rounds.shorten (hR : ∀ i j, R i j → i ≤ j) (h : Rounds R n i j) :
    ∃ m ≤ j - i, Rounds R m i j := by
  induction n generalizing i with
  | zero => exact ⟨0, Nat.zero_le _, h⟩
  | succ n ih =>
    obtain ⟨k, hfirst, hrest⟩ := h
    obtain ⟨m, hm, hshort⟩ := ih hrest
    have hik := hR i k hfirst
    have hkj := Rounds.le hR hrest
    by_cases hstay : i = k
    · rw [hstay]
      exact ⟨m, hm, hshort⟩
    · exact ⟨m + 1, by omega, k, hfirst, hshort⟩

end

section

variable {text : List Char} {p : Pattern} {i j : Nat}

theorem Spans.le (h : p.Spans text i j) : i ≤ j := by
  induction p generalizing i j with
  | empty => exact Nat.le_of_eq h
  | set accepts => exact h.2 ▸ Nat.le_succ i
  | look assertion => exact Nat.le_of_eq h.2
  | seq first second ih ih' =>
    obtain ⟨k, hfirst, hsecond⟩ := h
    exact Nat.le_trans (ih hfirst) (ih' hsecond)
  | alt first second ih ih' => exact h.elim ih ih'
  | «repeat» body least most ih =>
    obtain ⟨n, -, -, hrounds⟩ := h
    exact hrounds.le fun i j => ih

theorem Spans.le_length (h : p.Spans text i j) (hi : i ≤ text.length) : j ≤ text.length := by
  induction p generalizing i j with
  | empty => exact h ▸ hi
  | set accepts =>
    obtain ⟨⟨c, hc, -⟩, rfl⟩ := h
    exact (List.getElem?_eq_some_iff.1 hc).1
  | look assertion => exact h.2 ▸ hi
  | seq first second ih ih' =>
    obtain ⟨k, hfirst, hsecond⟩ := h
    exact ih' hsecond (ih hfirst hi)
  | alt first second ih ih' => exact h.elim (ih · hi) (ih' · hi)
  | «repeat» body least most ih =>
    obtain ⟨n, -, -, hrounds⟩ := h
    exact hrounds.le_of_le (fun i j => ih) hi

end

/-! ## Marks -/

/-- The place is marked. -/
def Marked (marks : Marks) (i : Nat) : Prop :=
  marks[i]? = some true

/-- From the marks of so many places a function makes the marks of those that a relation leads to. -/
def Steps (places : Nat) (f : Marks → Marks) (R : Nat → Nat → Prop) : Prop :=
  ∀ marks : Marks, marks.length = places →
    (f marks).length = places ∧ ∀ j, Marked (f marks) j ↔ ∃ i, Marked marks i ∧ R i j

theorem marked_join {a b : Marks} (h : a.length = b.length) (i : Nat) :
    Marked (join a b) i ↔ Marked a i ∨ Marked b i := by
  simp only [Marked, join, List.getElem?_zipWith]
  by_cases hi : i < a.length
  · simp [List.getElem?_eq_getElem hi, List.getElem?_eq_getElem (h ▸ hi)]
  · simp [List.getElem?_eq_none (Nat.le_of_not_lt hi),
      List.getElem?_eq_none (h ▸ Nat.le_of_not_lt hi)]

theorem length_join {a b : Marks} (h : a.length = b.length) : (join a b).length = a.length := by
  rw [join, List.length_zipWith, h, Nat.min_self]

theorem exists_marked_iff {marks : Marks} : marks.any id = true ↔ ∃ i, Marked marks i := by
  rw [List.any_eq_true]
  constructor
  · rintro ⟨m, hm, hid⟩
    obtain ⟨i, hi⟩ := List.mem_iff_getElem?.1 hm
    exact ⟨i, hi.trans (congrArg some hid)⟩
  · rintro ⟨i, hi⟩
    exact ⟨true, List.mem_of_getElem? hi, rfl⟩

theorem Marked.lt {marks : Marks} {i : Nat} (h : Marked marks i) : i < marks.length :=
  (List.getElem?_eq_some_iff.1 h).1

section

variable {places : Nat} {f g : Marks → Marks} {R S : Nat → Nat → Prop}

theorem steps_id : Steps places id (· = ·) := fun marks hmarks =>
  ⟨hmarks, fun j => by simp⟩

theorem Steps.comp (hf : Steps places f R) (hg : Steps places g S) :
    Steps places (fun marks => g (f marks)) fun i j => ∃ k, R i k ∧ S k j := by
  intro marks hmarks
  obtain ⟨hlength, hmarked⟩ := hf marks hmarks
  obtain ⟨hlength', hmarked'⟩ := hg (f marks) hlength
  refine ⟨hlength', fun j => ?_⟩
  simp only [hmarked', hmarked]
  constructor
  · rintro ⟨k, ⟨i, hi, hik⟩, hkj⟩
    exact ⟨i, hi, k, hik, hkj⟩
  · rintro ⟨i, hi, k, hik, hkj⟩
    exact ⟨k, ⟨i, hi, hik⟩, hkj⟩

theorem Steps.join (hf : Steps places f R) (hg : Steps places g S) :
    Steps places (fun marks => join (f marks) (g marks)) fun i j => R i j ∨ S i j := by
  intro marks hmarks
  obtain ⟨hlength, hmarked⟩ := hf marks hmarks
  obtain ⟨hlength', hmarked'⟩ := hg marks hmarks
  have hsame := hlength.trans hlength'.symm
  refine ⟨(length_join hsame).trans hlength, fun j => ?_⟩
  rw [marked_join hsame, hmarked, hmarked']
  simp only [and_or_left, exists_or]

theorem Steps.congr (hf : Steps places f R)
    (h : ∀ i j, i < places → (R i j ↔ S i j)) : Steps places f S := by
  intro marks hmarks
  obtain ⟨hlength, hmarked⟩ := hf marks hmarks
  refine ⟨hlength, fun j => (hmarked j).trans (exists_congr fun i => and_congr_right fun hi => ?_)⟩
  exact h i j (hmarks ▸ hi.lt)

/-- Rounds may end early when no place is marked any more. -/
theorem Steps.times (hf : Steps places f R) (n : Nat) :
    Steps places (times f n) (Rounds R n) := by
  induction n with
  | zero => exact steps_id
  | succ n ih =>
    intro marks hmarks
    rw [Pattern.times]
    split
    · exact hf.comp ih marks hmarks
    · next hnone =>
      have hunmarked (i : Nat) : ¬ Marked marks i := fun hi => hnone (exists_marked_iff.2 ⟨i, hi⟩)
      refine ⟨hmarks, fun j => iff_of_false (hunmarked j) ?_⟩
      rintro ⟨i, hi, -⟩
      exact hunmarked i hi

/-- Marks that a step adds nothing to are those of all places that further steps lead to. -/
theorem Rounds.marked {marks : Marks} (hclosed : ∀ i j, Marked marks i → R i j → Marked marks j)
    {n i j : Nat} (h : Rounds R n i j) (hi : Marked marks i) : Marked marks j := by
  induction n generalizing i with
  | zero => exact h ▸ hi
  | succ n ih =>
    obtain ⟨k, hfirst, hrest⟩ := h
    exact ih hrest (hclosed i k hi hfirst)

theorem Steps.upTo (hf : Steps places f R) (n : Nat) :
    Steps places (upTo f n) fun i j => ∃ m ≤ n, Rounds R m i j := by
  induction n with
  | zero =>
    refine Steps.congr steps_id fun i j _ => ?_
    simp [Rounds]
  | succ n ih =>
    have hwider : Steps places (fun marks => Pattern.join marks (f marks)) fun i j => i = j ∨ R i j :=
      steps_id.join hf
    intro marks hmarks
    rw [Pattern.upTo]
    dsimp only
    split
    · next hfix =>
      have hclosed (i j : Nat) (hi : Marked marks i) (hij : R i j) : Marked marks j := by
        rw [← hfix]
        exact ((hwider marks hmarks).2 j).2 ⟨i, hi, Or.inr hij⟩
      refine ⟨hmarks, fun j => ⟨fun hj => ⟨j, hj, 0, Nat.zero_le _, rfl⟩, ?_⟩⟩
      rintro ⟨i, hi, m, -, hrounds⟩
      exact hrounds.marked hclosed hi
    · refine (hwider.comp ih).congr (fun i j _ => ?_) marks hmarks
      constructor
      · rintro ⟨k, rfl | hik, m, hm, hrounds⟩
        · exact ⟨m, Nat.le_succ_of_le hm, hrounds⟩
        · exact ⟨m + 1, Nat.succ_le_succ hm, k, hik, hrounds⟩
      · rintro ⟨m, hm, hrounds⟩
        cases m with
        | zero => exact ⟨i, Or.inl rfl, 0, Nat.zero_le _, hrounds⟩
        | succ m =>
          obtain ⟨k, hik, hrounds⟩ := hrounds
          exact ⟨k, Or.inr hik, m, Nat.le_of_succ_le_succ hm, hrounds⟩

end

/-! ## Single characters -/

theorem length_advance (accepts : CharSet) (text : List Char) (marks : Marks)
    (h : marks.length = text.length + 1) : (advance accepts text marks).length = text.length := by
  induction text generalizing marks with
  | nil => rfl
  | cons c text ih =>
    obtain ⟨m, marks, rfl⟩ := List.exists_cons_of_length_eq_add_one h
    simp [advance, ih marks (Nat.succ.inj h)]

theorem marked_advance (accepts : CharSet) (text : List Char) (marks : Marks)
    (h : marks.length = text.length + 1) (i : Nat) :
    Marked (advance accepts text marks) i ↔
      Marked marks i ∧ ∃ c, text[i]? = some c ∧ accepts c = true := by
  induction text generalizing marks i with
  | nil => simp [advance, Marked]
  | cons c text ih =>
    obtain ⟨m, marks, rfl⟩ := List.exists_cons_of_length_eq_add_one h
    cases i with
    | zero => simp [advance, Marked]
    | succ i => simpa [advance, Marked] using ih marks (Nat.succ.inj h) i

theorem steps_set (accepts : CharSet) (text : List Char) :
    Steps (text.length + 1) (run text (.set accepts)) (Spans text (.set accepts)) := by
  intro marks hmarks
  refine ⟨congrArg Nat.succ (length_advance accepts text marks hmarks), fun j => ?_⟩
  cases j with
  | zero => simp [run, Marked, Spans]
  | succ j =>
    have hadvance := marked_advance accepts text marks hmarks j
    simp only [run, Spans, Marked, List.getElem?_cons_succ, Nat.add_right_cancel_iff] at hadvance ⊢
    rw [hadvance]
    constructor
    · rintro ⟨hj, hc⟩
      exact ⟨j, hj, hc, rfl⟩
    · rintro ⟨i, hi, hc, rfl⟩
      exact ⟨hi, hc⟩

theorem length_keep (look : Look) (before : Option Char) (text : List Char) (marks : Marks)
    (h : marks.length = text.length + 1) :
    (keep look before text marks).length = text.length + 1 := by
  induction text generalizing before marks with
  | nil =>
    obtain ⟨m, marks, rfl⟩ := List.exists_cons_of_length_eq_add_one h
    rfl
  | cons c text ih =>
    obtain ⟨m, marks, rfl⟩ := List.exists_cons_of_length_eq_add_one h
    simp [keep, ih (some c) marks (Nat.succ.inj h)]

theorem marked_keep (look : Look) (before : Option Char) (text : List Char) (marks : Marks)
    (h : marks.length = text.length + 1) (i : Nat) :
    Marked (keep look before text marks) i ↔
      Marked marks i ∧ look.holds (charBefore before text i) text[i]? = true := by
  induction text generalizing before marks i with
  | nil =>
    obtain ⟨m, marks, rfl⟩ := List.exists_cons_of_length_eq_add_one h
    obtain rfl := List.length_eq_zero_iff.1 (Nat.succ.inj h)
    cases i with
    | zero => simp [keep, Marked, charBefore]
    | succ i => simp [keep, Marked]
  | cons c text ih =>
    obtain ⟨m, marks, rfl⟩ := List.exists_cons_of_length_eq_add_one h
    cases i with
    | zero => simp [keep, Marked, charBefore]
    | succ i =>
      -- in front of the rest of the text stands its first character
      have hbefore : charBefore (some c) text i = charBefore before (c :: text) (i + 1) := by
        cases i <;> rfl
      simpa [keep, Marked, hbefore] using ih (some c) marks (Nat.succ.inj h) i

theorem steps_look (assertion : Look) (text : List Char) :
    Steps (text.length + 1) (run text (.look assertion)) (Spans text (.look assertion)) := by
  intro marks hmarks
  refine ⟨length_keep assertion none text marks hmarks, fun j => ?_⟩
  rw [run, marked_keep assertion none text marks hmarks]
  constructor
  · rintro ⟨hj, hholds⟩
    exact ⟨j, hj, hholds, rfl⟩
  · rintro ⟨i, hi, hholds, rfl⟩
    exact ⟨hi, hholds⟩

/-! ## Patterns -/

/-- More rounds than there are places lead to no further places. -/
theorem exists_rounds_iff {text : List Char} {p : Pattern} {least i j : Nat} (hi : i ≤ text.length) :
    (∃ k, Rounds (p.Spans text) least i k ∧
        ∃ m ≤ text.length + 1, Rounds (p.Spans text) m k j) ↔
      ∃ n, least ≤ n ∧ Rounds (p.Spans text) n i j := by
  constructor
  · rintro ⟨k, hleast, m, -, hmore⟩
    exact ⟨least + m, Nat.le_add_right _ _, (rounds_add _ _).2 ⟨k, hleast, hmore⟩⟩
  · rintro ⟨n, hn, hrounds⟩
    obtain ⟨more, rfl⟩ := Nat.exists_eq_add_of_le hn
    obtain ⟨k, hleast, hmore⟩ := (rounds_add _ _).1 hrounds
    obtain ⟨m, hm, hshort⟩ := hmore.shorten fun i j => Spans.le
    have hend := hrounds.le_of_le (fun i j => Spans.le_length) hi
    exact ⟨k, hleast, m, by omega, hshort⟩

theorem steps_run (text : List Char) (p : Pattern) :
    Steps (text.length + 1) (p.run text) (p.Spans text) := by
  induction p with
  | empty => exact steps_id
  | set accepts => exact steps_set accepts text
  | look assertion => exact steps_look assertion text
  | seq first second ih ih' => exact ih.comp ih'
  | alt first second ih ih' => exact ih.join ih'
  | «repeat» body least most ih =>
    cases most with
    | some most =>
      refine ((ih.times least).comp (ih.upTo (most - least))).congr fun i j _ => ?_
      constructor
      · rintro ⟨k, hleast, m, hm, hmore⟩
        refine ⟨least + m, Nat.le_add_right _ _, ?_, (rounds_add _ _).2 ⟨k, hleast, hmore⟩⟩
        rintro _ ⟨⟩
        omega
      · rintro ⟨n, hn, hmost, hrounds⟩
        have hmost := hmost most rfl
        obtain ⟨more, rfl⟩ := Nat.exists_eq_add_of_le hn
        obtain ⟨k, hleast, hmore⟩ := (rounds_add _ _).1 hrounds
        exact ⟨k, hleast, more, by omega, hmore⟩
    | none =>
      refine ((ih.times least).comp (ih.upTo (text.length + 1))).congr fun i j hi => ?_
      rw [exists_rounds_iff (Nat.le_of_lt_succ hi)]
      simp [Spans]

theorem found_iff (p : Pattern) (text : List Char) :
    p.found text = true ↔ ∃ i j, i ≤ text.length ∧ p.Spans text i j := by
  obtain ⟨-, hmarked⟩ := steps_run text p (List.replicate (text.length + 1) true)
    List.length_replicate
  have hstart (i : Nat) : Marked (List.replicate (text.length + 1) true) i ↔ i ≤ text.length := by
    rw [Marked, List.getElem?_replicate, ← Nat.lt_succ_iff]
    split <;> simp [*]
  rw [found, exists_marked_iff, exists_comm]
  simp only [hmarked, hstart]

/-! ## Whole texts -/

/-- The pattern between the signs for the begin and the end of a text. -/
def whole (p : Pattern) : Pattern :=
  .seq (.look .textStart) (.seq p (.look .textEnd))

theorem found_whole_iff (p : Pattern) (text : List Char) :
    p.whole.found text = true ↔ p.Spans text 0 text.length := by
  rw [found_iff]
  constructor
  · rintro ⟨start, stop, hle, i, ⟨hstart, hi⟩, j, hspans, hend, hj⟩
    rw [hi] at hstart hle
    have hfirst : i = 0 := by
      cases i with
      | zero => rfl
      | succ i => simp [Look.holds, charBefore, Nat.not_le.2 hle] at hstart
    have hlast : text.length ≤ j := by simpa [Look.holds] using hend
    rw [hfirst] at hspans
    rwa [Nat.le_antisymm (hspans.le_length (Nat.zero_le _)) hlast] at hspans
  · intro h
    refine ⟨0, text.length, Nat.zero_le _, 0, ⟨rfl, rfl⟩, text.length, h, ?_, rfl⟩
    simp [Look.holds]

end MockProvider.Pattern
