import MockProvider.Proofs.DocPath.Grammar

/-!
# Reading back path expressions

A path is written with one spelling of each step: a plain name after a point, any other name in
quotes, where nothing is escaped. So it is read back, by `parse_render`, when no field name has an
apostrophe and the indexes fit into 64 bits, as those of a path that was read do. No other path is
read back: the text can be cut into steps in one way only, and a quoted name that is cut off at its
apostrophe is another name. `render_reads_back` says so for all paths that can be made.
-/

namespace MockProvider.DocPath

/-! ## Paths that can be written -/

/-- A step that is read back: a name has no apostrophe, and an index fits. -/
def Step.Writable : Step → Prop
  | .field name => '\'' ∉ name.toList
  | .index position => position < indexBound
  | .anyChild => True
  | .anyIndex => True

/-- A path that is read back. -/
def Writable (p : DocPath) : Prop :=
  ∀ step ∈ p.steps, step.Writable

/-- No field name of a path has an apostrophe. -/
def Unquoted (p : DocPath) : Prop :=
  ∀ name, .field name ∈ p.steps → '\'' ∉ name.toList

/-! ## Written steps -/

/-- The marks of the grammar are not plain. -/
theorem isPlainChar_special : isPlainChar '.' = false ∧ isPlainChar '[' = false ∧
    isPlainChar '*' = false ∧ isPlainChar '\'' = false := by
  decide +kernel

theorem not_mem_of_isPlain {name : List Char} (h : isPlain name = true) {c : Char}
    (hc : isPlainChar c = false) : c ∉ name := by
  intro hmem
  have hplain : isPlainChar c = true := List.all_eq_true.1 (Bool.and_eq_true_iff.1 h).2 c hmem
  rw [hc] at hplain
  cases hplain

theorem Step.Spelling.of_isPlain {name : String} (h : isPlain name.toList = true) :
    (Step.field name).Spelling ('.' :: name.toList) := by
  obtain ⟨hpoint, hbracket, hstar, -⟩ := isPlainChar_special
  have hne : name.toList ≠ [] := by
    intro hempty
    rw [hempty] at h
    cases h
  refine .plain hne (not_mem_of_isPlain h hpoint) (not_mem_of_isPlain h hbracket) fun hhead => ?_
  exact not_mem_of_isPlain h hstar (List.mem_of_head? hhead)

/-- A writable step is written with one of its spellings. -/
theorem Step.Writable.spelling {s : Step} (h : s.Writable) : s.Spelling s.chars := by
  cases s with
  | field name =>
    rw [Step.chars]
    split
    · next hplain => exact .of_isPlain hplain
    · exact .quoted h
  | index position =>
    have hvalue := Nat.ofDigitChars_ten_toDigits (n := position)
    have hdigits : ∀ c ∈ Nat.toDigits 10 position, c.isDigit = true := fun c hc =>
      Nat.isDigit_of_mem_toDigits (by decide) (by decide) hc
    have hspelling := Step.Spelling.index Nat.toDigits_ne_nil hdigits (by rwa [hvalue])
    rwa [hvalue] at hspelling
  | anyChild => exact .anyChild
  | anyIndex => exact .anyIndex

theorem startsStep_chars (s : Step) (rest : List Char) : StartsStep (s.chars ++ rest) := by
  cases s with
  | field name =>
    rw [Step.chars]
    split
    · exact Or.inl rfl
    · exact Or.inr rfl
  | index position => exact Or.inr rfl
  | anyChild => exact Or.inl rfl
  | anyIndex => exact Or.inr rfl

theorem startsStep_flatMap (steps : List Step) : StartsStep (steps.flatMap Step.chars) := by
  cases steps with
  | nil => trivial
  | cons s steps => exact startsStep_chars s _

theorem Writable.spelling {p : DocPath} (h : p.Writable) : p.Spelling p.render := by
  refine ⟨p.steps.map Step.chars, ?_, ?_⟩
  · exact List.forall₂_map_right_iff.2 (List.forall₂_same.2 fun s hs => (h s hs).spelling)
  · rw [render, String.toList_ofList, chars, List.flatMap_def]

/-- A path is read back from its text. -/
theorem parse_render {p : DocPath} (h : p.Writable) : parse p.render = .ok p :=
  parse_eq_ok_iff.2 h.spelling

theorem Writable.eq_of_render {p q : DocPath} (hp : p.Writable) (hq : q.Writable)
    (h : p.render = q.render) : p = q := by
  have hread := parse_render hp
  rw [h, parse_render hq] at hread
  exact (Except.ok.inj hread).symm

/-! ## Paths that were read -/

theorem Step.Spelling.fits {position : Nat} {front : List Char}
    (h : (Step.index position).Spelling front) : position < indexBound := by
  cases h with
  | index _ _ hfits => exact hfits

theorem fits_of_spellings {steps : List Step} {spellings : List (List Char)}
    (h : List.Forall₂ Step.Spelling steps spellings) :
    ∀ position, .index position ∈ steps → position < indexBound := by
  induction h with
  | nil => nofun
  | cons hfirst _ ih =>
    intro position hmem
    rcases List.mem_cons.1 hmem with rfl | hmem
    · exact hfirst.fits
    · exact ih position hmem

theorem parse_fits {expression : String} {p : DocPath} (h : parse expression = .ok p) :
    ∀ position, .index position ∈ p.steps → position < indexBound := by
  obtain ⟨spellings, hspellings, -⟩ := parse_eq_ok_iff.1 h
  exact fits_of_spellings hspellings

/-- A path whose indexes fit is written and read back when no name has an apostrophe. -/
theorem Unquoted.writable {p : DocPath} (h : p.Unquoted)
    (hfits : ∀ position, .index position ∈ p.steps → position < indexBound) : p.Writable := by
  intro step hstep
  cases step with
  | field name => exact h name hstep
  | index position => exact hfits position hstep
  | anyChild => trivial
  | anyIndex => trivial

/-! ## Paths that are read back -/

/-- A text has one first step at most. -/
theorem Step.Spelling.unique {s s' : Step} {front front' rest rest' : List Char}
    (h : s.Spelling front) (h' : s'.Spelling front') (hrest : StartsStep rest)
    (hrest' : StartsStep rest') (heq : front ++ rest = front' ++ rest') :
    s = s' ∧ rest = rest' := by
  obtain ⟨c, tail, rfl, hstep⟩ := h.step hrest
  obtain ⟨c', tail', rfl, hstep'⟩ := h'.step hrest'
  rw [List.cons_append, List.cons_append] at heq
  obtain ⟨rfl, htail⟩ := List.cons.inj heq
  rw [htail, hstep'] at hstep
  obtain ⟨rfl, rfl⟩ := Prod.mk.inj (Except.ok.inj hstep)
  exact ⟨rfl, rfl⟩

/-- A step that is spelled where it was written is writable: a name with an apostrophe is written in
    quotes, and those would have ended at the apostrophe. -/
theorem Step.Spelling.writable {s : Step} {front rest rest' : List Char} (h : s.Spelling front)
    (heq : front ++ rest = s.chars ++ rest') : s.Writable := by
  cases h with
  | anyChild => trivial
  | anyIndex => trivial
  | index _ _ hfits => exact hfits
  | quoted hname => exact hname
  | @plain name _ _ _ _ =>
    -- a name after a point was written after one, so it is plain
    rw [Step.chars] at heq
    split at heq
    · next hplain => exact not_mem_of_isPlain hplain isPlainChar_special.2.2.2
    · cases heq

theorem writable_of_spellings {steps : List Step} {spellings : List (List Char)}
    (h : List.Forall₂ Step.Spelling steps spellings)
    (heq : spellings.flatten = steps.flatMap Step.chars) : ∀ s ∈ steps, s.Writable := by
  induction h with
  | nil => nofun
  | @cons s front steps spellings hfirst hothers ih =>
    rw [List.flatten_cons, List.flatMap_cons] at heq
    have hs : s.Writable := hfirst.writable heq
    -- both cut off the same first step, so the texts of the others are the same too
    have hrest := (hfirst.unique hs.spelling (startsStep_flatten hothers)
      (startsStep_flatMap steps) heq).2
    exact List.forall_mem_cons.2 ⟨hs, ih hrest⟩

/-- Only writable paths are read back. -/
theorem parse_render_eq_ok_iff {p : DocPath} : parse p.render = .ok p ↔ p.Writable := by
  refine ⟨fun h => ?_, parse_render⟩
  obtain ⟨spellings, hspellings, htext⟩ := parse_eq_ok_iff.1 h
  rw [render, String.toList_ofList, chars] at htext
  exact writable_of_spellings hspellings (List.cons.inj htext).2.symm

/-- The paths that can be made: from the root or a path that was read, one step after the other. -/
inductive Made : DocPath → Prop where
  | root : Made root
  | read {expression : String} {p : DocPath} (h : parse expression = .ok p) : Made p
  | field {p : DocPath} (h : Made p) (name : String) : Made (p.field name)
  | index {p : DocPath} (h : Made p) {position : Nat} (fits : position < indexBound) :
      Made (p.index position)

theorem mem_push {p : DocPath} {s step : Step} :
    step ∈ (p.push s).steps ↔ step ∈ p.steps ∨ step = s := by
  simp [push]

theorem Made.fits {p : DocPath} (h : p.Made) :
    ∀ position, .index position ∈ p.steps → position < indexBound := by
  induction h with
  | root => nofun
  | read h => exact parse_fits h
  | field _ name ih =>
    intro position hmem
    rcases mem_push.1 hmem with hmem | heq
    · exact ih position hmem
    · cases heq
  | index _ hfits ih =>
    intro position hmem
    rcases mem_push.1 hmem with hmem | heq
    · exact ih position hmem
    · cases heq
      exact hfits

/-- The paths without apostrophes in their names, and no others, are read back from their texts; so
    they have different texts. -/
theorem render_reads_back :
    (∀ p : DocPath, p.Made → (parse p.render = .ok p ↔ p.Unquoted)) ∧
      ∀ p q : DocPath, p.Made → q.Made → p.Unquoted → q.Unquoted → p.render = q.render → p = q := by
  have hwritable : ∀ {p : DocPath}, p.Made → p.Unquoted → p.Writable := fun hp hunquoted =>
    hunquoted.writable hp.fits
  refine ⟨fun p hp => ?_, fun p q hp hq hpu hqu => ?_⟩
  · rw [parse_render_eq_ok_iff]
    exact ⟨fun h name hname => h _ hname, hwritable hp⟩
  · exact (hwritable hp hpu).eq_of_render (hwritable hq hqu)

/-- A path that was read from another spelling is the one with its text; a name with an apostrophe
    is not read back. -/
theorem render_reads_back_cartItem :
    let item := (root.field "cart items").index 7
    let quoted := root.field "it's"
    (item.Made ∧ item.Unquoted ∧ parse item.render = .ok item) ∧
      (quoted.Made ∧ ¬ quoted.Unquoted ∧ parse quoted.render ≠ .ok quoted) ∧
      ∃ other : DocPath, parse "$['cart items'][007]" = .ok other ∧ other.Made ∧ other.Unquoted ∧
        item.render = other.render ∧ item = other := by
  intro item quoted
  obtain ⟨hback, hinj⟩ := render_reads_back
  have hitem : item.Made := .index (.field .root _) (by decide)
  have hquoted : quoted.Made := .field .root _
  have hunquoted : item.Unquoted := by
    intro name hname
    rcases List.mem_cons.1 hname with h | h
    · cases h
      decide
    · cases List.mem_singleton.1 h
  have hapostrophe : ¬ quoted.Unquoted := fun h =>
    absurd (h "it's" List.mem_cons_self) (by decide)
  have hread : parse "$['cart items'][007]" = .ok item := by decide +kernel
  exact ⟨⟨hitem, hunquoted, (hback item hitem).2 hunquoted⟩,
    ⟨hquoted, hapostrophe, fun h => hapostrophe ((hback quoted hquoted).1 h)⟩,
    item, hread, .read hread, hunquoted, rfl,
    hinj item item hitem (.read hread) hunquoted hunquoted rfl⟩

end MockProvider.DocPath
