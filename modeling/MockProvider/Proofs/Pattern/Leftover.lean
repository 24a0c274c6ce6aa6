import MockProvider.Pattern.Flags

/-!
# Reading in front of a closing parenthesis

A reader takes a text and gives a result with what is left over, which is an end of the text
(`Within`). What it does when a closing parenthesis and further text follow is `Stable`: it gives the
same result and leaves over as much more, or else it reads beyond the parenthesis. Readers that are
made of stable ones are stable.
-/

namespace MockProvider.Pattern

/-- Results of readers, with the text that is left over. -/
class Leftover (ρ : Type) where
  rest : ρ → List Char
  /-- The result with more text left over. -/
  extend : List Char → ρ → ρ

export Leftover (rest extend)

instance : Leftover (List Char) where
  rest cs := cs
  extend tail cs := cs ++ tail

instance {α ρ : Type} [Leftover ρ] : Leftover (α × ρ) where
  rest r := rest r.2
  extend tail r := (r.1, extend tail r.2)

variable {α ρ σ : Type} [Leftover ρ] [Leftover σ] {cs cs' t : List Char} {x y : Option ρ}

/-- What is left over is an end of the text. -/
def Within (cs : List Char) (x : Option ρ) : Prop :=
  ∀ r ∈ x, rest r <:+ cs

namespace Within

theorem none : Within cs (.none : Option ρ) := nofun

theorem some {r : ρ} (h : rest r <:+ cs) : Within cs (.some r) := by
  rintro _ ⟨⟩
  exact h

theorem mono (h : Within cs x) (hcs : cs <:+ cs') : Within cs' x := fun r hr => (h r hr).trans hcs

theorem bind (h : Within cs x) {k : ρ → Option σ} (hk : ∀ r, Within (rest r) (k r)) :
    Within cs (x.bind k) := by
  intro s hs
  obtain ⟨r, hr, hs⟩ := Option.bind_eq_some_iff.1 hs
  exact (hk r s hs).trans (h r hr)

theorem map (h : Within cs x) {g : ρ → σ} (hg : ∀ r, rest (g r) = rest r) :
    Within cs (x.map g) := by
  intro s hs
  obtain ⟨r, hr, rfl⟩ := Option.map_eq_some_iff.1 hs
  exact hg r ▸ h r hr

end Within

/-- What reading a text gives against what reading it gives in front of a closing parenthesis and
    further text: the same, with the parenthesis and what follows left over as well, or something
    for which the parenthesis was read. -/
def Stable (t : List Char) (x y : Option ρ) : Prop :=
  (∃ r, x = some r ∧ y = some (extend (')' :: t) r)) ∨ Within t y

namespace Stable

theorem same (r : ρ) : Stable t (some r) (some (extend (')' :: t) r)) := Or.inl ⟨r, rfl, rfl⟩

theorem past (h : Within t y) : Stable t x y := Or.inr h

theorem none : Stable t x .none := past .none

theorem bind (h : Stable t x y) {k k' : ρ → Option σ}
    (hsame : ∀ r ∈ x, Stable t (k r) (k' (extend (')' :: t) r)))
    (hpast : ∀ r, Within (rest r) (k' r)) : Stable t (x.bind k) (y.bind k') := by
  rcases h with ⟨r, rfl, rfl⟩ | h
  · exact hsame r rfl
  · exact past (h.bind hpast)

theorem map (h : Stable t x y) {g : ρ → σ}
    (hsame : ∀ r, g (extend (')' :: t) r) = extend (')' :: t) (g r))
    (hpast : ∀ r, rest (g r) = rest r) : Stable t (x.map g) (y.map g) := by
  rcases h with ⟨r, rfl, rfl⟩ | h
  · exact Or.inl ⟨g r, rfl, congrArg some (hsame r)⟩
  · exact past (h.map hpast)

end Stable

/-- What follows a text does not change its first character, unless it has none. -/
theorem append_ne_cons {c : Char} (hc : c ≠ ')') (h : ∀ rest, cs ≠ c :: rest) (rest : List Char) :
    cs ++ ')' :: t ≠ c :: rest := by
  intro heq
  cases cs with
  | nil => exact hc (List.cons.inj heq).1.symm
  | cons d cs => exact h cs (by rw [(List.cons.inj heq).1])

/-! ## Up to a sign -/

section

variable {c : Char}

theorem bne_of_not_mem (h : c ∉ cs) : ∀ d ∈ cs, (d != c) = true := fun _ hd =>
  bne_iff_ne.2 fun heq => h (heq ▸ hd)

theorem takeWhile_bne_append (h : c ∉ cs) (rest : List Char) :
    (cs ++ c :: rest).takeWhile (· != c) = cs := by
  rw [List.takeWhile_append_of_pos (bne_of_not_mem h), List.takeWhile_cons_of_neg (by simp),
    List.append_nil]

theorem dropWhile_bne_append (h : c ∉ cs) (rest : List Char) :
    (cs ++ c :: rest).dropWhile (· != c) = c :: rest := by
  rw [List.dropWhile_append_of_pos (bne_of_not_mem h), List.dropWhile_cons_of_neg (by simp)]

end

/-! ## Layout -/

theorem dropLayout_suffix (inComment : Bool) (cs : List Char) : dropLayout inComment cs <:+ cs := by
  induction cs generalizing inComment with
  | nil => exact List.suffix_rfl
  | cons c cs ih =>
    rw [dropLayout]
    split
    · exact (ih _).trans (List.suffix_cons c cs)
    · split
      · exact (ih _).trans (List.suffix_cons c cs)
      · split
        · exact (ih _).trans (List.suffix_cons c cs)
        · exact List.suffix_rfl

theorem dropLayout_append (inComment : Bool) (cs t : List Char) :
    dropLayout inComment (cs ++ ')' :: t) = dropLayout inComment cs ++ ')' :: t ∨
      dropLayout inComment cs = [] ∧ dropLayout inComment (cs ++ ')' :: t) <:+ t := by
  induction cs generalizing inComment with
  | nil =>
    cases inComment with
    | false => exact Or.inl rfl
    | true => exact Or.inr ⟨rfl, dropLayout_suffix true t⟩
  | cons c cs ih =>
    rw [List.cons_append, dropLayout, dropLayout]
    split
    · exact ih _
    · split
      · exact ih _
      · split
        · exact ih _
        · exact Or.inl rfl

namespace Flags

variable (f : Flags)

theorem skip_suffix (cs : List Char) : f.skip cs <:+ cs := by
  rw [skip]
  split
  · exact dropLayout_suffix false cs
  · exact List.suffix_rfl

theorem length_skip_le (cs : List Char) : (f.skip cs).length ≤ cs.length :=
  (f.skip_suffix cs).length_le

/-- A parenthesis that ends a text is where skipping stops, unless a comment goes on beyond it. -/
theorem skip_append (cs t : List Char) :
    f.skip (cs ++ ')' :: t) = f.skip cs ++ ')' :: t ∨
      f.skip cs = [] ∧ f.skip (cs ++ ')' :: t) <:+ t := by
  rw [skip, skip]
  split
  · exact dropLayout_append false cs t
  · exact Or.inl rfl

theorem skip_cons {c : Char} (hblank : Text.isBlank c = false) (hcomment : c ≠ '#')
    (rest : List Char) : f.skip (c :: rest) = c :: rest := by
  rw [skip]
  split
  · simp [dropLayout, hblank, hcomment]
  · rfl

/-- What begins with skipping is stable if it is so in front of a parenthesis that skipping does not
    go beyond. -/
theorem stable_of_skip (hy : Within (f.skip (cs ++ ')' :: t)) y)
    (h : f.skip (cs ++ ')' :: t) = f.skip cs ++ ')' :: t → Stable t x y) : Stable t x y := by
  rcases f.skip_append cs t with hsame | ⟨-, hpast⟩
  · exact h hsame
  · exact .past (hy.mono hpast)

theorem stable_skip (cs t : List Char) :
    Stable t (some (f.skip cs)) (some (f.skip (cs ++ ')' :: t))) :=
  f.stable_of_skip (.some List.suffix_rfl) fun hsame => Or.inl ⟨_, rfl, congrArg some hsame⟩

end Flags

/-! ## Flags -/

theorem within_flagItem (f : Flags) (seen : List Char) (on dangling : Bool) (cs : List Char) :
    Within cs (flagItem f seen on dangling cs) := by
  induction cs generalizing f seen on dangling with
  | nil => exact .none
  | cons c cs ih =>
    rw [flagItem]
    split
    · split
      · exact .none
      · exact .some List.suffix_rfl
    · split
      · split
        · exact (ih _ _ _ _).mono (List.suffix_cons c cs)
        · exact .none
      · split
        · exact (ih _ _ _ _).mono (List.suffix_cons c cs)
        · exact .none

/-- Flags end with the text where they do not end before, if a parenthesis follows. -/
theorem flagItem_append (f : Flags) (seen : List Char) (on dangling : Bool) (cs t : List Char) :
    (∃ r, flagItem f seen on dangling cs = some r ∧
        flagItem f seen on dangling (cs ++ ')' :: t) = some (extend (')' :: t) r)) ∨
      ∀ r ∈ flagItem f seen on dangling (cs ++ ')' :: t), rest r = ')' :: t := by
  induction cs generalizing f seen on dangling with
  | nil =>
    refine Or.inr fun r hr => ?_
    rw [List.nil_append, flagItem, if_pos (Or.inr rfl)] at hr
    split at hr
    · cases hr
    · cases hr
      rfl
  | cons c cs ih =>
    rw [List.cons_append, flagItem, flagItem]
    split
    · split
      · exact Or.inr nofun
      · exact Or.inl ⟨_, rfl, rfl⟩
    · split
      · split
        · exact ih _ _ _ _
        · exact Or.inr nofun
      · split
        · exact ih _ _ _ _
        · exact Or.inr nofun

end MockProvider.Pattern
