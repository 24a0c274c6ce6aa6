import MockProvider.Pattern.Escape
import MockProvider.Proofs.Pattern.Leftover

/-!
# Escapes in front of a closing parenthesis

The readers of escapes are stable, but for one case: a brace behind the escape for a boundary belongs
to it if a name follows, so what it means when the text ends there is not known
(`stable_escape_or_braced`).
-/

namespace MockProvider.Pattern

variable {f : Flags} {cs t : List Char}

/-! ## Characters by number -/

theorem within_hexDigits (f : Flags) (count : Nat) (cs : List Char) :
    Within cs (hexDigits f count cs) := by
  induction count generalizing cs with
  | zero => exact .some List.suffix_rfl
  | succ count ih =>
    cases cs with
    | nil => exact .none
    | cons c cs =>
      rw [hexDigits]
      split
      · exact ((ih _).mono ((f.skip_suffix cs).trans (List.suffix_cons c cs))).map fun _ => rfl
      · exact .none

theorem hexDigits_paren (f : Flags) (count : Nat) (t : List Char) :
    hexDigits f (count + 1) (')' :: t) = none := by
  rw [hexDigits, if_neg (by decide)]

theorem stable_hexDigits (f : Flags) (count : Nat) (cs t : List Char) :
    Stable t (hexDigits f count cs) (hexDigits f count (cs ++ ')' :: t)) := by
  induction count generalizing cs with
  | zero => exact .same ([], cs)
  | succ count ih =>
    cases cs with
    | nil =>
      rw [List.nil_append, hexDigits_paren]
      exact .none
    | cons c cs =>
      rw [List.cons_append, hexDigits, hexDigits]
      split
      · refine Stable.map ?_ (fun _ => rfl) fun _ => rfl
        refine f.stable_of_skip (within_hexDigits f count _) fun hsame => ?_
        rw [hsame]
        exact ih _
      · exact .none

/-! ## Braces -/

theorem within_upToBrace (f : Flags) (fuel : Nat) (cs : List Char) :
    Within (f.skip cs) (upToBrace f fuel cs) := by
  induction fuel generalizing cs with
  | zero => exact .none
  | succ fuel ih =>
    rw [upToBrace]
    cases f.skip cs with
    | nil => exact .none
    | cons c rest =>
      dsimp only
      split
      · exact .some (List.suffix_cons c rest)
      · exact ((ih rest).mono ((f.skip_suffix rest).trans (List.suffix_cons c rest))).map fun _ => rfl

theorem stable_upToBrace {fuel : Nat} (h : cs.length < fuel) (fuel' : Nat) :
    Stable t (upToBrace f fuel cs) (upToBrace f fuel' (cs ++ ')' :: t)) := by
  induction fuel' generalizing fuel cs with
  | zero => exact .none
  | succ fuel' ih =>
    obtain ⟨fuel, rfl⟩ := Nat.exists_eq_succ_of_ne_zero (Nat.ne_of_gt (Nat.zero_lt_of_lt h))
    refine f.stable_of_skip (within_upToBrace f _ _) fun hsame => ?_
    have hlength := f.length_skip_le cs
    rw [upToBrace, upToBrace, hsame]
    cases hskip : f.skip cs with
    | nil => exact .past (((within_upToBrace f fuel' t).mono (f.skip_suffix t)).map fun _ => rfl)
    | cons c rest =>
      rw [hskip, List.length_cons] at hlength
      dsimp only [List.cons_append]
      split
      · exact .same ([], rest)
      · exact (ih (by omega)).map (fun _ => rfl) fun _ => rfl

/-! ## Escapes -/

/-- What digits in braces stand for. -/
theorem within_braced (f : Flags) (digits rest : List Char) :
    Within rest (if digits.isEmpty then none
      else (charOfHex digits).bind fun c => some (Primitive.literal c, f.skip rest)) := by
  split
  · exact .none
  · cases charOfHex digits with
    | none => exact .none
    | some c => exact .some (f.skip_suffix rest)

/-- What a fixed number of digits stands for. -/
theorem within_counted (f : Flags) (kind : Char) (digits rest : List Char) :
    Within rest ((charOfHex digits).bind fun c =>
      if kind = 'x' ∧ !f.wide ∧ 0x80 ≤ c.toNat then none else some (Primitive.literal c, rest)) := by
  cases charOfHex digits with
  | none => exact .none
  | some c =>
    rw [Option.bind_some]
    split
    · exact .none
    · exact .some List.suffix_rfl

theorem within_hexEscape (f : Flags) (kind : Char) (cs : List Char) :
    Within (f.skip cs) (hexEscape f kind cs) := by
  rw [hexEscape]
  cases f.skip cs with
  | nil => exact .none
  | cons c rest =>
    dsimp only
    split
    · exact Within.bind ((within_upToBrace f _ rest).mono
        ((f.skip_suffix rest).trans (List.suffix_cons c rest))) fun _ => within_braced f _ _
    · exact Within.bind (within_hexDigits f _ (c :: rest)) fun _ => within_counted f kind _ _

theorem stable_hexEscape (f : Flags) (kind : Char) (cs t : List Char) :
    Stable t (hexEscape f kind cs) (hexEscape f kind (cs ++ ')' :: t)) := by
  refine f.stable_of_skip (within_hexEscape f kind _) fun hsame => ?_
  rw [hexEscape, hexEscape, hsame]
  cases f.skip cs with
  | nil =>
    obtain ⟨count, hcount⟩ : ∃ count, (if kind = 'x' then 2 else if kind = 'u' then 4 else 8) =
        count + 1 := by
      split
      · exact ⟨1, rfl⟩
      · split
        · exact ⟨3, rfl⟩
        · exact ⟨7, rfl⟩
    have hbrace : ¬ ')' = '\x7b' := by decide
    simp only [List.nil_append, if_neg hbrace, hcount, hexDigits_paren]
    exact .none
  | cons c rest =>
    dsimp only [List.cons_append]
    split
    · refine Stable.bind (stable_upToBrace (Nat.lt_succ_self _) _)
        (fun ⟨digits, left⟩ _ => ?_) fun _ => within_braced f _ _
      dsimp only [extend]
      split
      · exact .none
      · cases charOfHex digits with
        | none => exact .none
        | some c => exact (f.stable_skip left t).map (fun _ => rfl) fun _ => rfl
    · refine Stable.bind (stable_hexDigits f _ (c :: rest) t)
        (fun ⟨digits, left⟩ _ => ?_) fun _ => within_counted f kind _ _
      dsimp only [extend]
      cases charOfHex digits with
      | none => exact .none
      | some c =>
        simp only [Option.bind_eq_bind, Option.bind_some]
        split
        · exact .none
        · exact .same (Primitive.literal c, left)

/-- The set that a property in braces stands for. -/
theorem within_named (inside rest : List Char) :
    Within rest ((propertySet inside).bind fun accepts => some (accepts, rest)) := by
  cases propertySet inside with
  | none => exact .none
  | some accepts => exact .some List.suffix_rfl

/-- Reads the set that a property stands for. -/
def namedSet (f : Flags) (cs : List Char) : Option (CharSet × List Char) :=
  match f.skip cs with
  | [] => none
  | c :: rest =>
    if c = '\x7b' then
      (upToBrace f (rest.length + 1) rest).bind fun (inside, rest) =>
        (propertySet inside).bind fun accepts => some (accepts, rest)
    else if c = '\\' then none
    else (CharSet.named? [c]).bind fun accepts => some (accepts, f.skip rest)

theorem within_namedSet (f : Flags) (cs : List Char) : Within (f.skip cs) (namedSet f cs) := by
  rw [namedSet]
  cases f.skip cs with
  | nil => exact .none
  | cons c rest =>
    dsimp only
    split
    · exact Within.bind ((within_upToBrace f _ rest).mono
        ((f.skip_suffix rest).trans (List.suffix_cons c rest))) fun _ => within_named _ _
    · split
      · exact .none
      · cases CharSet.named? [c] with
        | none => exact .none
        | some accepts => exact .some ((f.skip_suffix rest).trans (List.suffix_cons c rest))

theorem stable_namedSet (f : Flags) (cs t : List Char) :
    Stable t (namedSet f cs) (namedSet f (cs ++ ')' :: t)) := by
  refine f.stable_of_skip (within_namedSet f _) fun hsame => ?_
  rw [namedSet, namedSet, hsame]
  cases f.skip cs with
  | nil =>
    refine .past ?_
    dsimp only [List.nil_append]
    rw [if_neg (by decide), if_neg (by decide)]
    cases CharSet.named? [')'] with
    | none => exact .none
    | some accepts => exact .some (f.skip_suffix t)
  | cons c rest =>
    dsimp only [List.cons_append]
    split
    · refine Stable.bind (stable_upToBrace (Nat.lt_succ_self _) _)
        (fun ⟨inside, left⟩ _ => ?_) fun _ => within_named _ _
      dsimp only [extend]
      cases propertySet inside with
      | none => exact .none
      | some accepts => exact .same (accepts, left)
    · split
      · exact .none
      · cases CharSet.named? [c] with
        | none => exact .none
        | some accepts => exact (f.stable_skip rest t).map (fun _ => rfl) fun _ => rfl

/-- A property as a set, of all characters only. -/
def Flags.property (f : Flags) (negated : Bool) (accepts : CharSet) : Option Primitive :=
  if f.wide then
    let accepts := if f.ignoreCase then CharSet.foldCase true accepts else accepts
    some (.set (if negated then CharSet.compl accepts else accepts) 20000)
  else none

theorem propertyEscape_eq (f : Flags) (negated : Bool) (cs : List Char) :
    propertyEscape f negated cs = (namedSet f cs).bind fun (accepts, rest) =>
      (f.property negated accepts).map fun set => (set, rest) := by
  have hproperty (accepts : CharSet) (rest : List Char) :
      ((f.property negated accepts).map fun set => (set, rest)) =
        if f.wide then
          let accepts := if f.ignoreCase then CharSet.foldCase true accepts else accepts
          some (.set (if negated then CharSet.compl accepts else accepts) 20000, rest)
        else none := by
    rw [Flags.property]
    split <;> rfl
  simp only [propertyEscape, namedSet, hproperty]
  cases f.skip cs with
  | nil => rfl
  | cons c rest =>
    dsimp only
    split
    · simp only [Option.bind_eq_bind, Option.bind_assoc, Option.bind_some]
    · split
      · rfl
      · simp only [Option.bind_eq_bind, Option.bind_assoc, Option.bind_some]

theorem within_property (f : Flags) (negated : Bool) (accepts : CharSet) (rest : List Char) :
    Within rest ((f.property negated accepts).map fun set => (set, rest)) := by
  cases f.property negated accepts with
  | none => exact .none
  | some set => exact .some List.suffix_rfl

theorem within_propertyEscape (f : Flags) (negated : Bool) (cs : List Char) :
    Within (f.skip cs) (propertyEscape f negated cs) := by
  rw [propertyEscape_eq]
  exact (within_namedSet f cs).bind fun _ => within_property f negated _ _

theorem stable_propertyEscape (f : Flags) (negated : Bool) (cs t : List Char) :
    Stable t (propertyEscape f negated cs) (propertyEscape f negated (cs ++ ')' :: t)) := by
  rw [propertyEscape_eq, propertyEscape_eq]
  refine (stable_namedSet f cs t).bind (fun ⟨accepts, left⟩ _ => ?_)
    fun _ => within_property f negated _ _
  dsimp only [extend]
  cases f.property negated accepts with
  | none => exact .none
  | some set => exact .same (set, left)

/-! ## Boundaries -/

theorem within_boundaryNamed (f : Flags) (name rest : List Char) :
    Within rest ((boundaryNamed? f.wide name).bind fun look => some (Primitive.look look, rest)) := by
  cases boundaryNamed? f.wide name with
  | none => exact .none
  | some look => exact .some List.suffix_rfl

theorem within_boundaryEscape (f : Flags) (cs : List Char) : Within cs (boundaryEscape f cs) := by
  rw [boundaryEscape.eq_def]
  split
  · next rest =>
    have hrest : f.skip rest <:+ '\x7b' :: rest := (f.skip_suffix rest).trans (List.suffix_cons _ rest)
    cases hskip : f.skip rest with
    | nil => exact .none
    | cons c inside =>
      dsimp only
      split
      · refine Within.bind ((within_upToBrace f _ _).mono ((f.skip_suffix _).trans (hskip ▸ hrest)))
          fun _ => within_boundaryNamed f _ _
      · exact .some List.suffix_rfl
  · exact .some List.suffix_rfl

/-- A brace is left over behind the escape for a boundary, and behind the brace the text ended or its
    layout did, but for the parenthesis. -/
def Braced (f : Flags) (t : List Char) (y : Option (Primitive × List Char)) : Prop :=
  ∃ look rest, y = some (.look look, '\x7b' :: rest) ∧ f.skip rest <:+ ')' :: t

theorem stable_boundaryEscape_or_braced (f : Flags) (cs t : List Char) :
    Stable t (boundaryEscape f cs) (boundaryEscape f (cs ++ ')' :: t)) ∨
      Braced f t (boundaryEscape f (cs ++ ')' :: t)) := by
  by_cases hbrace : ∃ rest, cs = '\x7b' :: rest
  · obtain ⟨rest, rfl⟩ := hbrace
    have hplain {s : List Char} (hskip : f.skip (rest ++ ')' :: t) = s) (hs : s <:+ ')' :: t) :
        Braced f t (some (.look (.boundary f.wide), '\x7b' :: rest ++ ')' :: t)) :=
      ⟨_, rest ++ ')' :: t, rfl, hskip ▸ hs⟩
    rw [List.cons_append, boundaryEscape, boundaryEscape]
    rcases f.skip_append rest t with hsame | ⟨hnil, hpast⟩
    · cases hskip : f.skip rest with
      | nil =>
        rw [hskip] at hsame
        rw [hsame]
        exact Or.inr (hplain hsame List.suffix_rfl)
      | cons c inside =>
        rw [hskip] at hsame
        rw [hsame]
        refine Or.inl ?_
        dsimp only [List.cons_append]
        split
        · refine Stable.bind (stable_upToBrace (by simp) _)
            (fun ⟨name, left⟩ _ => ?_) fun _ => within_boundaryNamed f _ _
          dsimp only [extend]
          cases boundaryNamed? f.wide name with
          | none => exact .none
          | some look => exact .same (Primitive.look look, left)
        · exact .same (Primitive.look (.boundary f.wide), '\x7b' :: rest)
    · cases hskip : f.skip (rest ++ ')' :: t) with
      | nil => exact Or.inl .none
      | cons c inside =>
        rw [hskip] at hpast
        dsimp only
        by_cases hname : isBoundaryChar c = true
        · rw [if_pos hname]
          exact Or.inl (.past (Within.bind ((within_upToBrace f _ _).mono
            ((f.skip_suffix _).trans hpast)) fun _ => within_boundaryNamed f _ _))
        · rw [if_neg hname]
          exact Or.inr (hplain hskip (hpast.trans (List.suffix_cons ')' t)))
  · have hplain {s : List Char} (hs : ∀ rest, s ≠ '\x7b' :: rest) :
        boundaryEscape f s = some (.look (.boundary f.wide), s) := by
      rw [boundaryEscape.eq_def]
      split
      · next rest => exact absurd rfl (hs rest)
      · rfl
    rw [hplain (not_exists.1 hbrace), hplain (append_ne_cons (by decide) (not_exists.1 hbrace))]
    exact Or.inl (.same (Primitive.look (.boundary f.wide), cs))

/-! ## All escapes -/

/-- An escape reads one character at least. -/
theorem within_escape (f : Flags) (c : Char) (rest : List Char) :
    Within rest (escape f (c :: rest)) := by
  rw [escape]
  split
  · exact (within_hexEscape f c rest).mono (f.skip_suffix rest)
  split
  · exact (within_propertyEscape f _ rest).mono (f.skip_suffix rest)
  split
  · cases classEscape f c with
    | none => exact .none
    | some chosen => exact .some List.suffix_rfl
  split
  · exact .some List.suffix_rfl
  split
  · exact within_boundaryEscape f rest
  split
  · exact .some List.suffix_rfl
  · cases lookNamed? f.wide c with
    | none => exact .none
    | some look => exact .some List.suffix_rfl

theorem stable_escape_or_braced (f : Flags) (cs t : List Char) :
    Stable t (escape f cs) (escape f (cs ++ ')' :: t)) ∨ Braced f t (escape f (cs ++ ')' :: t)) := by
  cases cs with
  | nil => exact Or.inl (.past (within_escape f ')' t))
  | cons c rest =>
    rw [List.cons_append, escape, escape]
    split
    · exact Or.inl (stable_hexEscape f c rest t)
    split
    · exact Or.inl (stable_propertyEscape f _ rest t)
    split
    · refine Or.inl ?_
      cases classEscape f c with
      | none => exact .none
      | some chosen => exact .same (Primitive.set chosen.1 chosen.2, rest)
    split
    · exact Or.inl (.same (Primitive.literal c, rest))
    split
    · exact stable_boundaryEscape_or_braced f rest t
    refine Or.inl ?_
    split
    · next control _ => exact .same (Primitive.literal control, rest)
    · cases lookNamed? f.wide c with
      | none => exact .none
      | some look => exact .same (Primitive.look look, rest)

end MockProvider.Pattern
