import MockProvider.Pattern.Parser
import MockProvider.Proofs.Pattern.Leftover

/-!
# Repetitions in front of a closing parenthesis

The readers of counts, of the bounds made of them and of the operators that repeat a part are stable.
A brace that the text ends behind is no repetition at all (`within_repetitions_of_braced`).
-/

namespace MockProvider.Pattern

variable {f : Flags} {cs t : List Char}

/-! ## Counts -/

theorem dropBlanks_append (cs t : List Char) :
    (cs ++ ')' :: t).dropWhile Text.isBlank = cs.dropWhile Text.isBlank ++ ')' :: t := by
  induction cs with
  | nil => rfl
  | cons c cs ih =>
    rw [List.cons_append, List.dropWhile_cons, List.dropWhile_cons]
    split
    · exact ih
    · rfl

theorem skipAround_suffix (f : Flags) (cs : List Char) : skipAround f cs <:+ cs :=
  (f.skip_suffix _).trans (List.dropWhile_suffix _)

theorem stable_skipAround (f : Flags) (cs t : List Char) :
    Stable t (some (skipAround f cs)) (some (skipAround f (cs ++ ')' :: t))) := by
  rw [skipAround, skipAround, dropBlanks_append]
  exact f.stable_skip _ t

theorem countDigits_cons (f : Flags) (fuel : Nat) {c : Char} (hc : c.isDigit = true)
    (rest : List Char) :
    some (countDigits f (fuel + 1) (c :: rest)) =
      (some (countDigits f fuel (f.skip rest))).map fun r => (c :: r.1, r.2) := by
  rw [countDigits, if_pos hc]
  rfl

theorem countDigits_other (f : Flags) (fuel : Nat) (h : ∀ c ∈ cs.head?, c.isDigit = false) :
    countDigits f fuel cs = ([], cs) := by
  cases fuel with
  | zero => rfl
  | succ fuel =>
    cases cs with
    | nil => rfl
    | cons c rest => rw [countDigits, if_neg (by rw [h c rfl]; exact Bool.false_ne_true)]

theorem within_countDigits (f : Flags) (fuel : Nat) (cs : List Char) :
    Within cs (some (countDigits f fuel cs)) := by
  induction fuel generalizing cs with
  | zero => exact .some List.suffix_rfl
  | succ fuel ih =>
    cases cs with
    | nil => exact .some List.suffix_rfl
    | cons c rest =>
      by_cases hc : c.isDigit = true
      · rw [countDigits_cons f fuel hc]
        exact ((ih _).mono ((f.skip_suffix rest).trans (List.suffix_cons c rest))).map fun _ => rfl
      · rw [countDigits_other f _ (by simpa using hc)]
        exact .some List.suffix_rfl

theorem stable_countDigits (f : Flags) {fuel fuel' : Nat} {cs : List Char}
    (hfuel : cs.length < fuel) (hfuel' : (cs ++ ')' :: t).length < fuel') :
    Stable t (some (countDigits f fuel cs)) (some (countDigits f fuel' (cs ++ ')' :: t))) := by
  induction fuel generalizing cs fuel' with
  | zero => exact absurd hfuel (Nat.not_lt_zero _)
  | succ fuel ih =>
    obtain ⟨fuel', rfl⟩ := Nat.exists_eq_succ_of_ne_zero (Nat.ne_of_gt (Nat.zero_lt_of_lt hfuel'))
    cases cs with
    | nil =>
      have hparen : ∀ c ∈ (')' :: t).head?, c.isDigit = false := by
        rintro c ⟨⟩
        rfl
      rw [List.nil_append, countDigits_other f _ hparen]
      exact .same (([] : List Char), ([] : List Char))
    | cons c rest =>
      by_cases hc : c.isDigit = true
      · have hlength := f.length_skip_le rest
        simp only [List.length_append, List.length_cons] at hfuel hfuel'
        rw [List.cons_append, countDigits_cons f fuel hc, countDigits_cons f fuel' hc]
        refine Stable.map ?_ (fun _ => rfl) fun _ => rfl
        refine f.stable_of_skip (within_countDigits f _ _) fun hsame => ?_
        rw [hsame]
        refine ih (by omega) ?_
        simp only [List.length_append, List.length_cons]
        omega
      · rw [List.cons_append, countDigits_other f _ (by simpa using hc),
          countDigits_other f _ (by simpa using hc)]
        exact .same (([] : List Char), c :: rest)

/-- The count that digits stand for, if it is not too large. -/
def countOf (f : Flags) (digits rest : List Char) : Option (Option Nat × List Char) :=
  let n := digits.foldl (fun n c => n * 10 + (c.toNat - '0'.toNat)) 0
  if digits.isEmpty then some (none, skipAround f rest)
  else if n < countBound then some (some n, skipAround f rest)
  else none

theorem count_eq (f : Flags) (cs : List Char) :
    count f cs = (some (countDigits f (cs.length + 1) (cs.dropWhile Text.isBlank))).bind
      fun (digits, rest) => countOf f digits rest := rfl

theorem within_countOf (f : Flags) (digits rest : List Char) :
    Within rest (countOf f digits rest) := by
  rw [countOf]
  split
  · exact .some (skipAround_suffix f rest)
  split
  · exact .some (skipAround_suffix f rest)
  · exact .none

theorem within_count (f : Flags) (cs : List Char) : Within cs (count f cs) := by
  rw [count_eq]
  exact ((within_countDigits f _ _).mono (List.dropWhile_suffix _)).bind fun _ =>
    within_countOf f _ _

theorem stable_count (f : Flags) (cs t : List Char) :
    Stable t (count f cs) (count f (cs ++ ')' :: t)) := by
  have hdrop : (cs.dropWhile Text.isBlank).length ≤ cs.length :=
    (List.dropWhile_suffix _).length_le
  rw [count_eq, count_eq, dropBlanks_append]
  refine Stable.bind (stable_countDigits f (by omega) ?_) (fun ⟨digits, rest⟩ _ => ?_)
    fun _ => within_countOf f _ _
  · simp only [List.length_append, List.length_cons]
    omega
  · dsimp only [extend]
    rw [countOf, countOf]
    split
    · exact (stable_skipAround f rest t).map (fun _ => rfl) fun _ => rfl
    split
    · exact (stable_skipAround f rest t).map (fun _ => rfl) fun _ => rfl
    · exact .none

/-! ## Bounds -/

/-- The bounds of a repetition, if they are in order and a brace closes them. -/
def closeBounds (least most : Nat) (cs : List Char) : Option ((Nat × Option Nat) × List Char) :=
  match cs with
  | '\x7d' :: rest => if least ≤ most then some ((least, some most), rest) else none
  | _ => none

/-- The bounds of a repetition whose upper bound is still to come. -/
def upperBound (f : Flags) (least : Nat) (cs : List Char) :
    Option ((Nat × Option Nat) × List Char) :=
  (count f cs).bind fun (most, rest) => most.bind fun most => closeBounds least most rest

/-- The bounds of a repetition after the first count and the comma behind it. -/
def afterComma (f : Flags) (least : Option Nat) (cs : List Char) :
    Option ((Nat × Option Nat) × List Char) :=
  match f.skip cs with
  | '\x7d' :: rest => least.bind fun least => some ((least, none), rest)
  | rest => least.bind fun least => upperBound f least rest

/-- The bounds of a repetition after the first count. -/
def afterCount (f : Flags) (least : Option Nat) (cs : List Char) :
    Option ((Nat × Option Nat) × List Char) :=
  match cs with
  | '\x7d' :: rest => least.bind fun least => some ((least, some least), rest)
  | ',' :: rest => afterComma f least rest
  | _ => none

theorem bounds_eq (f : Flags) (cs : List Char) :
    bounds f cs = (count f (f.skip cs)).bind fun (least, rest) => afterCount f least rest := rfl

theorem closeBounds_other (least most : Nat) (h : ∀ rest, cs ≠ '\x7d' :: rest) :
    closeBounds least most cs = none := by
  rw [closeBounds.eq_def]
  split
  · next rest => exact absurd rfl (h rest)
  · rfl

theorem within_closeBounds (least most : Nat) (cs : List Char) :
    Within cs (closeBounds least most cs) := by
  rw [closeBounds.eq_def]
  split
  · next rest =>
    split
    · exact .some (List.suffix_cons _ rest)
    · exact .none
  · exact .none

theorem stable_closeBounds (least most : Nat) (cs t : List Char) :
    Stable t (closeBounds least most cs) (closeBounds least most (cs ++ ')' :: t)) := by
  by_cases hbrace : ∃ rest, cs = '\x7d' :: rest
  · obtain ⟨rest, rfl⟩ := hbrace
    rw [List.cons_append, closeBounds, closeBounds]
    split
    · exact .same ((least, some most), rest)
    · exact .none
  · rw [closeBounds_other least most (append_ne_cons (by decide) (not_exists.1 hbrace))]
    exact .none

theorem within_upperBound (f : Flags) (least : Nat) (cs : List Char) :
    Within cs (upperBound f least cs) := by
  refine (within_count f cs).bind fun ⟨most, rest⟩ => ?_
  cases most with
  | none => exact .none
  | some most => exact within_closeBounds least most rest

theorem stable_upperBound (f : Flags) (least : Nat) (cs t : List Char) :
    Stable t (upperBound f least cs) (upperBound f least (cs ++ ')' :: t)) := by
  refine (stable_count f cs t).bind (fun ⟨most, rest⟩ _ => ?_) fun ⟨most, rest⟩ => ?_
  · cases most with
    | none => exact .none
    | some most => exact stable_closeBounds least most rest t
  · cases most with
    | none => exact .none
    | some most => exact within_closeBounds least most rest

theorem afterComma_other (least : Nat) (h : ∀ rest, f.skip cs ≠ '\x7d' :: rest) :
    afterComma f (some least) cs = upperBound f least (f.skip cs) := by
  rw [afterComma]
  split
  · next rest heq => exact absurd heq (h rest)
  · rfl

theorem afterComma_none (f : Flags) (cs : List Char) : afterComma f none cs = none := by
  rw [afterComma]
  split <;> rfl

theorem within_afterComma (f : Flags) (least : Option Nat) (cs : List Char) :
    Within (f.skip cs) (afterComma f least cs) := by
  cases least with
  | none =>
    rw [afterComma_none]
    exact .none
  | some least =>
    rw [afterComma]
    split
    · next rest heq =>
      rw [heq]
      exact .some (List.suffix_cons _ rest)
    · exact within_upperBound f least _

theorem stable_afterComma (f : Flags) (least : Option Nat) (cs t : List Char) :
    Stable t (afterComma f least cs) (afterComma f least (cs ++ ')' :: t)) := by
  cases least with
  | none =>
    rw [afterComma_none, afterComma_none]
    exact .none
  | some least =>
    refine f.stable_of_skip (within_afterComma f _ _) fun hsame => ?_
    by_cases hbrace : ∃ rest, f.skip cs = '\x7d' :: rest
    · obtain ⟨rest, hrest⟩ := hbrace
      rw [afterComma, afterComma, hsame, hrest]
      exact .same ((least, none), rest)
    · have hother := not_exists.1 hbrace
      have hlong (rest : List Char) : f.skip (cs ++ ')' :: t) ≠ '\x7d' :: rest := by
        rw [hsame]
        exact append_ne_cons (by decide) hother rest
      rw [afterComma_other least hother, afterComma_other least hlong, hsame]
      exact stable_upperBound f least _ t

theorem afterCount_other (f : Flags) (least : Option Nat) (hbrace : ∀ rest, cs ≠ '\x7d' :: rest)
    (hcomma : ∀ rest, cs ≠ ',' :: rest) : afterCount f least cs = none := by
  rw [afterCount.eq_def]
  split
  · next rest => exact absurd rfl (hbrace rest)
  · next rest => exact absurd rfl (hcomma rest)
  · rfl

theorem within_afterCount (f : Flags) (least : Option Nat) (cs : List Char) :
    Within cs (afterCount f least cs) := by
  rw [afterCount.eq_def]
  split
  · next rest =>
    cases least with
    | none => exact .none
    | some least => exact .some (List.suffix_cons _ rest)
  · next rest =>
    exact (within_afterComma f least rest).mono ((f.skip_suffix rest).trans (List.suffix_cons _ rest))
  · exact .none

theorem stable_afterCount (f : Flags) (least : Option Nat) (cs t : List Char) :
    Stable t (afterCount f least cs) (afterCount f least (cs ++ ')' :: t)) := by
  by_cases hbrace : ∃ rest, cs = '\x7d' :: rest
  · obtain ⟨rest, rfl⟩ := hbrace
    cases least with
    | none => exact .none
    | some least => exact .same ((least, some least), rest)
  by_cases hcomma : ∃ rest, cs = ',' :: rest
  · obtain ⟨rest, rfl⟩ := hcomma
    exact stable_afterComma f least rest t
  rw [afterCount_other f least (append_ne_cons (by decide) (not_exists.1 hbrace))
    (append_ne_cons (by decide) (not_exists.1 hcomma))]
  exact .none

theorem within_bounds (f : Flags) (cs : List Char) : Within (f.skip cs) (bounds f cs) := by
  rw [bounds_eq]
  exact (within_count f _).bind fun _ => within_afterCount f _ _

theorem stable_bounds (f : Flags) (cs t : List Char) :
    Stable t (bounds f cs) (bounds f (cs ++ ')' :: t)) := by
  refine f.stable_of_skip (within_bounds f _) fun hsame => ?_
  rw [bounds_eq, bounds_eq, hsame]
  exact (stable_count f _ t).bind (fun _ _ => stable_afterCount f _ _ t)
    fun _ => within_afterCount f _ _

/-- No bounds begin with a parenthesis. -/
theorem bounds_eq_none (hskip : f.skip cs = ')' :: t) : bounds f cs = none := by
  have hparen : ∀ c ∈ (')' :: t).head?, c.isDigit = false := by
    rintro c ⟨⟩
    rfl
  have hdrop : (')' :: t).dropWhile Text.isBlank = ')' :: t := rfl
  have haround : skipAround f (')' :: t) = ')' :: t := f.skip_cons rfl (by decide) t
  have hcount : count f (')' :: t) = some (none, ')' :: t) := by
    rw [count_eq, hdrop, countDigits_other f _ hparen, Option.bind_some]
    exact congrArg (fun rest => some (none, rest)) haround
  rw [bounds_eq, hskip, hcount]
  rfl

/-! ## Repetition -/

theorem skipLazy_suffix (cs : List Char) : skipLazy cs <:+ cs := by
  rw [skipLazy.eq_def]
  split
  · next rest => exact List.suffix_cons _ rest
  · exact List.suffix_rfl

theorem skipLazy_append (cs t : List Char) : skipLazy (cs ++ ')' :: t) = skipLazy cs ++ ')' :: t := by
  by_cases hmark : ∃ rest, cs = '?' :: rest
  · obtain ⟨rest, rfl⟩ := hmark
    rfl
  · have hother {s : List Char} (hs : ∀ rest, s ≠ '?' :: rest) : skipLazy s = s := by
      rw [skipLazy.eq_def]
      split
      · next rest => exact absurd rfl (hs rest)
      · rfl
    rw [hother (not_exists.1 hmark), hother (append_ne_cons (by decide) (not_exists.1 hmark))]

/-- The bounds that an operator of one character stands for. -/
def operatorBounds? : Char → Option (Nat × Option Nat)
  | '?' => some (0, some 1)
  | '*' => some (0, none)
  | '+' => some (1, none)
  | _ => none

theorem repetitions_nil (r : Reading) (fuel : Nat) (hskip : f.skip cs = []) :
    repetitions f (fuel + 1) r cs = some (r, []) := by
  rw [repetitions, hskip]

theorem repetitions_cons (r : Reading) (fuel : Nat) {c : Char} {rest : List Char}
    (hskip : f.skip cs = c :: rest) :
    repetitions f (fuel + 1) r cs =
      match operatorBounds? c with
      | some b => repetitions f fuel (r.repeat b.1 b.2) (skipLazy rest)
      | none =>
        if c = '\x7b' then
          (bounds f rest).bind fun (b, rest) =>
            repetitions f fuel (r.repeat b.1 b.2) (skipLazy (f.skip rest))
        else some (r, c :: rest) := by
  rw [repetitions, hskip]
  split
  · next heq =>
    cases heq
    rfl
  · next heq =>
    cases heq
    rfl
  · next heq =>
    cases heq
    rfl
  · next heq =>
    cases heq
    rfl
  · next hmark hstar hplus hbrace =>
    have hnone : operatorBounds? c = none := by
      rw [operatorBounds?]
      · exact fun hc => hmark rest (by rw [hc])
      · exact fun hc => hstar rest (by rw [hc])
      · exact fun hc => hplus rest (by rw [hc])
    rw [hnone, if_neg fun hc => hbrace rest (by rw [hc])]

theorem within_repetitions_succ (fuel : Nat) (r : Reading) (cs : List Char)
    (h : ∀ (r : Reading) (cs : List Char), Within cs (repetitions f fuel r cs)) :
    Within (f.skip cs) (repetitions f (fuel + 1) r cs) := by
  cases hskip : f.skip cs with
  | nil =>
    rw [repetitions_nil r fuel hskip]
    exact .some List.suffix_rfl
  | cons c rest =>
    have hrest := List.suffix_cons c rest
    rw [repetitions_cons r fuel hskip]
    split
    · exact (h _ _).mono ((skipLazy_suffix rest).trans hrest)
    split
    · refine Within.bind (((within_bounds f rest).mono (f.skip_suffix rest)).mono hrest)
        fun ⟨b, left⟩ => ?_
      exact (h _ _).mono ((skipLazy_suffix _).trans (f.skip_suffix left))
    · exact .some List.suffix_rfl

theorem within_repetitions (f : Flags) (fuel : Nat) (r : Reading) (cs : List Char) :
    Within cs (repetitions f fuel r cs) := by
  induction fuel generalizing r cs with
  | zero => exact .some List.suffix_rfl
  | succ fuel ih => exact (within_repetitions_succ fuel r cs ih).mono (f.skip_suffix cs)

theorem stable_repetitions (f : Flags) {fuel fuel' : Nat} (r : Reading) {cs : List Char}
    (hfuel : cs.length < fuel) (hfuel' : (cs ++ ')' :: t).length < fuel') :
    Stable t (repetitions f fuel r cs) (repetitions f fuel' r (cs ++ ')' :: t)) := by
  induction fuel generalizing r cs fuel' with
  | zero => exact absurd hfuel (Nat.not_lt_zero _)
  | succ fuel ih =>
    obtain ⟨fuel', rfl⟩ := Nat.exists_eq_succ_of_ne_zero (Nat.ne_of_gt (Nat.zero_lt_of_lt hfuel'))
    have hlength := f.length_skip_le cs
    refine f.stable_of_skip (within_repetitions_succ fuel' r _ (within_repetitions f fuel'))
      fun hsame => ?_
    cases hskip : f.skip cs with
    | nil =>
      -- a parenthesis is no operator
      rw [hskip] at hsame
      rw [repetitions_nil r fuel hskip, repetitions_cons r fuel' hsame]
      exact .same (r, [])
    | cons c rest =>
      rw [hskip, List.length_cons] at hlength
      rw [hskip, List.cons_append] at hsame
      -- an operator takes one character at least
      have hnext (r : Reading) {left : List Char} (hleft : left.length ≤ rest.length) :
          Stable t (repetitions f fuel r (skipLazy left))
            (repetitions f fuel' r (skipLazy (left ++ ')' :: t))) := by
        have hlazy := (skipLazy_suffix left).length_le
        rw [skipLazy_append]
        simp only [List.length_append, List.length_cons] at hfuel'
        refine ih r (by omega) ?_
        simp only [List.length_append, List.length_cons]
        omega
      rw [repetitions_cons r fuel hskip, repetitions_cons r fuel' hsame]
      split
      · exact hnext _ (Nat.le_refl _)
      split
      · refine (stable_bounds f rest t).bind (fun ⟨b, left⟩ hb => ?_) fun ⟨b, left⟩ => ?_
        · have hleft : left.length ≤ rest.length :=
            ((within_bounds f rest _ hb).trans (f.skip_suffix rest)).length_le
          have hafter := f.length_skip_le left
          dsimp only [extend]
          refine f.stable_of_skip ((within_repetitions f _ _ _).mono (skipLazy_suffix _))
            fun hsame => ?_
          rw [hsame]
          exact hnext _ (Nat.le_trans hafter hleft)
        · exact (within_repetitions f _ _ _).mono ((skipLazy_suffix _).trans (f.skip_suffix left))
      · exact .same (r, c :: rest)

/-- A brace that is left over is no repetition when the text ended behind it. -/
theorem within_repetitions_of_braced {rest : List Char} (h : f.skip rest <:+ ')' :: t) (fuel : Nat)
    (r : Reading) : Within t (repetitions f (fuel + 1) r ('\x7b' :: rest)) := by
  have hskip := f.skip_cons (c := '\x7b') rfl (by decide) rest
  have hnone : operatorBounds? '\x7b' = none := rfl
  rw [repetitions_cons r fuel hskip, hnone]
  dsimp only
  rw [if_pos rfl]
  rcases List.suffix_cons_iff.1 h with hparen | hpast
  · rw [bounds_eq_none hparen]
    exact .none
  · refine ((within_bounds f rest).mono hpast).bind fun read => ?_
    exact (within_repetitions f _ _ _).mono ((skipLazy_suffix _).trans (f.skip_suffix read.2))

end MockProvider.Pattern
