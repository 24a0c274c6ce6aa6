import MockProvider.Pattern.Anchored
import MockProvider.Proofs.Pattern.Groups
import MockProvider.Proofs.Pattern.Spans

/-!
# Texts between anchors

The text of an anchored pattern is read as the inside of a group. Where reading the text by itself
comes to its end, the text is a pattern and the anchored one matches what it spans as a whole. Else
reading stops at a closing parenthesis of the text, which is then the end of the group: the text is
no pattern, and what stands behind the parenthesis is outside the group.
-/

namespace MockProvider.Pattern

variable {fuel : Nat} {ctx ctx' : Context} {cs rest tail left : List Char} {p : Pattern}
  {r body : Reading} {inner : Context} {several : Bool}

/-! ## Where reading stops -/

theorem sequence_ends {s : Sequence} (h : sequence fuel ctx cs = some (s, ctx', rest)) :
    rest = [] ∨ ∃ c left, rest = c :: left ∧ (c = '|' ∨ c = ')') := by
  induction fuel generalizing ctx cs s with
  | zero => cases h
  | succ fuel ih =>
    cases hskip : ctx.flags.skip cs with
    | nil =>
      rw [sequence_nil fuel hskip] at h
      cases h
      exact Or.inl rfl
    | cons c left =>
      rw [sequence_cons fuel hskip] at h
      split at h
      · next hend =>
        cases h
        exact Or.inr ⟨c, left, rfl, hend⟩
      · obtain ⟨first, -, h⟩ := Option.bind_eq_some_iff.1 h
        obtain ⟨others, hothers, h⟩ := Option.bind_eq_some_iff.1 h
        cases h
        exact ih hothers

/-- Bars are read on from, so that reading stops at the end of the text or of the group. -/
theorem choice_ends (h : choice fuel ctx cs = some (r, several, ctx', rest)) :
    rest = [] ∨ ∃ left, rest = ')' :: left := by
  induction fuel generalizing ctx cs r several with
  | zero => cases h
  | succ fuel ih =>
    rw [choice_succ] at h
    obtain ⟨⟨first, ctx₁, rest₁⟩, hfirst, h⟩ := Option.bind_eq_some_iff.1 h
    rcases sequence_ends hfirst with rfl | ⟨c, left, rfl, rfl | rfl⟩
    · cases h
      exact Or.inl rfl
    · obtain ⟨others, hothers, h⟩ := Option.bind_eq_some_iff.1 h
      cases h
      exact ih hothers
    · cases h
      exact Or.inr ⟨left, rfl⟩

/-- Reading that stops at a closing parenthesis, and not at a later one, reads what stands in front
    of the parenthesis as if nothing followed. -/
theorem choice_of_paren
    (h : choice fuel ctx (cs ++ ')' :: tail) = some (r, several, ctx', ')' :: left))
    (hlater : ¬ ')' :: left <:+ tail) :
    ∃ rest, choice (3 * cs.length + 3) ctx cs = some (r, several, ctx', rest) ∧
      rest ++ ')' :: tail = ')' :: left := by
  rcases stable_choice fuel _ ctx cs tail (Nat.le_refl _) with ⟨alone, halone, hlong⟩ | hpast
  · obtain ⟨r₁, several₁, ctx₁, rest⟩ := alone
    simp only [h, Option.some.injEq, Leftover.extend, Prod.mk.injEq] at hlong
    obtain ⟨rfl, rfl, rfl, hrest⟩ := hlong
    exact ⟨rest, halone, hrest.symm⟩
  · exact absurd (hpast _ h) hlater

/-! ## Between the anchors -/

theorem part_caret (fuel : Nat) (cs : List Char) :
    part (fuel + 1) {} '^' ('(' :: cs) = some (⟨.look .textStart, 0, 32⟩, {}, '(' :: cs) := rfl

theorem part_group (fuel : Nat) (cs : List Char) :
    part (fuel + 1) {} '(' ('?' :: ':' :: cs) =
      (choice fuel {} cs).bind fun (body, several, inner, rest) =>
        closeGroup {} inner body several rest := by
  rw [part_succ, if_pos rfl]
  rfl

theorem sequence_dollar (fuel : Nat) (names : List (List Char)) :
    sequence (fuel + 2) { names := names } ['$'] =
      some (({} : Sequence).cons ⟨.look .textEnd, 0, 32⟩, { names := names }, []) := rfl

theorem choice_anchor (fuel : Nat) (cs : List Char) :
    choice (fuel + 4) {} ('^' :: '(' :: '?' :: ':' :: cs) =
      (choice fuel {} cs).bind fun (body, several, inner, rest) =>
        (closeGroup {} inner body several rest).bind fun (group, ctx, rest) =>
          (sequence (fuel + 1) ctx rest).bind fun (others, ctx, rest) =>
            choiceAfter (fuel + 3) ((others.cons group).cons ⟨.look .textStart, 0, 32⟩)
              ctx rest := by
  have hgroup : sequence (fuel + 2) {} ('(' :: '?' :: ':' :: cs) =
      (choice fuel {} cs).bind fun (body, several, inner, rest) =>
        (closeGroup {} inner body several rest).bind fun (group, ctx, rest) =>
          (sequence (fuel + 1) ctx rest).bind fun (others, ctx, rest) =>
            some (others.cons group, ctx, rest) := by
    have hskip : Flags.skip ({} : Context).flags ('(' :: '?' :: ':' :: cs) =
        '(' :: '?' :: ':' :: cs := rfl
    rw [sequence_cons (fuel + 1) hskip, if_neg (by decide), part_group, Option.bind_assoc]
  have hskip : Flags.skip ({} : Context).flags ('^' :: '(' :: '?' :: ':' :: cs) =
      '^' :: '(' :: '?' :: ':' :: cs := rfl
  rw [choice_succ, sequence_cons (fuel + 2) hskip, if_neg (by decide), part_caret,
    Option.bind_some]
  dsimp only
  rw [hgroup]
  simp only [Option.bind_assoc]
  rfl

/-- A group that ends where the text does gives the pattern between the anchors. -/
theorem choice_anchored
    (h : choice (fuel + 1) {} cs = some (body, several, inner, [')', '$'])) :
    choice (fuel + 5) {} ('^' :: '(' :: '?' :: ':' :: cs) =
      some (⟨body.pattern.whole, (if several then body.depth + 2 else body.depth + 1) + 1,
        body.room + 128⟩, false, { names := inner.names }, []) := by
  have hclose : closeGroup {} inner body several [')', '$'] =
      some (⟨body.pattern, if several then body.depth + 2 else body.depth + 1, body.room + 64⟩,
        { names := inner.names }, ['$']) := rfl
  rw [choice_anchor, h, Option.bind_some]
  dsimp only
  rw [hclose, Option.bind_some]
  dsimp only
  rw [sequence_dollar]
  simp [choiceAfter, Sequence.cons, Sequence.close, whole]
  omega

/-! ## Whole texts -/

theorem ofChars?_eq_some_iff :
    ofChars? cs = some p ↔
      ∃ r several ctx, choice (3 * cs.length + 3) {} cs = some (r, several, ctx, []) ∧
        (if several then r.depth + 1 else r.depth) ≤ maxDepth ∧ r.room ≤ maxRoom ∧
        r.pattern = p := by
  constructor
  · intro h
    obtain ⟨⟨r, several, ctx, rest⟩, hchoice, h⟩ := Option.bind_eq_some_iff.1 h
    obtain ⟨⟨hrest, hdepth, hroom⟩, hpattern⟩ := Option.ite_none_right_eq_some.1 h
    rw [List.isEmpty_iff.1 hrest] at hchoice
    exact ⟨r, several, ctx, hchoice, hdepth, hroom, Option.some.inj hpattern⟩
  · rintro ⟨r, several, ctx, hchoice, hdepth, hroom, rfl⟩
    exact Option.bind_eq_some_iff.2 ⟨_, hchoice, if_pos ⟨rfl, hdepth, hroom⟩⟩

/-- The text is read as a pattern to its end, however deep its constructs nest and however much room
    it takes. -/
def Reads (cs : List Char) : Prop :=
  ∃ r several ctx, choice (3 * cs.length + 3) {} cs = some (r, several, ctx, [])

theorem ofChars?_eq_none_of_paren
    (h : choice (3 * cs.length + 3) {} cs = some (r, several, ctx, ')' :: left)) :
    ofChars? cs = none := by
  rw [Option.eq_none_iff_forall_ne_some]
  intro p hp
  obtain ⟨_, _, _, hend, -⟩ := ofChars?_eq_some_iff.1 hp
  rw [h] at hend
  cases hend

theorem exists_reads_of_paren
    (h : choice (3 * cs.length + 3) {} cs = some (r, several, ctx, ')' :: left)) :
    ∃ front, cs = front ++ ')' :: left ∧ Reads front := by
  obtain ⟨front, rfl⟩ := within_choice _ _ _ _ h
  -- the parenthesis is read neither as part of a set nor of a comment: reading stops right there
  have hlater : ¬ ')' :: left <:+ left := fun hsuffix =>
    Nat.not_succ_le_self _ hsuffix.length_le
  obtain ⟨rest, halone, hrest⟩ := choice_of_paren h hlater
  obtain rfl : rest = [] := List.append_left_eq_self.1 hrest
  exact ⟨front, rfl, r, several, ctx, halone⟩

/-- An anchored text is read up to the end of the group that is put around it. -/
theorem group_of_anchored
    (h : ofChars? ('^' :: '(' :: '?' :: ':' :: (cs ++ [')', '$'])) = some p) :
    ∃ body several inner left, choice (3 * cs.length + 17) {} (cs ++ [')', '$']) =
      some (body, several, inner, ')' :: left) := by
  obtain ⟨_, _, _, h, -⟩ := ofChars?_eq_some_iff.1 h
  have hfuel : 3 * ('^' :: '(' :: '?' :: ':' :: (cs ++ [')', '$'])).length + 3 =
      3 * cs.length + 17 + 4 := by
    simp only [List.length_cons, List.length_append, List.length_nil]
    omega
  rw [hfuel, choice_anchor] at h
  obtain ⟨⟨body, several, inner, rest⟩, hbody, h⟩ := Option.bind_eq_some_iff.1 h
  obtain ⟨group, hclose, -⟩ := Option.bind_eq_some_iff.1 h
  rcases choice_ends hbody with rfl | ⟨left, rfl⟩
  · cases hclose
  · exact ⟨body, several, inner, left, hbody⟩

/-- A text that is read to its end in the group is a pattern with the same reading; anchors only add
    to the depth and to the room. -/
theorem ofChars?_of_anchored
    (h : ofChars? ('^' :: '(' :: '?' :: ':' :: (cs ++ [')', '$'])) = some p)
    (hgroup : choice (3 * cs.length + 17) {} (cs ++ [')', '$']) =
      some (body, several, inner, [')', '$']))
    (halone : choice (3 * cs.length + 3) {} cs = some (body, several, inner, [])) :
    ofChars? cs = some body.pattern ∧ p = body.pattern.whole := by
  obtain ⟨r, several', ctx, hchoice, hdepth, hroom, rfl⟩ := ofChars?_eq_some_iff.1 h
  have hfuel : 3 * ('^' :: '(' :: '?' :: ':' :: (cs ++ [')', '$'])).length + 3 =
      3 * cs.length + 16 + 5 := by
    simp only [List.length_cons, List.length_append, List.length_nil]
    omega
  rw [hfuel, choice_anchored hgroup] at hchoice
  cases hchoice
  refine ⟨ofChars?_eq_some_iff.2 ⟨body, several, inner, halone, ?_, ?_, rfl⟩, rfl⟩
  · refine Nat.le_trans ?_ hdepth
    cases several with
    | false => exact Nat.le_add_right body.depth 2
    | true => exact Nat.le_add_right (body.depth + 1) 2
  · exact Nat.le_trans (Nat.le_add_right _ _) hroom

namespace Anchored

theorem toList_anchor (text : String) :
    (anchor text).toList = '^' :: '(' :: '?' :: ':' :: (text.toList ++ [')', '$']) := by
  simp [anchor]

theorem ofChars?_of_ofText? {text : String} {a : Anchored} (h : ofText? text = some a) :
    ofChars? ('^' :: '(' :: '?' :: ':' :: (text.toList ++ [')', '$'])) = some a.pattern := by
  rw [← toList_anchor]
  unfold ofText? at h
  split at h
  · next hcompiled =>
    cases h
    exact hcompiled
  · cases h

/-- A text that can be anchored is a pattern by itself, and then exactly the values are accepted that
    the pattern spans from the first character to the last; or it closes a group that it has not
    opened, behind a pattern. -/
theorem spans_or_closes {text : String} {a : Anchored} (h : ofText? text = some a) :
    (∃ p, Pattern.ofText? text = some p ∧
      ∀ value, a.accepts value = true ↔ p.Spans value.toList 0 value.toList.length) ∨
    (Pattern.ofText? text = none ∧
      ∃ front back, text = front ++ ")" ++ back ∧ Reads front.toList) := by
  have hcompiled := ofChars?_of_ofText? h
  obtain ⟨body, several, inner, left, hgroup⟩ := group_of_anchored hcompiled
  -- behind the group put around the text there is only a dollar sign, and no parenthesis
  have hlater : ¬ ')' :: left <:+ ['$'] := fun hsuffix => by
    simpa using hsuffix.subset List.mem_cons_self
  obtain ⟨rest, halone, hrest⟩ := choice_of_paren hgroup hlater
  rcases choice_ends halone with rfl | ⟨back, rfl⟩
  · obtain rfl : ['$'] = left := (List.cons.inj hrest).2
    obtain ⟨hpattern, hwhole⟩ := ofChars?_of_anchored hcompiled hgroup halone
    refine Or.inl ⟨body.pattern, hpattern, fun value => ?_⟩
    rw [accepts, hwhole]
    exact found_whole_iff body.pattern value.toList
  · obtain ⟨front, htext, hreads⟩ := exists_reads_of_paren halone
    refine Or.inr ⟨ofChars?_eq_none_of_paren halone, .ofList front, .ofList back, ?_, ?_⟩
    · rw [← String.toList_inj, htext]
      simp
    · rwa [String.toList_ofList]

/-- Alternatives, a flag and a counted repetition stay inside the anchors. -/
theorem spans_or_closes_alternatives :
    ∃ a p, ofText? "(?i)a|b{2,}" = some a ∧ Pattern.ofText? "(?i)a|b{2,}" = some p ∧
      ∀ value, a.accepts value = true ↔ p.Spans value.toList 0 value.toList.length := by
  obtain ⟨a, ha⟩ : ∃ a, ofText? "(?i)a|b{2,}" = some a :=
    Option.isSome_iff_exists.1 (by decide +kernel)
  have hpattern : Pattern.ofText? "(?i)a|b{2,}" ≠ none := by decide +kernel
  obtain ⟨p, hp, hspans⟩ := (spans_or_closes ha).resolve_right fun h => hpattern h.1
  exact ⟨a, p, ha, hp, hspans⟩

/-- A text that closes the group and opens another one is no pattern by itself. Anchored it accepts
    values that only begin as it says. -/
theorem not_spans_of_closing :
    (ofText? "a)|(?:b").map (·.accepts "ax") = some true ∧ Pattern.ofText? "a)|(?:b" = none := by
  decide +kernel

end Anchored

end MockProvider.Pattern
