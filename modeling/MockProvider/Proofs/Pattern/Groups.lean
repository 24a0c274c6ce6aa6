import MockProvider.Proofs.Pattern.Brackets
import MockProvider.Proofs.Pattern.Repetitions

/-!
# Groups in front of a closing parenthesis

The reader of patterns is stable (`stable_choice`): a text that is followed by a closing parenthesis
is read as it is by itself, up to the end of the text, unless reading goes beyond the parenthesis.
-/

namespace MockProvider.Pattern

variable {cs t : List Char}

/-! ## Openings -/

theorem within_groupName (ctx : Context) (cs : List Char) : Within cs (groupName ctx cs) := by
  have hdrop : cs.dropWhile (· != '>') <:+ cs := List.dropWhile_suffix _
  rw [groupName]
  split
  · exact .none
  · next c rest heq =>
    rw [heq] at hdrop
    split
    · exact .some ((List.suffix_cons c rest).trans hdrop)
    · exact .none

theorem stable_groupName (ctx : Context) (cs t : List Char) :
    Stable t (groupName ctx cs) (groupName ctx (cs ++ ')' :: t)) := by
  by_cases hend : '>' ∈ cs
  · obtain ⟨name, after, rfl, hname⟩ := List.eq_append_cons_of_mem hend
    have htake := takeWhile_bne_append hname
    have hdrop := dropWhile_bne_append hname
    rw [List.append_assoc, List.cons_append, groupName, groupName, htake, htake, hdrop, hdrop]
    dsimp only
    split
    · exact .same (Opening.group { ctx with names := name :: ctx.names }, after)
    · exact .none
  · have hdrop : (cs ++ ')' :: t).dropWhile (· != '>') <:+ t := by
      rw [List.dropWhile_append_of_pos (bne_of_not_mem hend),
        List.dropWhile_cons_of_pos (by decide)]
      exact List.dropWhile_suffix _
    refine .past ?_
    rw [groupName]
    split
    · exact .none
    · next c rest heq =>
      rw [heq] at hdrop
      split
      · exact .some ((List.suffix_cons c rest).trans hdrop)
      · exact .none

/-- The opening that flags make, by what ends them. -/
def flagOpening (ctx : Context) (flags : Flags) (any : Bool) (cs : List Char) :
    Option (Opening × List Char) :=
  match cs with
  | ')' :: rest => if any then some (.flagsOnly flags, rest) else none
  | ':' :: rest => some (.group { ctx with flags := flags }, rest)
  | _ => none

/-- The opening after a question mark that no name follows. -/
def flagGroup (ctx : Context) (cs : List Char) : Option (Opening × List Char) :=
  (flagItem ctx.flags [] true false cs).bind fun (flags, any, rest) => flagOpening ctx flags any rest

/-- The opening after a question mark and an angle bracket. -/
def angled (ctx : Context) (cs : List Char) : Option (Opening × List Char) :=
  match cs with
  | '=' :: _ => none
  | '!' :: _ => none
  | rest => groupName ctx rest

/-- The opening after a question mark. -/
def openingAfter (ctx : Context) (cs : List Char) : Option (Opening × List Char) :=
  match cs with
  | '=' :: _ => none
  | '!' :: _ => none
  | '<' :: rest => angled ctx rest
  | 'P' :: '<' :: rest => groupName ctx rest
  | rest => flagGroup ctx rest

theorem angled_other (ctx : Context) (hequals : ∀ rest, cs ≠ '=' :: rest)
    (hnot : ∀ rest, cs ≠ '!' :: rest) : angled ctx cs = groupName ctx cs := by
  rw [angled]
  · exact hequals
  · exact hnot

theorem openingAfter_other (ctx : Context) (hequals : ∀ rest, cs ≠ '=' :: rest)
    (hnot : ∀ rest, cs ≠ '!' :: rest) (hangle : ∀ rest, cs ≠ '<' :: rest)
    (hname : ∀ rest, cs ≠ 'P' :: '<' :: rest) : openingAfter ctx cs = flagGroup ctx cs := by
  rw [openingAfter]
  · exact hequals
  · exact hnot
  · exact hangle
  · exact hname

theorem flagGroup_eq (ctx : Context) (cs : List Char) :
    flagGroup ctx cs =
      match flagItem ctx.flags [] true false cs with
      | some (flags, any, ')' :: rest) => if any then some (.flagsOnly flags, rest) else none
      | some (flags, _, ':' :: rest) => some (.group { ctx with flags := flags }, rest)
      | _ => none := by
  rw [flagGroup]
  cases flagItem ctx.flags [] true false cs with
  | none => rfl
  | some read =>
    obtain ⟨flags, any, rest⟩ := read
    rw [Option.bind_some]
    dsimp only
    rw [flagOpening.eq_def]
    split
    · rfl
    · rfl
    · next hparen hcolon =>
      split
      · next heq =>
        cases heq
        exact absurd rfl (hparen _)
      · next heq =>
        cases heq
        exact absurd rfl (hcolon _)
      · rfl

theorem opening_question {ctx : Context} {rest : List Char} (hskip : ctx.flags.skip cs = '?' :: rest) :
    opening ctx cs = openingAfter ctx rest := by
  rw [opening, hskip]
  split
  · next heq =>
    cases heq
    rfl
  · next heq =>
    cases heq
    rfl
  · next heq =>
    cases heq
    rfl
  · next heq =>
    cases heq
    rfl
  · next heq =>
    cases heq
    rfl
  · next hequals hnot heq =>
    cases heq
    exact (angled_other ctx hequals hnot).symm
  · next hequals hnot _ _ hname hangle heq =>
    cases heq
    rw [openingAfter_other ctx hequals hnot hangle hname]
    exact (flagGroup_eq ctx rest).symm
  · next hother =>
    exact absurd rfl (hother rest)

theorem opening_other {ctx : Context} (h : ∀ rest, ctx.flags.skip cs ≠ '?' :: rest) :
    opening ctx cs = some (.group ctx, ctx.flags.skip cs) := by
  rw [opening]
  split
  · next heq => exact absurd heq (h _)
  · next heq => exact absurd heq (h _)
  · next heq => exact absurd heq (h _)
  · next heq => exact absurd heq (h _)
  · next heq => exact absurd heq (h _)
  · next heq => exact absurd heq (h _)
  · next heq => exact absurd heq (h _)
  · rfl

theorem within_flagOpening (ctx : Context) (flags : Flags) (any : Bool) (cs : List Char) :
    Within cs (flagOpening ctx flags any cs) := by
  rw [flagOpening.eq_def]
  split
  · next rest =>
    split
    · exact .some (List.suffix_cons _ rest)
    · exact .none
  · next rest => exact .some (List.suffix_cons _ rest)
  · exact .none

/-- A parenthesis that ends flags is read. -/
theorem within_flagOpening_paren (ctx : Context) (flags : Flags) (any : Bool) (t : List Char) :
    Within t (flagOpening ctx flags any (')' :: t)) := by
  rw [flagOpening]
  split
  · exact .some List.suffix_rfl
  · exact .none

theorem stable_flagOpening (ctx : Context) (flags : Flags) (any : Bool) (cs t : List Char) :
    Stable t (flagOpening ctx flags any cs) (flagOpening ctx flags any (cs ++ ')' :: t)) := by
  cases cs with
  | nil => exact .past (within_flagOpening_paren ctx flags any t)
  | cons c rest =>
    by_cases hparen : c = ')'
    · subst hparen
      rw [List.cons_append, flagOpening, flagOpening]
      split
      · exact .same (Opening.flagsOnly flags, rest)
      · exact .none
    by_cases hcolon : c = ':'
    · subst hcolon
      exact .same (Opening.group { ctx with flags := flags }, rest)
    have hnone : flagOpening ctx flags any (c :: (rest ++ ')' :: t)) = none := by
      rw [flagOpening]
      · simp [hparen]
      · simp [hcolon]
    rw [List.cons_append, hnone]
    exact .none

theorem within_flagGroup (ctx : Context) (cs : List Char) : Within cs (flagGroup ctx cs) :=
  (within_flagItem _ _ _ _ cs).bind fun _ => within_flagOpening ctx _ _ _

theorem stable_flagGroup (ctx : Context) (cs t : List Char) :
    Stable t (flagGroup ctx cs) (flagGroup ctx (cs ++ ')' :: t)) := by
  rw [flagGroup, flagGroup]
  rcases flagItem_append ctx.flags [] true false cs t with ⟨⟨flags, any, rest⟩, hshort, hlong⟩ | hend
  · rw [hshort, hlong]
    exact stable_flagOpening ctx flags any rest t
  · refine .past fun s hs => ?_
    obtain ⟨⟨flags, any, rest⟩, hr, hs⟩ := Option.bind_eq_some_iff.1 hs
    obtain rfl : rest = ')' :: t := hend _ hr
    exact within_flagOpening_paren ctx flags any t s hs

theorem within_angled (ctx : Context) (cs : List Char) : Within cs (angled ctx cs) := by
  rw [angled.eq_def]
  split
  · exact .none
  · exact .none
  · exact within_groupName ctx _

theorem stable_angled (ctx : Context) (cs t : List Char) :
    Stable t (angled ctx cs) (angled ctx (cs ++ ')' :: t)) := by
  by_cases hequals : ∃ rest, cs = '=' :: rest
  · obtain ⟨rest, rfl⟩ := hequals
    exact .none
  by_cases hnot : ∃ rest, cs = '!' :: rest
  · obtain ⟨rest, rfl⟩ := hnot
    exact .none
  rw [angled_other ctx (not_exists.1 hequals) (not_exists.1 hnot),
    angled_other ctx (append_ne_cons (by decide) (not_exists.1 hequals))
      (append_ne_cons (by decide) (not_exists.1 hnot))]
  exact stable_groupName ctx cs t

theorem within_openingAfter (ctx : Context) (cs : List Char) : Within cs (openingAfter ctx cs) := by
  rw [openingAfter.eq_def]
  split
  · exact .none
  · exact .none
  · next rest => exact (within_angled ctx rest).mono (List.suffix_cons _ rest)
  · next rest =>
    exact (within_groupName ctx rest).mono ((List.suffix_cons _ rest).trans (List.suffix_cons _ _))
  · exact within_flagGroup ctx _

theorem stable_openingAfter (ctx : Context) (cs t : List Char) :
    Stable t (openingAfter ctx cs) (openingAfter ctx (cs ++ ')' :: t)) := by
  by_cases hequals : ∃ rest, cs = '=' :: rest
  · obtain ⟨rest, rfl⟩ := hequals
    exact .none
  by_cases hnot : ∃ rest, cs = '!' :: rest
  · obtain ⟨rest, rfl⟩ := hnot
    exact .none
  by_cases hangle : ∃ rest, cs = '<' :: rest
  · obtain ⟨rest, rfl⟩ := hangle
    exact stable_angled ctx rest t
  by_cases hname : ∃ rest, cs = 'P' :: '<' :: rest
  · obtain ⟨rest, rfl⟩ := hname
    exact stable_groupName ctx rest t
  have hlong (rest : List Char) : cs ++ ')' :: t ≠ 'P' :: '<' :: rest := by
    intro heq
    cases cs with
    | nil => exact absurd (List.cons.inj heq).1 (by decide)
    | cons c cs =>
      obtain ⟨rfl, htail⟩ := List.cons.inj heq
      have hnext : ∀ rest, cs ≠ '<' :: rest := fun rest hrest => hname ⟨rest, by rw [hrest]⟩
      exact append_ne_cons (by decide) hnext rest htail
  rw [openingAfter_other ctx (not_exists.1 hequals) (not_exists.1 hnot) (not_exists.1 hangle)
      (not_exists.1 hname),
    openingAfter_other ctx (append_ne_cons (by decide) (not_exists.1 hequals))
      (append_ne_cons (by decide) (not_exists.1 hnot))
      (append_ne_cons (by decide) (not_exists.1 hangle)) hlong]
  exact stable_flagGroup ctx cs t

theorem within_opening (ctx : Context) (cs : List Char) :
    Within (ctx.flags.skip cs) (opening ctx cs) := by
  by_cases hquestion : ∃ rest, ctx.flags.skip cs = '?' :: rest
  · obtain ⟨rest, hskip⟩ := hquestion
    rw [opening_question hskip, hskip]
    exact (within_openingAfter ctx rest).mono (List.suffix_cons _ rest)
  · rw [opening_other (not_exists.1 hquestion)]
    exact .some List.suffix_rfl

theorem stable_opening (ctx : Context) (cs t : List Char) :
    Stable t (opening ctx cs) (opening ctx (cs ++ ')' :: t)) := by
  refine ctx.flags.stable_of_skip (within_opening ctx _) fun hsame => ?_
  by_cases hquestion : ∃ rest, ctx.flags.skip cs = '?' :: rest
  · obtain ⟨rest, hskip⟩ := hquestion
    rw [hskip, List.cons_append] at hsame
    rw [opening_question hskip, opening_question hsame]
    exact stable_openingAfter ctx rest t
  · have hlong (rest : List Char) : ctx.flags.skip (cs ++ ')' :: t) ≠ '?' :: rest := by
      rw [hsame]
      exact append_ne_cons (by decide) (not_exists.1 hquestion) rest
    rw [opening_other (not_exists.1 hquestion), opening_other hlong, hsame]
    exact .same (Opening.group ctx, ctx.flags.skip cs)

/-! ## Parts -/

/-- What has been read, with the operators that repeat it. -/
def repeated (ctx : Context) (r : Reading) (rest : List Char) :
    Option (Reading × Context × List Char) :=
  (repetitions ctx.flags (rest.length + 1) r rest).map fun (r, rest) => (r, ctx, rest)

/-- A part that is one character, if it is none that begins a group, a set or an escape. -/
def simplePart (f : Flags) : Char → Option Reading
  | '.' => dot f
  | '^' => some ⟨.look (startSign f), 0, 32⟩
  | '$' => some ⟨.look (endSign f), 0, 32⟩
  | '?' => none
  | '*' => none
  | '+' => none
  | '\x7b' => none
  | c => some (literal f c)

/-- The end of a group, whose parts have been read. -/
def closeGroup (ctx inner : Context) (body : Reading) (several : Bool) (rest : List Char) :
    Option (Reading × Context × List Char) :=
  match rest with
  | ')' :: rest =>
    repeated { ctx with names := inner.names }
      ⟨body.pattern, if several then body.depth + 2 else body.depth + 1, body.room + 64⟩ rest
  | _ => none

/-- A group after its opening. -/
def groupPart (fuel : Nat) (ctx : Context) (o : Opening) (rest : List Char) :
    Option (Reading × Context × List Char) :=
  match o with
  | .flagsOnly flags => some (⟨.empty, 0, 0⟩, { ctx with flags := flags }, rest)
  | .group inner =>
    (choice fuel inner rest).bind fun (body, several, inner, rest) =>
      closeGroup ctx inner body several rest

theorem part_succ (fuel : Nat) (ctx : Context) (c : Char) (rest : List Char) :
    part (fuel + 1) ctx c rest =
      if c = '(' then (opening ctx rest).bind fun (o, rest) => groupPart fuel ctx o rest
      else if c = '[' then
        (bracket ctx.flags (2 * rest.length + 2) rest).bind fun (b, rest) =>
          repeated ctx ⟨.set b.accepts, b.depth, b.room⟩ rest
      else if c = '\\' then
        (escape ctx.flags rest).bind fun (primitive, rest) =>
          repeated ctx (primitive.reading ctx.flags) rest
      else (simplePart ctx.flags c).bind fun r => repeated ctx r rest := by
  rw [part.eq_def]
  dsimp only
  split
  · rw [if_pos rfl]
    cases opening ctx rest with
    | none => rfl
    | some read =>
      obtain ⟨o, left⟩ := read
      cases o with
      | flagsOnly flags => rfl
      | group inner => rfl
  · rfl
  · rfl
  · rfl
  · rfl
  · rfl
  · rfl
  · rfl
  · rfl
  · rfl
  · next hgroup hset hescape hdot hstart hend hmark hstar hplus hbrace =>
    have hsimple : simplePart ctx.flags c = some (literal ctx.flags c) := by
      rw [simplePart]
      · exact hdot
      · exact hstart
      · exact hend
      · exact hmark
      · exact hstar
      · exact hplus
      · exact hbrace
    rw [if_neg hgroup, if_neg hset, if_neg hescape, hsimple]
    rfl

theorem within_repeated (ctx : Context) (r : Reading) (rest : List Char) :
    Within rest (repeated ctx r rest) :=
  (within_repetitions ctx.flags _ r rest).map fun _ => rfl

theorem stable_repeated (ctx : Context) (r : Reading) (rest t : List Char) :
    Stable t (repeated ctx r rest) (repeated ctx r (rest ++ ')' :: t)) :=
  (stable_repetitions ctx.flags r (Nat.lt_succ_self _) (Nat.lt_succ_self _)).map (fun _ => rfl)
    fun _ => rfl

theorem within_closeGroup (ctx inner : Context) (body : Reading) (several : Bool)
    (rest : List Char) : Within rest (closeGroup ctx inner body several rest) := by
  rw [closeGroup.eq_def]
  split
  · next rest => exact (within_repeated _ _ rest).mono (List.suffix_cons _ rest)
  · exact .none

theorem stable_closeGroup (ctx inner : Context) (body : Reading) (several : Bool)
    (rest t : List Char) :
    Stable t (closeGroup ctx inner body several rest)
      (closeGroup ctx inner body several (rest ++ ')' :: t)) := by
  cases rest with
  | nil =>
    -- the parenthesis behind the text ends the group, and operators behind it may follow
    exact .past (within_repeated _ _ t)
  | cons c rest =>
    by_cases hparen : c = ')'
    · subst hparen
      exact stable_repeated _ _ rest t
    · have hnone : closeGroup ctx inner body several (c :: (rest ++ ')' :: t)) = none := by
        rw [closeGroup]
        simp [hparen]
      rw [List.cons_append, hnone]
      exact .none

/-! ## Patterns -/

/-- A sequence that has been read, and what follows a bar behind it. -/
def choiceAfter (fuel : Nat) (first : Sequence) (ctx : Context) (rest : List Char) :
    Option (Reading × Bool × Context × List Char) :=
  match rest with
  | '|' :: rest =>
    (choice fuel ctx rest).bind fun (others, _, ctx, rest) =>
      some (⟨.alt first.close.pattern others.pattern, max first.close.depth others.depth,
        first.close.room + others.room + 32⟩, true, ctx, rest)
  | rest => some (first.close, false, ctx, rest)

theorem choice_succ (fuel : Nat) (ctx : Context) (cs : List Char) :
    choice (fuel + 1) ctx cs = (sequence fuel ctx cs).bind fun (first, ctx, rest) =>
      choiceAfter fuel first ctx rest := by
  rw [choice]
  rfl

theorem sequence_nil {ctx : Context} (fuel : Nat) (hskip : ctx.flags.skip cs = []) :
    sequence (fuel + 1) ctx cs = some ({}, ctx, []) := by
  rw [sequence, hskip]

theorem sequence_cons {ctx : Context} (fuel : Nat) {c : Char} {rest : List Char}
    (hskip : ctx.flags.skip cs = c :: rest) :
    sequence (fuel + 1) ctx cs =
      if c = '|' ∨ c = ')' then some ({}, ctx, c :: rest)
      else
        (part fuel ctx c rest).bind fun (first, ctx, rest) =>
          (sequence fuel ctx rest).bind fun (others, ctx, rest) =>
            some (others.cons first, ctx, rest) := by
  rw [sequence, hskip]
  split
  · next heq => cases heq
  · next heq =>
    cases heq
    rfl
  · next heq =>
    cases heq
    rfl
  · next hbar hparen heq =>
    cases heq
    rw [if_neg (not_or.2 ⟨hbar, hparen⟩)]
    rfl

section

variable {fuel : Nat} (h : ∀ (ctx : Context) (cs : List Char), Within cs (choice fuel ctx cs))

include h

theorem within_groupPart (ctx : Context) (o : Opening) (rest : List Char) :
    Within rest (groupPart fuel ctx o rest) := by
  cases o with
  | flagsOnly flags => exact .some List.suffix_rfl
  | group inner => exact (h inner rest).bind fun _ => within_closeGroup ctx _ _ _ _

theorem within_choiceAfter (first : Sequence) (ctx : Context) (rest : List Char) :
    Within rest (choiceAfter fuel first ctx rest) := by
  rw [choiceAfter.eq_def]
  split
  · next rest =>
    exact ((h ctx rest).mono (List.suffix_cons _ rest)).bind fun _ => .some List.suffix_rfl
  · exact .some List.suffix_rfl

end

mutual

theorem within_choice : ∀ (fuel : Nat) (ctx : Context) (cs : List Char),
    Within cs (choice fuel ctx cs)
  | 0, _, _ => .none
  | fuel + 1, ctx, cs => by
    rw [choice_succ]
    exact ((within_sequence fuel ctx cs).mono (ctx.flags.skip_suffix cs)).bind
      fun _ => within_choiceAfter (within_choice fuel) _ _ _

theorem within_sequence : ∀ (fuel : Nat) (ctx : Context) (cs : List Char),
    Within (ctx.flags.skip cs) (sequence fuel ctx cs)
  | 0, _, _ => .none
  | fuel + 1, ctx, cs => by
    cases hskip : ctx.flags.skip cs with
    | nil =>
      rw [sequence_nil fuel hskip]
      exact .some List.suffix_rfl
    | cons c rest =>
      rw [sequence_cons fuel hskip]
      split
      · exact .some List.suffix_rfl
      · refine ((within_part fuel ctx c rest).mono (List.suffix_cons c rest)).bind
          fun ⟨first, ctx, rest⟩ => ?_
        exact ((within_sequence fuel ctx rest).mono (ctx.flags.skip_suffix rest)).bind
          fun _ => .some List.suffix_rfl

theorem within_part : ∀ (fuel : Nat) (ctx : Context) (c : Char) (rest : List Char),
    Within rest (part fuel ctx c rest)
  | 0, _, _, _ => .none
  | fuel + 1, ctx, c, rest => by
    rw [part_succ]
    split
    · exact ((within_opening ctx rest).mono (ctx.flags.skip_suffix rest)).bind
        fun _ => within_groupPart (within_choice fuel) ctx _ _
    split
    · exact ((within_bracket ctx.flags _ rest).mono (ctx.flags.skip_suffix rest)).bind
        fun _ => within_repeated ctx _ _
    split
    · refine Within.bind ?_ fun _ => within_repeated ctx _ _
      cases rest with
      | nil => exact .none
      | cons c rest => exact (within_escape ctx.flags c rest).mono (List.suffix_cons c rest)
    · cases simplePart ctx.flags c with
      | none => exact .none
      | some r => exact within_repeated ctx r rest

end

/-- A part of a pattern that is a set or an escape is stable, with what repeats it. -/
theorem stable_bracketPart (ctx : Context) (rest t : List Char) :
    Stable t
      ((bracket ctx.flags (2 * rest.length + 2) rest).bind fun (b, rest) =>
        repeated ctx ⟨.set b.accepts, b.depth, b.room⟩ rest)
      ((bracket ctx.flags (2 * (rest ++ ')' :: t).length + 2) (rest ++ ')' :: t)).bind
        fun (b, rest) => repeated ctx ⟨.set b.accepts, b.depth, b.room⟩ rest) :=
  (stable_bracket ctx.flags _ _ rest t (Nat.le_refl _)).bind
    (fun _ _ => stable_repeated ctx _ _ t) fun _ => within_repeated ctx _ _

theorem stable_escapePart (ctx : Context) (rest t : List Char) :
    Stable t
      ((escape ctx.flags rest).bind fun (primitive, rest) =>
        repeated ctx (primitive.reading ctx.flags) rest)
      ((escape ctx.flags (rest ++ ')' :: t)).bind fun (primitive, rest) =>
        repeated ctx (primitive.reading ctx.flags) rest) := by
  rcases stable_escape_or_braced ctx.flags rest t with hstable | ⟨look, left, hlong, hleft⟩
  · exact hstable.bind (fun _ _ => stable_repeated ctx _ _ t) fun _ => within_repeated ctx _ _
  · -- the brace behind the boundary would have to be the begin of bounds
    refine .past ?_
    rw [hlong]
    exact (within_repetitions_of_braced hleft _ _).map fun _ => rfl

-- The induction is on the fuel for the longer text: where that gives nothing, there is nothing to
-- show. The shorter text needs three rounds a character, for a choice, a sequence and a part.
mutual

theorem stable_choice : ∀ (fuel' fuel : Nat) (ctx : Context) (cs t : List Char),
    3 * cs.length + 3 ≤ fuel → Stable t (choice fuel ctx cs) (choice fuel' ctx (cs ++ ')' :: t))
  | 0, _, _, _, _, _ => .none
  | fuel' + 1, fuel + 1, ctx, cs, t, hfuel => by
    rw [choice_succ, choice_succ]
    refine (stable_sequence fuel' fuel ctx cs t (by omega)).bind (fun ⟨first, ctx', rest⟩ hr => ?_)
      fun _ => within_choiceAfter (within_choice fuel') _ _ _
    have hrest : rest.length ≤ cs.length :=
      ((within_sequence fuel ctx cs _ hr).trans (ctx.flags.skip_suffix cs)).length_le
    dsimp only [extend]
    by_cases hbar : ∃ left, rest = '|' :: left
    · obtain ⟨left, rfl⟩ := hbar
      rw [List.length_cons] at hrest
      exact (stable_choice fuel' fuel ctx' left t (by omega)).bind (fun _ _ => .same (_, _, _, _))
        fun _ => .some List.suffix_rfl
    · have hother {fuel : Nat} {s : List Char} (hs : ∀ left, s ≠ '|' :: left) :
          choiceAfter fuel first ctx' s = some (first.close, false, ctx', s) := by
        rw [choiceAfter]
        exact hs
      rw [hother (not_exists.1 hbar), hother (append_ne_cons (by decide) (not_exists.1 hbar))]
      exact .same (first.close, false, ctx', rest)

theorem stable_sequence : ∀ (fuel' fuel : Nat) (ctx : Context) (cs t : List Char),
    3 * cs.length + 2 ≤ fuel →
      Stable t (sequence fuel ctx cs) (sequence fuel' ctx (cs ++ ')' :: t))
  | 0, _, _, _, _, _ => .none
  | fuel' + 1, fuel + 1, ctx, cs, t, hfuel => by
    have hlength := ctx.flags.length_skip_le cs
    refine ctx.flags.stable_of_skip (within_sequence _ ctx _) fun hsame => ?_
    cases hskip : ctx.flags.skip cs with
    | nil =>
      -- the parenthesis ends the sequence as the end of the text does
      rw [hskip] at hsame
      rw [sequence_nil fuel hskip, sequence_cons fuel' hsame, if_pos (Or.inr rfl)]
      exact .same (({} : Sequence), ctx, ([] : List Char))
    | cons c rest =>
      rw [hskip, List.length_cons] at hlength
      rw [hskip, List.cons_append] at hsame
      rw [sequence_cons fuel hskip, sequence_cons fuel' hsame]
      split
      · exact .same (({} : Sequence), ctx, c :: rest)
      have hothers (ctx : Context) (first : Reading) (left : List Char) :
          Within left ((sequence fuel' ctx left).bind fun (others, ctx, rest) =>
            some (others.cons first, ctx, rest)) :=
        ((within_sequence fuel' ctx left).mono (ctx.flags.skip_suffix left)).bind
          fun _ => .some List.suffix_rfl
      refine (stable_part fuel' fuel ctx c rest t (by omega)).bind
        (fun ⟨first, ctx', left⟩ hr => ?_) fun _ => hothers _ _ _
      have hleft : left.length ≤ rest.length := (within_part fuel ctx c rest _ hr).length_le
      exact (stable_sequence fuel' fuel ctx' left t (by omega)).bind (fun _ _ => .same (_, _, _))
        fun _ => .some List.suffix_rfl

theorem stable_part : ∀ (fuel' fuel : Nat) (ctx : Context) (c : Char) (rest t : List Char),
    3 * rest.length + 4 ≤ fuel →
      Stable t (part fuel ctx c rest) (part fuel' ctx c (rest ++ ')' :: t))
  | 0, _, _, _, _, _, _ => .none
  | fuel' + 1, fuel + 1, ctx, c, rest, t, hfuel => by
    rw [part_succ, part_succ]
    split
    · refine (stable_opening ctx rest t).bind (fun ⟨o, left⟩ hr => ?_)
        fun _ => within_groupPart (within_choice fuel') ctx _ _
      have hleft : left.length ≤ rest.length :=
        ((within_opening ctx rest _ hr).trans (ctx.flags.skip_suffix rest)).length_le
      cases o with
      | flagsOnly flags => exact .same ((⟨.empty, 0, 0⟩ : Reading), { ctx with flags := flags }, left)
      | group inner =>
        exact (stable_choice fuel' fuel inner left t (by omega)).bind
          (fun _ _ => stable_closeGroup ctx _ _ _ _ t) fun _ => within_closeGroup ctx _ _ _ _
    split
    · exact stable_bracketPart ctx rest t
    split
    · exact stable_escapePart ctx rest t
    · cases simplePart ctx.flags c with
      | none => exact .none
      | some r => exact stable_repeated ctx r rest t

end

end MockProvider.Pattern
