import MockProvider.Pattern.Bracket
import MockProvider.Proofs.Pattern.Escapes

/-!
# Bracketed sets in front of a closing parenthesis

The reader of bracketed sets is stable (`stable_bracket`). Its parts look ahead: whether a hyphen
makes a range is told by the character behind it, which layout may hide. So a member may be read
differently when more text follows, but then no set ends in front of the parenthesis
(`Hyphened`, `within_members_of_hyphened`).
-/

namespace MockProvider.Pattern

variable {f : Flags} {cs t : List Char}

/-! ## ASCII classes -/

theorem asciiClass?_eq_none {name : String} (h : ')' ∈ name.toList) :
    CharSet.asciiClass? name = none := by
  rw [CharSet.asciiClass?]
  all_goals
    rintro rfl
    revert h
    decide

/-- The class whose name begins the text, if a colon and a bracket end it. -/
def asciiNamed (f : Flags) (negated : Bool) (cs : List Char) :
    Option (Option CharSet × List Char) :=
  match cs.dropWhile (· != ':') with
  | _ :: ']' :: after =>
    (CharSet.asciiClass? (String.ofList (cs.takeWhile (· != ':')))).map fun set =>
      (f.negate negated (f.fold set), after)
  | _ => none

theorem within_asciiNamed (f : Flags) (negated : Bool) (cs : List Char) :
    Within cs (asciiNamed f negated cs) := by
  have hdrop : cs.dropWhile (· != ':') <:+ cs := List.dropWhile_suffix _
  rw [asciiNamed]
  split
  · next c after heq =>
    rw [heq] at hdrop
    cases CharSet.asciiClass? (String.ofList (cs.takeWhile (· != ':'))) with
    | none => exact .none
    | some set =>
      exact .some ((List.suffix_cons ']' after).trans ((List.suffix_cons c _).trans hdrop))
  · exact .none

/-- No name of a class has a parenthesis in it, so a class ends before one or not at all. -/
theorem asciiNamed_append (f : Flags) (negated : Bool) (cs t : List Char) :
    asciiNamed f negated (cs ++ ')' :: t) =
      (asciiNamed f negated cs).map (extend (')' :: t)) := by
  by_cases hcolon : ':' ∈ cs
  · obtain ⟨name, after, rfl, hname⟩ := List.eq_append_cons_of_mem hcolon
    have htake := takeWhile_bne_append hname
    have hdrop := dropWhile_bne_append hname
    rw [List.append_assoc, List.cons_append, asciiNamed, asciiNamed, htake, htake, hdrop, hdrop]
    cases after with
    | nil => rfl
    | cons c after =>
      by_cases hclose : c = ']'
      · subst hclose
        cases CharSet.asciiClass? (String.ofList name) <;> rfl
      · simp [hclose]
  · have hall := bne_of_not_mem hcolon
    have hshort : (cs ++ []).dropWhile (· != ':') = [] := List.dropWhile_append_of_pos hall
    rw [List.append_nil] at hshort
    have hparen : ')' ∈ (cs ++ ')' :: t).takeWhile (· != ':') := by
      rw [List.takeWhile_append_of_pos hall, List.takeWhile_cons_of_pos (by decide)]
      simp
    have hnone : CharSet.asciiClass?
        (String.ofList ((cs ++ ')' :: t).takeWhile (· != ':'))) = none :=
      asciiClass?_eq_none (by rwa [String.toList_ofList])
    rw [asciiNamed, asciiNamed, hshort, hnone]
    split <;> rfl

theorem asciiClass_colon (f : Flags) {cs : List Char} (h : ∀ rest, cs ≠ '^' :: rest) :
    asciiClass f (':' :: cs) = asciiNamed f false cs := by
  rw [asciiClass]
  · rfl
  · exact h

theorem asciiClass_eq_none (f : Flags) {cs : List Char} (h : ∀ rest, cs ≠ ':' :: rest) :
    asciiClass f cs = none := by
  rw [asciiClass.eq_def]
  split
  · next rest => exact absurd rfl (h rest)
  · rfl

/-- The text that begins an ASCII class is one of these. -/
theorem asciiClass_cases (f : Flags) (cs : List Char) :
    (∃ negated rest, rest <:+ cs ∧ asciiClass f cs = asciiNamed f negated rest ∧
        ∀ t, asciiClass f (cs ++ ')' :: t) = asciiNamed f negated (rest ++ ')' :: t)) ∨
      ∀ t, asciiClass f cs = none ∧ asciiClass f (cs ++ ')' :: t) = none := by
  cases cs with
  | nil => exact Or.inr fun t => ⟨rfl, rfl⟩
  | cons c cs =>
    by_cases hcolon : c = ':'
    · subst hcolon
      refine Or.inl ?_
      cases cs with
      | nil => exact ⟨false, [], List.nil_suffix, rfl, fun t => asciiClass_colon f (by simp)⟩
      | cons c cs =>
        by_cases hcaret : c = '^'
        · subst hcaret
          exact ⟨true, cs, (List.suffix_cons _ cs).trans (List.suffix_cons _ _), rfl, fun t => rfl⟩
        · exact ⟨false, c :: cs, List.suffix_cons _ _, asciiClass_colon f (by simp [hcaret]),
            fun t => asciiClass_colon f (by simp [hcaret])⟩
    · exact Or.inr fun t => ⟨asciiClass_eq_none f (by simp [hcolon]),
        asciiClass_eq_none f (by simp [hcolon])⟩

theorem within_asciiClass (f : Flags) (cs : List Char) : Within cs (asciiClass f cs) := by
  rcases asciiClass_cases f cs with ⟨negated, rest, hrest, heq, -⟩ | hnone
  · rw [heq]
    exact (within_asciiNamed f negated rest).mono hrest
  · rw [(hnone []).1]
    exact .none

theorem asciiClass_append (f : Flags) (cs t : List Char) :
    asciiClass f (cs ++ ')' :: t) = (asciiClass f cs).map (extend (')' :: t)) := by
  rcases asciiClass_cases f cs with ⟨negated, rest, -, heq, hlong⟩ | hnone
  · rw [heq, hlong, asciiNamed_append]
  · rw [(hnone t).1, (hnone t).2]
    rfl

/-! ## Members -/

/-- A member reads one character at least. -/
theorem within_memberPrimitive_cons (f : Flags) (c : Char) (rest : List Char) :
    Within rest (memberPrimitive f (c :: rest)) := by
  rw [memberPrimitive]
  split
  · cases rest with
    | nil => exact .none
    | cons c rest => exact (within_escape f c rest).mono (List.suffix_cons c rest)
  · exact .some List.suffix_rfl

theorem within_memberPrimitive (f : Flags) (cs : List Char) : Within cs (memberPrimitive f cs) := by
  cases cs with
  | nil => exact .none
  | cons c rest => exact (within_memberPrimitive_cons f c rest).mono (List.suffix_cons c rest)

theorem stable_memberPrimitive_or_braced (f : Flags) (cs t : List Char) :
    Stable t (memberPrimitive f cs) (memberPrimitive f (cs ++ ')' :: t)) ∨
      Braced f t (memberPrimitive f (cs ++ ')' :: t)) := by
  cases cs with
  | nil => exact Or.inl (.past (within_memberPrimitive_cons f ')' t))
  | cons c rest =>
    rw [List.cons_append, memberPrimitive, memberPrimitive]
    split
    · exact stable_escape_or_braced f rest t
    · exact Or.inl (.same (Primitive.literal c, rest))

/-- Whether a range begins with what has been read. -/
def isRangeAt (f : Flags) (rest : List Char) : Bool :=
  match f.skip rest with
  | '-' :: after => afterHyphen f after != some ']' && afterHyphen f after != some '-'
  | _ => false

/-- The members with a range added, of which the first end has been read. -/
def rangeMember (f : Flags) (m : Members) (first : Primitive) (rest : List Char) :
    Option (Members × List Char) :=
  (memberPrimitive f (f.skip ((f.skip rest).drop 1))).bind fun (second, rest) =>
    match first, second with
    | .literal low, .literal high =>
      if low ≤ high ∧ f.admits low ∧ f.admits high then
        some (m.add (CharSet.range low high) 0 (if high.toNat < 0x80 then 8 else 200), rest)
      else none
    | _, _ => none

/-- The members with what has been read added by itself. -/
def singleMember (f : Flags) (m : Members) (first : Primitive) (rest : List Char) :
    Option (Members × List Char) :=
  match first with
  | .literal c =>
    if f.admits c then some (m.add (CharSet.single c) 0 (8 * c.utf8Size), rest) else none
  | .set accepts room => some (m.add accepts 0 room, rest)
  | .look _ => none

/-- The members with one more, whose first character or escape has been read. -/
def memberFrom (f : Flags) (m : Members) (first : Primitive) (rest : List Char) :
    Option (Members × List Char) :=
  if isRangeAt f rest then rangeMember f m first rest else singleMember f m first rest

theorem member_eq (f : Flags) (m : Members) (cs : List Char) :
    member f m cs =
      (memberPrimitive f cs).bind fun (first, rest) => memberFrom f m first rest := rfl

variable {m : Members} {first : Primitive}

theorem rangeMember_look (f : Flags) (m : Members) (look : Look) (rest : List Char) :
    rangeMember f m (.look look) rest = none := by
  rw [rangeMember]
  cases memberPrimitive f (f.skip ((f.skip rest).drop 1)) <;> rfl

theorem within_range (f : Flags) (m : Members) (first second : Primitive) (rest : List Char) :
    Within rest (match first, second with
      | .literal low, .literal high =>
        if low ≤ high ∧ f.admits low ∧ f.admits high then
          some (m.add (CharSet.range low high) 0 (if high.toNat < 0x80 then 8 else 200), rest)
        else none
      | _, _ => none) := by
  split
  · split
    · exact .some List.suffix_rfl
    · exact .none
  · exact .none

theorem within_rangeMember (f : Flags) (m : Members) (first : Primitive) (rest : List Char) :
    Within (f.skip ((f.skip rest).drop 1)) (rangeMember f m first rest) :=
  (within_memberPrimitive f _).bind fun _ => within_range f m first _ _

theorem rest_of_singleMember {rest : List Char} {r : Members × List Char}
    (h : r ∈ singleMember f m first rest) : r.2 = rest := by
  cases first with
  | literal c =>
    rw [singleMember] at h
    split at h
    · cases h
      rfl
    · cases h
  | set accepts room =>
    cases h
    rfl
  | look assertion => cases h

theorem within_singleMember (f : Flags) (m : Members) (first : Primitive) (rest : List Char) :
    Within rest (singleMember f m first rest) := fun _ hr =>
  rest_of_singleMember hr ▸ List.suffix_rfl

theorem singleMember_append (f : Flags) (m : Members) (first : Primitive) (rest t : List Char) :
    singleMember f m first (rest ++ ')' :: t) =
      (singleMember f m first rest).map (extend (')' :: t)) := by
  cases first with
  | literal c =>
    rw [singleMember, singleMember]
    split <;> rfl
  | set accepts room => rfl
  | look assertion => rfl

theorem drop_skip_suffix (f : Flags) (rest : List Char) :
    f.skip ((f.skip rest).drop 1) <:+ f.skip rest :=
  (f.skip_suffix _).trans (List.drop_suffix 1 _)

theorem within_memberFrom (f : Flags) (m : Members) (first : Primitive) (rest : List Char) :
    Within rest (memberFrom f m first rest) := by
  rw [memberFrom]
  split
  · exact (within_rangeMember f m first rest).mono
      ((drop_skip_suffix f rest).trans (f.skip_suffix rest))
  · exact within_singleMember f m first rest

theorem memberFrom_look (f : Flags) (m : Members) (look : Look) (rest : List Char) :
    memberFrom f m (.look look) rest = none := by
  rw [memberFrom, rangeMember_look]
  split <;> rfl

/-- A member reads one character at least. -/
theorem within_member_cons (f : Flags) (m : Members) (c : Char) (rest : List Char) :
    Within rest (member f m (c :: rest)) := by
  rw [member_eq]
  exact (within_memberPrimitive_cons f c rest).bind fun _ => within_memberFrom f m _ _

theorem stable_singleMember (f : Flags) (m : Members) (first : Primitive) (rest t : List Char) :
    Stable t (singleMember f m first rest) (singleMember f m first (rest ++ ')' :: t)) := by
  rw [singleMember_append]
  cases singleMember f m first rest with
  | none => exact .none
  | some r => exact .same r

theorem stable_rangeMember (m : Members) (first : Primitive) {rest after : List Char}
    (hskip : f.skip rest = '-' :: after)
    (hskip' : f.skip (rest ++ ')' :: t) = '-' :: (after ++ ')' :: t))
    (hafter : f.skip (after ++ ')' :: t) = f.skip after ++ ')' :: t) :
    Stable t (rangeMember f m first rest) (rangeMember f m first (rest ++ ')' :: t)) := by
  rw [rangeMember, rangeMember, hskip, hskip', List.drop_one, List.drop_one, List.tail_cons,
    List.tail_cons, hafter]
  rcases stable_memberPrimitive_or_braced f (f.skip after) t with hstable | ⟨look, left, heq, -⟩
  · refine hstable.bind (fun ⟨second, left⟩ _ => ?_) fun _ => within_range f m first _ _
    dsimp only [extend]
    split
    · split
      · exact .same (m.add _ 0 _, left)
      · exact .none
    · exact .none
  · rw [heq]
    cases first <;> exact .none

/-- A hyphen is left over that makes no range, and behind it the text goes on beyond the
    parenthesis. -/
def Hyphened (f : Flags) (t rest : List Char) : Prop :=
  ∃ after, f.skip rest = '-' :: after ∧ f.skip after <:+ t

/-- Where a range begins is the same with a parenthesis behind the text, or it is told by what stands
    behind the parenthesis; a hyphen in front of the parenthesis makes a range. -/
theorem isRangeAt_append (f : Flags) (rest t : List Char) :
    isRangeAt f (rest ++ ')' :: t) = isRangeAt f rest ∧
        (isRangeAt f rest = true → ∃ after, f.skip rest = '-' :: after ∧
          f.skip (rest ++ ')' :: t) = '-' :: (after ++ ')' :: t) ∧
          f.skip (after ++ ')' :: t) = f.skip after ++ ')' :: t) ∨
      isRangeAt f (rest ++ ')' :: t) = true ∧
        f.skip ((f.skip (rest ++ ')' :: t)).drop 1) <:+ t ∨
      isRangeAt f (rest ++ ')' :: t) = false ∧
        (isRangeAt f rest = false ∨ Hyphened f t (rest ++ ')' :: t)) := by
  rcases f.skip_append rest t with hsame | ⟨hnil, hpast⟩
  · by_cases hhyphen : ∃ after, f.skip rest = '-' :: after
    · obtain ⟨after, hskip⟩ := hhyphen
      have hskip' : f.skip (rest ++ ')' :: t) = '-' :: (after ++ ')' :: t) := by
        rw [hsame, hskip, List.cons_append]
      rcases f.skip_append after t with hafter | ⟨-, hafter⟩
      · refine Or.inl ⟨?_, fun _ => ⟨after, hskip, hskip', hafter⟩⟩
        simp only [isRangeAt, hskip, hskip', afterHyphen, hafter]
        cases f.skip after <;> rfl
      · cases hrange : isRangeAt f (rest ++ ')' :: t) with
        | true =>
          refine Or.inr (Or.inl ⟨rfl, ?_⟩)
          rwa [hskip', List.drop_one, List.tail_cons]
        | false => exact Or.inr (Or.inr ⟨rfl, Or.inr ⟨_, hskip', hafter⟩⟩)
    · have hplain {s : List Char} (hs : ∀ after, f.skip s ≠ '-' :: after) : isRangeAt f s = false := by
        rw [isRangeAt]
        split
        · next after heq => exact absurd heq (hs after)
        · rfl
      have hlong (after : List Char) : f.skip (rest ++ ')' :: t) ≠ '-' :: after := by
        rw [hsame]
        exact append_ne_cons (by decide) (not_exists.1 hhyphen) after
      exact Or.inr (Or.inr ⟨hplain hlong, Or.inl (hplain (not_exists.1 hhyphen))⟩)
  · cases hrange : isRangeAt f (rest ++ ')' :: t) with
    | true => exact Or.inr (Or.inl ⟨rfl, (drop_skip_suffix f _).trans hpast⟩)
    | false => exact Or.inr (Or.inr ⟨rfl, Or.inl (by rw [isRangeAt, hnil])⟩)

/-- What follows the first character or escape of a member is read in the same way, unless layout
    hides whether a hyphen makes a range. -/
theorem stable_memberFrom_or_hyphened (f : Flags) (m : Members) (first : Primitive)
    (rest t : List Char) :
    Stable t (memberFrom f m first rest) (memberFrom f m first (rest ++ ')' :: t)) ∨
      ∀ r ∈ memberFrom f m first (rest ++ ')' :: t), Hyphened f t r.2 := by
  rw [memberFrom, memberFrom]
  rcases isRangeAt_append f rest t with ⟨hsame, hrange⟩ | ⟨hlong, hpast⟩ | ⟨hlong, hshort | hhyphen⟩
  · rw [hsame]
    refine Or.inl ?_
    split
    · next hrange' =>
      obtain ⟨after, hskip, hskip', hafter⟩ := hrange hrange'
      exact stable_rangeMember m first hskip hskip' hafter
    · exact stable_singleMember f m first rest t
  · rw [hlong]
    exact Or.inl (.past ((within_rangeMember f m first _).mono hpast))
  · rw [hlong, hshort]
    exact Or.inl (stable_singleMember f m first rest t)
  · rw [hlong]
    refine Or.inr fun r hr => ?_
    rw [if_neg Bool.false_ne_true] at hr
    exact rest_of_singleMember hr ▸ hhyphen

theorem stable_member_or_hyphened (f : Flags) (m : Members) (cs t : List Char) :
    Stable t (member f m cs) (member f m (cs ++ ')' :: t)) ∨
      ∀ r ∈ member f m (cs ++ ')' :: t), Hyphened f t r.2 := by
  rw [member_eq, member_eq]
  rcases stable_memberPrimitive_or_braced f cs t with
    (⟨⟨first, rest⟩, hshort, hlong⟩ | hpast) | ⟨look, rest, hlong, -⟩
  · rw [hshort, hlong]
    exact stable_memberFrom_or_hyphened f m first rest t
  · exact Or.inl (.past (hpast.bind fun _ => within_memberFrom f m _ _))
  · refine Or.inl (.past ?_)
    rw [hlong, Option.bind_some]
    dsimp only
    rw [memberFrom_look]
    exact .none

/-! ## The begin of a list -/

theorem within_negationSign (f : Flags) (cs : List Char) : Within cs (some (negationSign f cs)) := by
  rw [negationSign.eq_def]
  split
  · next rest => exact .some ((f.skip_suffix rest).trans (List.suffix_cons _ rest))
  · exact .some List.suffix_rfl

theorem stable_negationSign (f : Flags) (cs t : List Char) :
    Stable t (some (negationSign f cs)) (some (negationSign f (cs ++ ')' :: t))) := by
  by_cases hcaret : ∃ rest, cs = '^' :: rest
  · obtain ⟨rest, rfl⟩ := hcaret
    exact (f.stable_skip rest t).map (fun _ => rfl) fun _ => rfl
  · have hplain {s : List Char} (hs : ∀ rest, s ≠ '^' :: rest) : negationSign f s = (false, s) := by
      rw [negationSign.eq_def]
      split
      · next rest => exact absurd rfl (hs rest)
      · rfl
    rw [hplain (not_exists.1 hcaret), hplain (append_ne_cons (by decide) (not_exists.1 hcaret))]
    exact .same (false, cs)

theorem leadingHyphens_hyphen (f : Flags) (m : Members) (fuel : Nat) (rest : List Char) :
    leadingHyphens f m (fuel + 1) ('-' :: rest) =
      leadingHyphens f (m.add (CharSet.single '-') 0 8) fuel (f.skip rest) := rfl

theorem leadingHyphens_other (f : Flags) (m : Members) (fuel : Nat) {cs : List Char}
    (h : ∀ rest, cs ≠ '-' :: rest) : leadingHyphens f m fuel cs = (m, cs) := by
  cases fuel with
  | zero => rfl
  | succ fuel =>
    rw [leadingHyphens.eq_def]
    split
    · rfl
    · next heq =>
      cases heq
      split
      · next rest => exact absurd rfl (h rest)
      · rfl

theorem within_leadingHyphens (f : Flags) (m : Members) (fuel : Nat) (cs : List Char) :
    Within cs (some (leadingHyphens f m fuel cs)) := by
  induction fuel generalizing m cs with
  | zero => exact .some List.suffix_rfl
  | succ fuel ih =>
    by_cases hhyphen : ∃ rest, cs = '-' :: rest
    · obtain ⟨rest, rfl⟩ := hhyphen
      exact (ih _ _).mono ((f.skip_suffix rest).trans (List.suffix_cons _ rest))
    · rw [leadingHyphens_other f m _ (not_exists.1 hhyphen)]
      exact .some List.suffix_rfl

theorem stable_leadingHyphens (f : Flags) (m : Members) {fuel fuel' : Nat} {cs : List Char}
    (hfuel : cs.length ≤ fuel) (hfuel' : (cs ++ ')' :: t).length ≤ fuel') :
    Stable t (some (leadingHyphens f m fuel cs))
      (some (leadingHyphens f m fuel' (cs ++ ')' :: t))) := by
  induction fuel generalizing m cs fuel' with
  | zero =>
    obtain rfl := List.length_eq_zero_iff.1 (Nat.le_zero.1 hfuel)
    rw [leadingHyphens_other f m fuel' (by simp)]
    exact .same (m, [])
  | succ fuel ih =>
    by_cases hhyphen : ∃ rest, cs = '-' :: rest
    · obtain ⟨rest, rfl⟩ := hhyphen
      obtain ⟨fuel', rfl⟩ := Nat.exists_eq_succ_of_ne_zero
        (Nat.ne_of_gt (Nat.lt_of_lt_of_le (by simp) hfuel'))
      have hskip := f.length_skip_le rest
      rw [List.cons_append, leadingHyphens_hyphen, leadingHyphens_hyphen]
      refine f.stable_of_skip (within_leadingHyphens f _ _ _) fun hsame => ?_
      rw [hsame]
      simp only [List.length_append, List.length_cons] at hfuel hfuel'
      refine ih _ (by omega) ?_
      simp only [List.length_append, List.length_cons]
      omega
    · rw [leadingHyphens_other f m _ (not_exists.1 hhyphen),
        leadingHyphens_other f m _ (append_ne_cons (by decide) (not_exists.1 hhyphen))]
      exact .same (m, cs)

/-- The members after hyphens, with a closing bracket that stands for itself. -/
def leadingBracket (f : Flags) (m : Members) (cs : List Char) : Members × List Char :=
  match cs with
  | ']' :: rest =>
    if m.count = 0 then (m.add (CharSet.single ']') 0 8, f.skip rest) else (m, ']' :: rest)
  | rest => (m, rest)

theorem leadingBracket_other (f : Flags) (m : Members) {cs : List Char}
    (h : ∀ rest, cs ≠ ']' :: rest) : leadingBracket f m cs = (m, cs) := by
  rw [leadingBracket.eq_def]
  split
  · next rest => exact absurd rfl (h rest)
  · rfl

theorem leadingMembers_eq (f : Flags) (cs : List Char) :
    some (leadingMembers f cs) = (some (leadingHyphens f {} cs.length cs)).bind fun (m, rest) =>
      some (leadingBracket f m rest) := by
  rw [leadingMembers]
  generalize leadingHyphens f {} cs.length cs = read
  obtain ⟨m, rest⟩ := read
  by_cases hbracket : ∃ left, rest = ']' :: left
  · obtain ⟨left, rfl⟩ := hbracket
    rfl
  · rw [Option.bind_some]
    dsimp only
    rw [leadingBracket_other f m (not_exists.1 hbracket)]
    split
    · next left heq => exact absurd ⟨_, (Prod.mk.inj heq).2⟩ hbracket
    · next heq =>
      cases heq
      rfl

theorem within_leadingBracket (f : Flags) (m : Members) (cs : List Char) :
    Within cs (some (leadingBracket f m cs)) := by
  rw [leadingBracket.eq_def]
  split
  · next rest =>
    split
    · exact .some ((f.skip_suffix rest).trans (List.suffix_cons _ rest))
    · exact .some List.suffix_rfl
  · exact .some List.suffix_rfl

theorem stable_leadingBracket (f : Flags) (m : Members) (cs t : List Char) :
    Stable t (some (leadingBracket f m cs)) (some (leadingBracket f m (cs ++ ')' :: t))) := by
  by_cases hbracket : ∃ rest, cs = ']' :: rest
  · obtain ⟨rest, rfl⟩ := hbracket
    rw [List.cons_append, leadingBracket, leadingBracket]
    split
    · exact (f.stable_skip rest t).map (fun _ => rfl) fun _ => rfl
    · exact .same (m, ']' :: rest)
  · rw [leadingBracket_other f m (not_exists.1 hbracket),
      leadingBracket_other f m (append_ne_cons (by decide) (not_exists.1 hbracket))]
    exact .same (m, cs)

theorem within_leadingMembers (f : Flags) (cs : List Char) :
    Within cs (some (leadingMembers f cs)) := by
  rw [leadingMembers_eq]
  exact (within_leadingHyphens f {} _ cs).bind fun _ => within_leadingBracket f _ _

theorem stable_leadingMembers (f : Flags) (cs t : List Char) :
    Stable t (some (leadingMembers f cs)) (some (leadingMembers f (cs ++ ')' :: t))) := by
  rw [leadingMembers_eq, leadingMembers_eq]
  exact (stable_leadingHyphens f {} (Nat.le_refl _) (Nat.le_refl _)).bind
    (fun ⟨m, rest⟩ _ => stable_leadingBracket f m rest t) fun _ => within_leadingBracket f _ _

/-! ## Sets -/

theorem bracket_succ (f : Flags) (fuel : Nat) (cs : List Char) :
    bracket f (fuel + 1) cs =
      (some (negationSign f (f.skip cs))).bind fun (negated, rest) =>
        (some (leadingMembers f rest)).bind fun (m, rest) =>
          (members f fuel none m rest).bind fun (inside, rest) =>
            (f.negate negated (f.fold inside.accepts)).bind fun accepts =>
              some (⟨accepts, inside.depth + 1, inside.room + (if negated then 400 else 40)⟩,
                rest) := by
  rw [bracket]
  rfl

/-- The sign of an operator between lists of members, with the text behind it. -/
def operatorSign? : Char → List Char → Option (Operator × List Char)
  | '&', '&' :: rest => some (.inter, rest)
  | '-', '-' :: rest => some (.diff, rest)
  | '~', '~' :: rest => some (.symDiff, rest)
  | _, _ => none

theorem members_nil (left : Left) (m : Members) (fuel : Nat) (hskip : f.skip cs = []) :
    members f (fuel + 1) left m cs = none := by
  rw [members, hskip]

theorem members_cons (left : Left) (m : Members) (fuel : Nat) {c : Char} {rest : List Char}
    (hskip : f.skip cs = c :: rest) :
    members f (fuel + 1) left m cs =
      if c = '[' then
        match asciiClass f rest with
        | some (none, _) => none
        | some (some accepts, rest) => members f fuel left (m.add accepts 0 40) rest
        | none =>
          (bracket f fuel rest).bind fun (b, rest) =>
            members f fuel left (m.add b.accepts b.depth b.room) rest
      else if c = ']' then some (m.combine f left, rest)
      else
        match operatorSign? c rest with
        | some (operator, rest) => members f fuel (some (m.combine f left, operator)) {} rest
        | none => (member f m (c :: rest)).bind fun (m, rest) => members f fuel left m rest := by
  rw [members, hskip]
  split
  · next heq => cases heq
  · next heq =>
    cases heq
    rfl
  · next heq =>
    cases heq
    rfl
  · next heq =>
    cases heq
    rfl
  · next heq =>
    cases heq
    rfl
  · next heq =>
    cases heq
    rfl
  · next c rest hopen hclose hand hhyphen htilde heq =>
    cases heq
    have hnone : operatorSign? c rest = none := by
      rw [operatorSign?]
      · exact hand
      · exact hhyphen
      · exact htilde
    rw [if_neg hopen, if_neg hclose, hnone]
    rfl

theorem within_operatorSign? (c : Char) (rest : List Char) : Within rest (operatorSign? c rest) := by
  rw [operatorSign?.eq_def]
  split
  · next rest => exact .some (List.suffix_cons _ rest)
  · next rest => exact .some (List.suffix_cons _ rest)
  · next rest => exact .some (List.suffix_cons _ rest)
  · exact .none

theorem operatorSign?_append (c : Char) (rest t : List Char) :
    operatorSign? c (rest ++ ')' :: t) = (operatorSign? c rest).map (extend (')' :: t)) := by
  have hparen (other : Char) (hother : other ≠ ')') (hno : ∀ after, rest ≠ other :: after)
      (after : List Char) : rest ++ ')' :: t ≠ other :: after := append_ne_cons hother hno after
  rw [operatorSign?.eq_def c rest]
  split
  · rfl
  · rfl
  · rfl
  · next hand hhyphen htilde =>
    rw [operatorSign?]
    · rfl
    · exact fun after hc => hparen '&' (by decide) (fun after => hand after hc) after
    · exact fun after hc => hparen '-' (by decide) (fun after => hhyphen after hc) after
    · exact fun after hc => hparen '~' (by decide) (fun after => htilde after hc) after

theorem within_negate (f : Flags) (negated : Bool) (inside : Bracket) (rest : List Char) :
    Within rest ((f.negate negated (f.fold inside.accepts)).bind fun accepts =>
      some ((⟨accepts, inside.depth + 1, inside.room + (if negated then 400 else 40)⟩ : Bracket),
        rest)) := by
  cases f.negate negated (f.fold inside.accepts) with
  | none => exact .none
  | some accepts => exact .some List.suffix_rfl

mutual

theorem within_bracket (f : Flags) : ∀ (fuel : Nat) (cs : List Char),
    Within (f.skip cs) (bracket f fuel cs)
  | 0, _ => .none
  | fuel + 1, cs => by
    rw [bracket_succ]
    refine (within_negationSign f _).bind fun ⟨negated, rest⟩ => ?_
    refine (within_leadingMembers f rest).bind fun ⟨m, rest⟩ => ?_
    exact ((within_members f fuel none m rest).mono (f.skip_suffix rest)).bind fun _ =>
      within_negate f negated _ _

theorem within_members (f : Flags) : ∀ (fuel : Nat) (left : Left) (m : Members) (cs : List Char),
    Within (f.skip cs) (members f fuel left m cs)
  | 0, _, _, _ => .none
  | fuel + 1, left, m, cs => by
    have hmembers (left : Left) (m : Members) (cs : List Char) :
        Within cs (members f fuel left m cs) :=
      (within_members f fuel left m cs).mono (f.skip_suffix cs)
    cases hskip : f.skip cs with
    | nil =>
      rw [members_nil left m fuel hskip]
      exact .none
    | cons c rest =>
      have hrest := List.suffix_cons c rest
      rw [members_cons left m fuel hskip]
      split
      · have hclass := within_asciiClass f rest
        split
        · exact .none
        · next accepts after heq =>
          exact (hmembers _ _ after).mono ((hclass _ heq).trans hrest)
        · exact (((within_bracket f fuel rest).mono (f.skip_suffix rest)).mono hrest).bind
            fun _ => hmembers _ _ _
      split
      · exact .some hrest
      have hoperator := within_operatorSign? c rest
      split
      · next operator after heq =>
        exact (hmembers _ _ after).mono ((hoperator _ heq).trans hrest)
      · exact ((within_member_cons f m c rest).mono hrest).bind fun _ => hmembers _ _ _

end

/-- A hyphen by itself, with layout behind it that goes beyond the parenthesis, is a member or begins
    a range, and all that is read then stands beyond the parenthesis. -/
theorem skip_suffix_of_member_hyphen {after : List Char} (hafter : f.skip after <:+ t) (m : Members)
    {r : Members × List Char} (hr : r ∈ member f m ('-' :: after)) : f.skip r.2 <:+ t := by
  have hfirst : memberPrimitive f ('-' :: after) = some (.literal '-', after) := rfl
  rw [member_eq, hfirst, Option.bind_some] at hr
  dsimp only at hr
  rw [memberFrom] at hr
  split at hr
  · have hrange := within_rangeMember f m (.literal '-') after r hr
    exact ((f.skip_suffix _).trans hrange).trans ((drop_skip_suffix f after).trans hafter)
  · exact rest_of_singleMember hr ▸ hafter

/-- No set ends in front of the parenthesis once a hyphen has met layout that goes beyond it. -/
theorem within_members_of_hyphened {rest : List Char} (h : Hyphened f t rest) (fuel : Nat)
    (left : Left) (m : Members) : Within t (members f fuel left m rest) := by
  obtain ⟨after, hskip, hafter⟩ := h
  cases fuel with
  | zero => exact .none
  | succ fuel =>
    have hhyphen : ¬ '-' = '[' ∧ ¬ '-' = ']' := by decide
    rw [members_cons left m fuel hskip, if_neg hhyphen.1, if_neg hhyphen.2]
    by_cases hoperator : ∃ rest, after = '-' :: rest
    · obtain ⟨rest, rfl⟩ := hoperator
      rw [f.skip_cons rfl (by decide)] at hafter
      exact (within_members f fuel _ _ rest).mono
        ((f.skip_suffix rest).trans ((List.suffix_cons _ rest).trans hafter))
    · have hnone : operatorSign? '-' after = none := by
        rw [operatorSign?]
        · exact fun _ hc => absurd hc (by decide)
        · exact fun rest _ => not_exists.1 hoperator rest
        · exact fun _ hc => absurd hc (by decide)
      rw [hnone]
      intro s hs
      obtain ⟨r, hr, hs⟩ := Option.bind_eq_some_iff.1 hs
      exact (within_members f fuel left r.1 r.2 s hs).trans
        (skip_suffix_of_member_hyphen hafter m hr)

-- As the induction is on the fuel for the longer text, a set and its members need two rounds a
-- character of the shorter one.
mutual

theorem stable_bracket (f : Flags) : ∀ (fuel' fuel : Nat) (cs t : List Char),
    2 * cs.length + 2 ≤ fuel → Stable t (bracket f fuel cs) (bracket f fuel' (cs ++ ')' :: t))
  | 0, _, _, _, _ => .none
  | fuel' + 1, fuel + 1, cs, t, hfuel => by
    have hmembers (fuel : Nat) (left : Left) (m : Members) (cs : List Char) :
        Within cs (members f fuel left m cs) :=
      (within_members f fuel left m cs).mono (f.skip_suffix cs)
    have hclosed (fuel : Nat) (negated : Bool) (m : Members) (rest : List Char) :=
      (hmembers fuel none m rest).bind fun r => within_negate f negated r.1 r.2
    have hopened (fuel : Nat) (negated : Bool) (rest : List Char) :=
      (within_leadingMembers f rest).bind fun r => hclosed fuel negated r.1 r.2
    have hlength := f.length_skip_le cs
    rw [bracket_succ, bracket_succ]
    refine Stable.bind ?_ (fun ⟨negated, rest⟩ hr => ?_) fun r => hopened fuel' r.1 r.2
    · refine f.stable_of_skip (within_negationSign f _) fun hsame => ?_
      rw [hsame]
      exact stable_negationSign f (f.skip cs) t
    have hrest : rest.length ≤ (f.skip cs).length := (within_negationSign f _ _ hr).length_le
    refine (stable_leadingMembers f rest t).bind (fun ⟨m, left⟩ hr => ?_)
      fun r => hclosed fuel' negated r.1 r.2
    have hleft : left.length ≤ rest.length := (within_leadingMembers f rest _ hr).length_le
    refine (stable_members f fuel' fuel none m left t (by omega)).bind (fun ⟨inside, left⟩ _ => ?_)
      fun r => within_negate f negated r.1 r.2
    dsimp only [extend]
    cases f.negate negated (f.fold inside.accepts) with
    | none => exact .none
    | some accepts => exact .same ((⟨accepts, _, _⟩ : Bracket), left)

theorem stable_members (f : Flags) : ∀ (fuel' fuel : Nat) (left : Left) (m : Members)
    (cs t : List Char), 2 * cs.length + 1 ≤ fuel →
      Stable t (members f fuel left m cs) (members f fuel' left m (cs ++ ')' :: t))
  | 0, _, _, _, _, _, _ => .none
  | fuel' + 1, fuel + 1, left, m, cs, t, hfuel => by
    have hmembers (left : Left) (m : Members) (cs : List Char) :
        Within cs (members f fuel' left m cs) :=
      (within_members f fuel' left m cs).mono (f.skip_suffix cs)
    have hlength := f.length_skip_le cs
    refine f.stable_of_skip (within_members f _ left m _) fun hsame => ?_
    cases hskip : f.skip cs with
    | nil =>
      -- what the parenthesis is read as goes on beyond it
      rw [hskip] at hsame
      have hparen : ¬ ')' = '[' ∧ ¬ ')' = ']' := by decide
      rw [members_cons left m fuel' hsame, if_neg hparen.1, if_neg hparen.2]
      exact .past ((within_member_cons f m ')' t).bind fun _ => hmembers _ _ _)
    | cons c rest =>
      rw [hskip, List.length_cons] at hlength
      rw [hskip, List.cons_append] at hsame
      rw [members_cons left m fuel hskip, members_cons left m fuel' hsame]
      split
      · have hclass := within_asciiClass f rest
        rw [asciiClass_append]
        cases hread : asciiClass f rest with
        | none =>
          refine (stable_bracket f fuel' fuel rest t (by omega)).bind (fun ⟨b, after⟩ hb => ?_)
            fun _ => hmembers _ _ _
          have hafter : after.length ≤ rest.length :=
            ((within_bracket f fuel rest _ hb).trans (f.skip_suffix rest)).length_le
          exact stable_members f fuel' fuel left _ after t (by omega)
        | some read =>
          obtain ⟨set, after⟩ := read
          have hafter : after.length ≤ rest.length := (hclass _ hread).length_le
          cases set with
          | none => exact .none
          | some accepts => exact stable_members f fuel' fuel left _ after t (by omega)
      split
      · exact .same (m.combine f left, rest)
      rw [operatorSign?_append]
      cases hread : operatorSign? c rest with
      | none =>
        rcases stable_member_or_hyphened f m (c :: rest) t with
          (⟨⟨m', after⟩, hshort, hlong⟩ | hpast) | hhyphened
        · have hafter : after.length ≤ rest.length :=
            (within_member_cons f m c rest _ hshort).length_le
          rw [hshort, ← List.cons_append, hlong]
          exact stable_members f fuel' fuel left m' after t (by omega)
        · exact .past (hpast.bind fun _ => hmembers _ _ _)
        · -- the member may be another one, but then no set ends in front of the parenthesis
          refine .past fun s hs => ?_
          obtain ⟨r, hr, hs⟩ := Option.bind_eq_some_iff.1 hs
          exact within_members_of_hyphened (hhyphened r hr) fuel' left r.1 s hs
      | some read =>
        obtain ⟨operator, after⟩ := read
        have hafter : after.length ≤ rest.length := (within_operatorSign? c rest _ hread).length_le
        exact stable_members f fuel' fuel _ {} after t (by omega)

end

end MockProvider.Pattern
