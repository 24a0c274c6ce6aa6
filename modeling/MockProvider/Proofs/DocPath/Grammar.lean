import Mathlib.Data.List.Forall2
import Mathlib.Data.List.TakeWhile
import MockProvider.DocPath.Parser
import MockProvider.Proofs.Json.Reading

/-!
# The grammar of path expressions

An expression is the root sign, followed by a spelling of each step. A field has up to two
spellings, and an index any number of them, for zeros in front do not count. The reader accepts
exactly the expressions, and gives the steps that they spell: `parse_decides_spelling`. It takes the
longest name and the longest row of digits. There is no other way to cut the text, since every
spelling begins with a point or an opening bracket, and a name after a point ends there.
-/

namespace MockProvider.DocPath

/-! ## Spellings -/

/-- The ways to spell a step. -/
inductive Step.Spelling : Step → List Char → Prop where
  | anyChild : Step.Spelling .anyChild ['.', '*']
  | anyIndex : Step.Spelling .anyIndex ['[', '*', ']']
  | index {digits : List Char} (nonempty : digits ≠ [])
      (digit : ∀ c ∈ digits, c.isDigit = true)
      (fits : Nat.ofDigitChars 10 digits 0 < indexBound) :
      Step.Spelling (.index (Nat.ofDigitChars 10 digits 0)) ('[' :: (digits ++ [']']))
  | quoted {name : String} (unquoted : '\'' ∉ name.toList) :
      Step.Spelling (.field name) ('[' :: '\'' :: (name.toList ++ ['\'', ']']))
  | plain {name : String} (nonempty : name.toList ≠ []) (point : '.' ∉ name.toList)
      (bracket : '[' ∉ name.toList) (star : name.toList.head? ≠ some '*') :
      Step.Spelling (.field name) ('.' :: name.toList)

/-- A text that spells a path: the root sign, and a spelling of each step. -/
def Spelling (p : DocPath) (text : String) : Prop :=
  ∃ spellings, List.Forall₂ Step.Spelling p.steps spellings ∧
    text.toList = '$' :: spellings.flatten

/-- What can stand after a step: nothing, or the next step. -/
def StartsStep : List Char → Prop
  | [] => True
  | c :: _ => c = '.' ∨ c = '['

theorem Step.Spelling.startsStep {s : Step} {front : List Char} (h : s.Spelling front)
    (rest : List Char) : StartsStep (front ++ rest) := by
  cases h with
  | anyChild => exact Or.inl rfl
  | anyIndex => exact Or.inr rfl
  | index => exact Or.inr rfl
  | quoted => exact Or.inr rfl
  | plain => exact Or.inl rfl

theorem startsStep_flatten {steps : List Step} {spellings : List (List Char)}
    (h : List.Forall₂ Step.Spelling steps spellings) : StartsStep spellings.flatten := by
  cases h with
  | nil => trivial
  | cons hfirst _ => exact hfirst.startsStep _

theorem digitsValue_eq (digits : List Char) :
    digitsValue digits = Nat.ofDigitChars 10 digits 0 := by
  simp only [digitsValue, Nat.ofDigitChars_eq_foldl, Nat.mul_comm]

theorem isNameChar_iff {c : Char} : isNameChar c = true ↔ c ≠ '.' ∧ c ≠ '[' := by
  simp [isNameChar]

/-! ## Every spelling is read -/

section

variable {p : Char → Bool} {row rest : List Char}

/-- A row of characters is taken as a whole when what comes after it does not belong to it. -/
theorem takeWhile_row (hrow : ∀ c ∈ row, p c = true) (hrest : ∀ c ∈ rest.head?, p c = false) :
    (row ++ rest).takeWhile p = row := by
  rw [List.takeWhile_append_of_pos hrow]
  cases rest with
  | nil => simp
  | cons c rest => simp [hrest c rfl]

theorem dropWhile_row (hrow : ∀ c ∈ row, p c = true) (hrest : ∀ c ∈ rest.head?, p c = false) :
    (row ++ rest).dropWhile p = rest := by
  rw [List.dropWhile_append_of_pos hrow]
  cases rest with
  | nil => rfl
  | cons c rest => simp [hrest c rfl]

end

section

variable {name rest : List Char}

theorem StartsStep.isNameChar_head (h : StartsStep rest) :
    ∀ c ∈ rest.head?, isNameChar c = false := by
  cases rest with
  | nil => nofun
  | cons c rest =>
    rintro _ ⟨⟩
    rcases h with rfl | rfl <;> rfl

/-- A name goes up to the next step. -/
theorem afterPoint_name (hne : name ≠ []) (hname : ∀ c ∈ name, isNameChar c = true)
    (hstar : name.head? ≠ some '*') (hrest : StartsStep rest) :
    afterPoint (name ++ rest) = .ok (.field (String.ofList name), rest) := by
  unfold afterPoint
  split
  · next rest' hcs =>
    -- the name is not empty, so the asterisk would be its first character
    obtain ⟨c, cs, rfl⟩ := List.exists_cons_of_ne_nil hne
    cases hcs
    exact absurd rfl hstar
  · have hempty : name.isEmpty = false := by simpa using hne
    have hstop := hrest.isNameChar_head
    simp only [takeWhile_row hname hstop, dropWhile_row hname hstop, hempty]
    rfl

/-- A quoted name goes up to the next quote. -/
theorem afterQuote_name (h : '\'' ∉ name) (rest : List Char) :
    afterQuote (name ++ '\'' :: ']' :: rest) = .ok (.field (String.ofList name), rest) := by
  have hchars : ∀ c ∈ name, (c != '\'') = true := fun c hc =>
    bne_iff_ne.2 fun he => h (he ▸ hc)
  have hstop : ∀ c ∈ ('\'' :: ']' :: rest).head?, (c != '\'') = false := by
    rintro _ ⟨⟩
    rfl
  simp only [afterQuote, takeWhile_row hchars hstop, dropWhile_row hchars hstop]

end

section

variable {digits : List Char}

theorem afterIndex_digits (hne : digits ≠ []) (hdigits : ∀ c ∈ digits, c.isDigit = true)
    (hfits : Nat.ofDigitChars 10 digits 0 < indexBound) (rest : List Char) :
    afterIndex (digits ++ ']' :: rest) = .ok (.index (Nat.ofDigitChars 10 digits 0), rest) := by
  have hstop : ∀ c ∈ (']' :: rest).head?, c.isDigit = false := by
    rintro _ ⟨⟩
    rfl
  have hgood : ¬ (digits.isEmpty = true ∨ indexBound ≤ Nat.ofDigitChars 10 digits 0) := by
    simpa [hne] using hfits
  simp only [afterIndex, takeWhile_row hdigits hstop, dropWhile_row hdigits hstop, digitsValue_eq,
    if_neg hgood]

theorem afterBracket_digits (hne : digits ≠ []) (hdigits : ∀ c ∈ digits, c.isDigit = true)
    (hfits : Nat.ofDigitChars 10 digits 0 < indexBound) (rest : List Char) :
    afterBracket (digits ++ ']' :: rest) = .ok (.index (Nat.ofDigitChars 10 digits 0), rest) := by
  have hindex := afterIndex_digits hne hdigits hfits rest
  obtain ⟨c, cs, rfl⟩ := List.exists_cons_of_ne_nil hne
  -- the first character is a digit, so it neither opens a quote nor is a wildcard
  have hc : c.isDigit = true := hdigits c List.mem_cons_self
  have hother : ∀ other : Char, other.isDigit = false → c ≠ other := by
    rintro other hfalse rfl
    rw [hc] at hfalse
    cases hfalse
  rw [List.cons_append] at hindex ⊢
  unfold afterBracket
  split
  · next h => cases h
  · next h => exact absurd (List.cons.inj h).1 (hother _ rfl)
  · next h => exact absurd (List.cons.inj h).1 (hother _ rfl)
  · next h => exact absurd (List.cons.inj h).1 (hother _ rfl)
  · exact hindex

end

/-- A spelled step is read, whatever step comes after it. -/
theorem Step.Spelling.step {s : Step} {front rest : List Char} (h : s.Spelling front)
    (hrest : StartsStep rest) :
    ∃ c tail, front = c :: tail ∧ DocPath.step c (tail ++ rest) = .ok (s, rest) := by
  cases h with
  | anyChild => exact ⟨'.', ['*'], rfl, rfl⟩
  | anyIndex => exact ⟨'[', ['*', ']'], rfl, rfl⟩
  | index hne hdigits hfits =>
    refine ⟨'[', _, rfl, ?_⟩
    rw [DocPath.step, if_neg (by decide), if_pos rfl, List.append_assoc]
    exact afterBracket_digits hne hdigits hfits rest
  | @quoted name hname =>
    refine ⟨'[', _, rfl, ?_⟩
    have hquoted := afterQuote_name hname rest
    rw [String.ofList_toList] at hquoted
    rw [DocPath.step, if_neg (by decide), if_pos rfl, List.cons_append, List.append_assoc]
    exact hquoted
  | @plain name hne hpoint hbracket hstar =>
    refine ⟨'.', _, rfl, ?_⟩
    have hchars : ∀ c ∈ name.toList, isNameChar c = true := fun c hc =>
      isNameChar_iff.2 ⟨fun he => hpoint (he ▸ hc), fun he => hbracket (he ▸ hc)⟩
    rw [DocPath.step, if_pos rfl, afterPoint_name hne hchars hstar hrest, String.ofList_toList]

theorem stepsOf_spellings {steps : List Step} {spellings : List (List Char)}
    (h : List.Forall₂ Step.Spelling steps spellings) (fuel : Nat)
    (hfuel : spellings.flatten.length ≤ fuel) : stepsOf fuel spellings.flatten = .ok steps := by
  induction h generalizing fuel with
  | nil => cases fuel <;> rfl
  | cons hfirst hothers ih =>
    -- the first step is read up to the next spelling, which tells where it ends
    obtain ⟨c, tail, rfl, hstep⟩ := hfirst.step (startsStep_flatten hothers)
    rw [List.flatten_cons, List.cons_append] at hfuel ⊢
    rw [List.length_cons, List.length_append] at hfuel
    -- every step takes one character at least, so the fuel lasts
    obtain ⟨fuel, rfl⟩ : ∃ n, fuel = n + 1 := ⟨fuel - 1, by omega⟩
    simp only [stepsOf, hstep, bind, Except.bind, ih fuel (by omega)]
    rfl

/-! ## Only spellings are read -/

section

variable {cs rest : List Char} {s : Step}

theorem spelling_of_afterPoint (h : afterPoint cs = .ok (s, rest)) :
    ∃ front, s.Spelling front ∧ '.' :: cs = front ++ rest := by
  unfold afterPoint at h
  split at h
  · cases h
    exact ⟨_, .anyChild, rfl⟩
  · next hstar =>
    simp only at h
    split at h
    · cases h
    · next hne =>
      cases h
      have hcut : cs.takeWhile isNameChar ++ cs.dropWhile isNameChar = cs :=
        List.takeWhile_append_dropWhile
      have hchars : ∀ c ∈ cs.takeWhile isNameChar, c ≠ '.' ∧ c ≠ '[' := fun c hc =>
        isNameChar_iff.1 (List.mem_takeWhile_imp hc)
      refine ⟨'.' :: cs.takeWhile isNameChar, ?_, ?_⟩
      · have hplain := @Step.Spelling.plain (String.ofList (cs.takeWhile isNameChar))
        rw [String.toList_ofList] at hplain
        refine hplain (by simpa using hne) (fun hc => (hchars _ hc).1 rfl)
          (fun hc => (hchars _ hc).2 rfl) fun hhead => ?_
        -- an asterisk at the front was taken for the wildcard
        obtain ⟨tail, htail⟩ := List.head?_eq_some_iff.1 hhead
        rw [htail, List.cons_append] at hcut
        exact hstar _ hcut.symm
      · rw [List.cons_append, hcut]

theorem spelling_of_afterQuote (h : afterQuote cs = .ok (s, rest)) :
    ∃ front, s.Spelling front ∧ '[' :: '\'' :: cs = front ++ rest := by
  have hcut : cs.takeWhile (· != '\'') ++ cs.dropWhile (· != '\'') = cs :=
    List.takeWhile_append_dropWhile
  unfold afterQuote at h
  split at h
  · cases h
  · next c rest' hdrop =>
    cases h
    have hname : '\'' ∉ cs.takeWhile (· != '\'') := fun hc => by
      simpa using List.mem_takeWhile_imp hc
    -- the name ended at the first quote, so that is what comes before the closing bracket
    have hclose := List.head?_dropWhile_not (· != '\'') cs
    rw [hdrop] at hcut hclose
    have hquote : c = '\'' := by simpa using hclose
    subst hquote
    refine ⟨_, @Step.Spelling.quoted (String.ofList _) (by rwa [String.toList_ofList]), ?_⟩
    rw [String.toList_ofList]
    simpa using hcut.symm
  · cases h

theorem spelling_of_afterIndex (h : afterIndex cs = .ok (s, rest)) :
    ∃ front, s.Spelling front ∧ '[' :: cs = front ++ rest := by
  have hcut : cs.takeWhile Char.isDigit ++ cs.dropWhile Char.isDigit = cs :=
    List.takeWhile_append_dropWhile
  unfold afterIndex at h
  split at h
  · cases h
  · next rest' hdrop =>
    simp only at h
    split at h
    · cases h
    · next hgood =>
      cases h
      obtain ⟨hne, hfits⟩ := not_or.1 hgood
      rw [digitsValue_eq] at hfits ⊢
      refine ⟨_, .index (by simpa using hne) (fun c hc => List.mem_takeWhile_imp hc)
        (Nat.not_le.1 hfits), ?_⟩
      rw [hdrop] at hcut
      simpa using hcut.symm
  · cases h

theorem spelling_of_afterBracket (h : afterBracket cs = .ok (s, rest)) :
    ∃ front, s.Spelling front ∧ '[' :: cs = front ++ rest := by
  unfold afterBracket at h
  split at h
  · cases h
  · exact spelling_of_afterQuote h
  · cases h
    exact ⟨_, .anyIndex, rfl⟩
  · cases h
  · exact spelling_of_afterIndex h

theorem spelling_of_step {c : Char} (h : step c cs = .ok (s, rest)) :
    ∃ front, s.Spelling front ∧ c :: cs = front ++ rest := by
  unfold step at h
  split at h
  · next hc =>
    subst hc
    exact spelling_of_afterPoint h
  · split at h
    · next hc =>
      subst hc
      exact spelling_of_afterBracket h
    · cases h

end

theorem spellings_of_stepsOf {fuel : Nat} {cs : List Char} {steps : List Step}
    (h : stepsOf fuel cs = .ok steps) :
    ∃ spellings, List.Forall₂ Step.Spelling steps spellings ∧ cs = spellings.flatten := by
  -- each unit of fuel reads one step, so what is left of it belongs to the text after that step
  induction fuel generalizing cs steps with
  | zero =>
    cases cs with
    | nil =>
      cases h
      exact ⟨[], .nil, rfl⟩
    | cons c cs => cases h
  | succ fuel ih =>
    cases cs with
    | nil =>
      cases h
      exact ⟨[], .nil, rfl⟩
    | cons c cs =>
      obtain ⟨⟨first, rest⟩, hfirst, h⟩ := bind_eq_ok.1 h
      obtain ⟨others, hothers, h⟩ := bind_eq_ok.1 h
      cases h
      obtain ⟨front, hspelling, hfront⟩ := spelling_of_step hfirst
      obtain ⟨spellings, hspellings, rfl⟩ := ih hothers
      exact ⟨front :: spellings, .cons hspelling hspellings, hfront⟩

/-! ## Whole expressions -/

theorem ofChars_eq_ok_iff {cs : List Char} {p : DocPath} :
    ofChars cs = .ok p ↔ ∃ spellings,
      List.Forall₂ Step.Spelling p.steps spellings ∧ cs = '$' :: spellings.flatten := by
  constructor
  · intro h
    unfold ofChars at h
    split at h
    · obtain ⟨steps, hsteps, rfl⟩ := map_eq_ok.1 h
      obtain ⟨spellings, hspellings, rfl⟩ := spellings_of_stepsOf hsteps
      exact ⟨spellings, hspellings, rfl⟩
    · cases h
  · rintro ⟨spellings, hspellings, rfl⟩
    exact map_eq_ok.2 ⟨p.steps, stepsOf_spellings hspellings _ (Nat.le_refl _), rfl⟩

theorem parse_eq_ok_iff {expression : String} {p : DocPath} :
    parse expression = .ok p ↔ p.Spelling expression := by
  rw [Spelling, ← ofChars_eq_ok_iff, parse]
  cases ofChars expression.toList with
  | ok path => simp
  | error reason => simp

/-- The reader gives a path for the texts that spell it, and refuses all texts that spell none. -/
theorem parse_decides_spelling (text : String) :
    (∀ p, parse text = .ok p ↔ p.Spelling text) ∧
      ((∃ reason, parse text = .error ⟨text, reason⟩) ↔ ¬ ∃ p : DocPath, p.Spelling text) := by
  refine ⟨fun p => parse_eq_ok_iff, ?_⟩
  simp only [← parse_eq_ok_iff]
  rw [parse]
  cases ofChars text.toList with
  | ok path => simp
  | error reason => simp

/-- Zeros in front of an index and quotes around a plain name make no difference. -/
example : parse "$.items[007]['id'].*" =
    .ok ⟨[.field "items", .index 7, .field "id", .anyChild]⟩ := by
  decide +kernel

end MockProvider.DocPath
