import MockProvider.Proofs.Json.Parts
import MockProvider.Proofs.Json.Quotes

/-!
# What readers leave

No reader leaves more octets than it was given, and between two items of an array at least a comma is
read. So an array that was read has fewer items than its document has octets: `parse_arraysBelow`.
-/

namespace MockProvider.Json

/-! ## Words and numbers -/

theorem length_skipBlanks_le (input : Bytes) : (skipBlanks input).length ≤ input.length :=
  (List.dropWhile_suffix _).length_le

theorem length_lt_of_skipBlanks {b : UInt8} {input rest : Bytes} (h : skipBlanks input = b :: rest) :
    rest.length < input.length := by
  have hle := length_skipBlanks_le input
  rw [h, List.length_cons] at hle
  omega

theorem word_length_le : ∀ {expected input rest : Bytes}, word expected input = .ok rest →
    rest.length ≤ input.length
  | [], _, _, h => by
    cases h
    exact Nat.le_refl _
  | _ :: _, [], _, h => nomatch h
  | _ :: expected, b :: input, rest, h => by
    rw [word] at h
    split at h
    · exact Nat.le_succ_of_le (word_length_le h)
    · cases h

theorem gather_length_le (significand taken : Nat) (input : Bytes) :
    (gather significand taken input).2.2.length ≤ input.length := by
  induction input generalizing significand taken with
  | nil => exact Nat.le_refl _
  | cons b input ih =>
    rw [gather]
    split
    · exact Nat.le_refl _
    · split
      · exact Nat.le_succ_of_le (ih _ _)
      · exact Nat.le_refl _

theorem countDigits_length_le (input : Bytes) : (countDigits input).2.length ≤ input.length :=
  (List.dropWhile_suffix _).length_le

theorem scaledNumber_rest {negative : Bool} {significand : Nat} {exponent : Int}
    {input rest : Bytes} {n : Number}
    (h : scaledNumber negative significand exponent input = .ok (n, rest)) : rest = input := by
  rw [scaledNumber] at h
  split at h
  · cases h
    rfl
  · cases h

theorem exponentSign_length_le (input : Bytes) : (exponentSign input).2.length ≤ input.length := by
  cases input with
  | nil => exact Nat.le_refl _
  | cons b input =>
    rw [exponentSign]
    split
    · exact Nat.le_succ _
    · split
      · exact Nat.le_succ _
      · exact Nat.le_refl _

theorem exponentDigits_length_le (exponent : Nat) (input : Bytes) :
    (exponentDigits exponent input).2.length ≤ input.length := by
  induction input generalizing exponent with
  | nil => exact Nat.le_refl _
  | cons b input ih =>
    rw [exponentDigits]
    split
    · exact Nat.le_refl _
    · split
      · exact Nat.le_succ_of_le (ih _)
      · exact Nat.le_succ _

theorem exponentPart_length_le {negative : Bool} {significand : Nat} {places : Int}
    {input rest : Bytes} {n : Number}
    (h : exponentPart negative significand places input = .ok (n, rest)) :
    rest.length ≤ input.length := by
  have hsign := exponentSign_length_le input
  rw [exponentPart] at h
  generalize exponentSign input = signed at h hsign
  obtain ⟨down, input'⟩ := signed
  simp only at h hsign
  split at h
  · cases h
  · next b after =>
    rw [List.length_cons] at hsign
    split at h
    · cases h
    · next d _ =>
      have hdigits := exponentDigits_length_le d after
      split at h
      · next hread =>
        rw [hread] at hdigits
        rw [scaledNumber_rest h]
        exact Nat.le_trans hdigits (by omega)
      · next left hread =>
        rw [hread] at hdigits
        split at h
        · cases h
        · cases h
          have hdrop := (List.dropWhile_suffix (l := left) isDigit).length_le
          simp only at hdigits
          omega

theorem decimalPart_length_le {negative : Bool} {significand : Nat} {places : Int}
    {input rest : Bytes} {n : Number}
    (h : decimalPart negative significand places input = .ok (n, rest)) :
    rest.length ≤ input.length := by
  have hgather := gather_length_le significand 0 input
  rw [decimalPart] at h
  generalize gather significand 0 input = gathered at h hgather
  obtain ⟨significand', taken, after⟩ := gathered
  simp only at h hgather
  have hcount := countDigits_length_le after
  generalize countDigits after = counted at h hcount
  obtain ⟨dropped, after'⟩ := counted
  simp only at h hcount
  split at h
  · split at h <;> cases h
  · split at h
    · rw [scaledNumber_rest h]
      exact Nat.zero_le _
    · rw [List.length_cons] at hcount
      split at h
      · have hexponent := exponentPart_length_le h
        omega
      · rw [scaledNumber_rest h, List.length_cons]
        omega

theorem afterWhole_length_le {negative : Bool} {significand dropped : Nat} {input rest : Bytes}
    {n : Number} (h : afterWhole negative significand dropped input = .ok (n, rest)) :
    rest.length ≤ input.length := by
  have hplain : (if dropped = 0 then Except.ok (wholeNumber negative significand, input)
      else scaledNumber negative significand dropped input) = .ok (n, rest) →
      rest.length ≤ input.length := by
    intro hread
    split at hread
    · cases hread
      exact Nat.le_refl _
    · exact Nat.le_of_eq (congrArg List.length (scaledNumber_rest hread))
  cases input with
  | nil => exact hplain h
  | cons b input =>
    simp only [afterWhole] at h
    split at h
    · exact Nat.le_succ_of_le (decimalPart_length_le h)
    · split at h
      · exact Nat.le_succ_of_le (exponentPart_length_le h)
      · exact hplain h

theorem unsignedNumber_length_le {negative : Bool} {input rest : Bytes} {n : Number}
    (h : unsignedNumber negative input = .ok (n, rest)) : rest.length ≤ input.length := by
  unfold unsignedNumber at h
  split at h
  · cases h
  · next b input =>
    split at h
    · cases h
    · split at h
      · exact Nat.le_succ_of_le (afterWhole_length_le h)
      · split at h
        · cases h
        · exact Nat.le_succ_of_le (afterWhole_length_le h)
    · next d _ _ =>
      have hgather := gather_length_le d 0 input
      have hcount := countDigits_length_le (gather d 0 input).2.2
      have hwhole : rest.length ≤ (countDigits (gather d 0 input).2.2).2.length :=
        afterWhole_length_le h
      rw [List.length_cons]
      omega

/-! ## Strings -/

theorem stringBytes_length_le {fuel : Nat} {input bytes rest : Bytes}
    (h : stringBytes fuel input = .ok (bytes, rest)) : rest.length ≤ input.length := by
  induction fuel generalizing input bytes with
  | zero => cases h
  | succ fuel ih =>
    cases input with
    | nil => cases h
    | cons b input =>
      rw [stringBytes] at h
      split at h
      · cases h
        exact Nat.le_succ _
      · split at h
        · obtain ⟨⟨c, after⟩, hc, h⟩ := bind_eq_ok.1 h
          obtain ⟨⟨others, after'⟩, hothers, h⟩ := bind_eq_ok.1 h
          cases h
          have hescape := (escape_suffix hc).length_le
          have hrest := ih hothers
          rw [List.length_cons]
          omega
        · split at h
          · cases h
          · obtain ⟨⟨others, after⟩, hothers, h⟩ := bind_eq_ok.1 h
            cases h
            exact Nat.le_succ_of_le (ih hothers)

theorem stringAfterQuote_length_le {input rest : Bytes} {s : String}
    (h : stringAfterQuote input = .ok (s, rest)) : rest.length ≤ input.length := by
  obtain ⟨⟨bytes, after⟩, hbytes, h⟩ := bind_eq_ok.1 h
  have hle := stringBytes_length_le hbytes
  simp only at h
  split at h
  · cases h
    exact hle
  · cases h

/-! ## Arrays inside -/

/-- Every array inside a value has fewer items. -/
def ArraysBelow (n : Nat) (v : Json) : Prop :=
  v.Everywhere fun x => ∀ items, x = .array items → items.length < n

theorem ArraysBelow.mono {m n : Nat} {v : Json} (h : v.ArraysBelow m) (hle : m ≤ n) :
    v.ArraysBelow n :=
  Everywhere.mono h fun _ hx items hitems => Nat.lt_of_lt_of_le (hx items hitems) hle

theorem arraysBelow_scalar {n : Nat} {v : Json} (h : v.depth = 0) : v.ArraysBelow n := by
  refine everywhere_of_depth (fun items hv => ?_) h
  rw [hv] at h
  cases h

theorem arraysBelow_array {n : Nat} {values : List Json} (hcount : values.length < n)
    (hvalues : ∀ v ∈ values, v.ArraysBelow n) : (array values).ArraysBelow n :=
  everywhere_array (fun items hv => by cases hv; exact hcount) hvalues

theorem arraysBelow_ofMembers {n : Nat} {pairs : List (String × Json)}
    (hpairs : ∀ pair ∈ pairs, pair.2.ArraysBelow n) : (ofMembers pairs).ArraysBelow n :=
  everywhere_object nofun fun pair hpair => hpairs pair (Assoc.mem_ofList hpair)

/-! ## Values -/

/-- A reader of values leaves no more than it is given, and reads no array of more items. -/
def Frugal (reader : ValueReader) : Prop :=
  ∀ input v rest, reader input = .ok (v, rest) →
    rest.length ≤ input.length ∧ v.ArraysBelow input.length

section Parts

variable {item : ValueReader}

/-- Each item comes after a comma, and a bracket after all of them. -/
theorem moreItems_length (hitem : Frugal item) {fuel : Nat} {input rest : Bytes}
    {values : List Json} (h : moreItems item fuel input = .ok (values, rest)) :
    values.length + rest.length < input.length ∧ ∀ v ∈ values, v.ArraysBelow input.length := by
  induction fuel generalizing input values with
  | zero => cases h
  | succ fuel ih =>
    rw [moreItems] at h
    split at h
    · cases h
    · next b after hskip =>
      have hfirst := length_lt_of_skipBlanks hskip
      split at h
      · cases h
        simpa using hfirst
      · split at h
        · split at h
          · cases h
          · next c after' hskip' =>
            have hnext := length_lt_of_skipBlanks hskip'
            split at h
            · cases h
            · obtain ⟨⟨v, left⟩, hv, h⟩ := bind_eq_ok.1 h
              obtain ⟨⟨vs, left'⟩, hvs, h⟩ := bind_eq_ok.1 h
              cases h
              obtain ⟨hleft, hbelow⟩ := hitem _ _ _ hv
              obtain ⟨hcount, hrest⟩ := ih hvs
              rw [List.length_cons] at hleft hbelow
              refine ⟨by rw [List.length_cons]; omega, List.forall_mem_cons.2 ⟨?_, fun w hw => ?_⟩⟩
              · exact hbelow.mono (by omega)
              · exact (hrest w hw).mono (by omega)
        · cases h

theorem items_length (hitem : Frugal item) {input rest : Bytes} {values : List Json}
    (h : items item input = .ok (values, rest)) :
    values.length + rest.length ≤ input.length ∧ ∀ v ∈ values, v.ArraysBelow input.length := by
  rw [items] at h
  split at h
  · cases h
  · next b after hskip =>
    have hfirst := length_lt_of_skipBlanks hskip
    split at h
    · cases h
      simpa using Nat.le_of_lt hfirst
    · obtain ⟨⟨v, left⟩, hv, h⟩ := bind_eq_ok.1 h
      obtain ⟨⟨vs, left'⟩, hvs, h⟩ := bind_eq_ok.1 h
      cases h
      obtain ⟨hleft, hbelow⟩ := hitem _ _ _ hv
      obtain ⟨hcount, hrest⟩ := moreItems_length hitem hvs
      rw [List.length_cons] at hleft hbelow
      refine ⟨by rw [List.length_cons]; omega, List.forall_mem_cons.2 ⟨?_, fun w hw => ?_⟩⟩
      · exact hbelow.mono (by omega)
      · exact (hrest w hw).mono (by omega)

theorem colon_length_le {input rest : Bytes} (h : colon input = .ok rest) :
    rest.length ≤ input.length := by
  rw [colon] at h
  split at h
  · cases h
  · next hskip =>
    split at h
    · cases h
      exact Nat.le_of_lt (length_lt_of_skipBlanks hskip)
    · cases h

theorem member_length (hitem : Frugal item) {input rest : Bytes} {pair : String × Json}
    (h : member (fun _ => item) input = .ok (pair, rest)) :
    rest.length ≤ input.length ∧ pair.2.ArraysBelow input.length := by
  obtain ⟨⟨key, left⟩, hkey, h⟩ := bind_eq_ok.1 h
  obtain ⟨left', hcolon, h⟩ := bind_eq_ok.1 h
  obtain ⟨⟨v, left''⟩, hv, h⟩ := bind_eq_ok.1 h
  cases h
  have hkeyLeft := stringAfterQuote_length_le hkey
  have hcolonLeft := colon_length_le hcolon
  obtain ⟨hleft, hbelow⟩ := hitem _ _ _ hv
  exact ⟨by omega, hbelow.mono (by omega)⟩

theorem moreMembers_length (hitem : Frugal item) {fuel : Nat} {input rest : Bytes}
    {pairs : List (String × Json)}
    (h : moreMembers (fun _ => item) fuel input = .ok (pairs, rest)) :
    rest.length ≤ input.length ∧ ∀ pair ∈ pairs, pair.2.ArraysBelow input.length := by
  induction fuel generalizing input pairs with
  | zero => cases h
  | succ fuel ih =>
    rw [moreMembers] at h
    split at h
    · cases h
    · next b after hskip =>
      have hfirst := length_lt_of_skipBlanks hskip
      split at h
      · cases h
        simpa using Nat.le_of_lt hfirst
      · split at h
        · split at h
          · cases h
          · next c after' hskip' =>
            have hnext := length_lt_of_skipBlanks hskip'
            split at h
            · obtain ⟨⟨pair, left⟩, hpair, h⟩ := bind_eq_ok.1 h
              obtain ⟨⟨others, left'⟩, hothers, h⟩ := bind_eq_ok.1 h
              cases h
              obtain ⟨hleft, hbelow⟩ := member_length hitem hpair
              obtain ⟨hcount, hrest⟩ := ih hothers
              refine ⟨by omega, List.forall_mem_cons.2 ⟨hbelow.mono (by omega), fun w hw => ?_⟩⟩
              exact (hrest w hw).mono (by omega)
            · split at h <;> cases h
        · cases h

theorem members_length (hitem : Frugal item) {input rest : Bytes} {pairs : List (String × Json)}
    (h : members (fun _ => item) input = .ok (pairs, rest)) :
    rest.length ≤ input.length ∧ ∀ pair ∈ pairs, pair.2.ArraysBelow input.length := by
  rw [members] at h
  split at h
  · cases h
  · next b after hskip =>
    have hfirst := length_lt_of_skipBlanks hskip
    split at h
    · cases h
      simpa using Nat.le_of_lt hfirst
    · split at h
      · obtain ⟨⟨pair, left⟩, hpair, h⟩ := bind_eq_ok.1 h
        obtain ⟨⟨others, left'⟩, hothers, h⟩ := bind_eq_ok.1 h
        cases h
        obtain ⟨hleft, hbelow⟩ := member_length hitem hpair
        obtain ⟨hcount, hrest⟩ := moreMembers_length hitem hothers
        refine ⟨by omega, List.forall_mem_cons.2 ⟨hbelow.mono (by omega), fun w hw => ?_⟩⟩
        exact (hrest w hw).mono (by omega)
      · cases h

end Parts

/-- A reader of values is frugal when that for what is inside of containers is. -/
theorem frugal_valueWith {nested : Option ValueReader}
    (hnested : ∀ item, nested = some item → Frugal item) : Frugal (valueWith nested) := by
  intro input v rest h
  rw [valueWith] at h
  split at h
  · cases h
  · next b after hskip =>
    have hafter := length_lt_of_skipBlanks hskip
    have hscalar : ∀ {w : Json} {left : Bytes}, w.depth = 0 → left.length ≤ after.length + 1 →
        left.length ≤ input.length ∧ w.ArraysBelow input.length := fun hdepth hle =>
      ⟨by omega, arraysBelow_scalar hdepth⟩
    -- one case for each octet that a value begins with: words, numbers and texts have no parts, and
    -- the readers of items and members account for what is inside of containers
    repeat' split at h
    all_goals
      first
        | (obtain ⟨left, hleft, h⟩ := bind_eq_ok.1 h
           cases h
           first
             | exact hscalar rfl (Nat.le_succ_of_le (word_length_le hleft))
             | exact hscalar rfl (Nat.le_succ_of_le (unsignedNumber_length_le hleft))
             | exact hscalar rfl (unsignedNumber_length_le hleft)
             | exact hscalar rfl (Nat.le_succ_of_le (stringAfterQuote_length_le hleft)))
        | (cases h)
        | (obtain ⟨⟨values, left⟩, hvalues, h⟩ := bind_eq_ok.1 h
           cases h
           first
             | (obtain ⟨hcount, hbelow⟩ := items_length (hnested _ rfl) hvalues
                exact ⟨by omega, arraysBelow_array (by omega) fun w hw =>
                  (hbelow w hw).mono (by omega)⟩)
             | (obtain ⟨hle, hbelow⟩ := members_length (hnested _ rfl) hvalues
                exact ⟨by omega, arraysBelow_ofMembers fun w hw => (hbelow w hw).mono (by omega)⟩))

theorem frugal_value (depth : Nat) : Frugal (value depth) := by
  induction depth with
  | zero => exact frugal_valueWith nofun
  | succ depth ih =>
    refine frugal_valueWith fun item hitem => ?_
    cases hitem
    exact ih

/-- Every array of a document that was read has fewer items than the document has octets. -/
theorem parse_arraysBelow {input : Bytes} {v : Json} (h : parse input = .ok v) :
    v.ArraysBelow input.length := by
  rw [parse, document] at h
  split at h
  · cases h
  · next hv =>
    split at h
    · cases h
      exact (frugal_value _ _ _ _ hv).2
    · cases h

end MockProvider.Json
