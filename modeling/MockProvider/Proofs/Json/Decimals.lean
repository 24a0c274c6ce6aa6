import MockProvider.Proofs.Decimal.Shortest
import MockProvider.Proofs.Json.Scaling
import MockProvider.Proofs.Json.Tokens

/-!
# Reading decimals

A decimal in any notation is read as a significand, of which digits can be missing at the end, times
a power of ten. So it is read as some number if its digits are not zero where zeros follow them, and
if scaling what is read of them has an answer: `Readable.unsignedNumber`.
-/

namespace MockProvider.Json

open Utf8 (encode encodeChar)

/-! ## Rows of digits -/

section

variable {cs : List Char} {rest : Bytes}

theorem encode_digits (hcs : ∀ c ∈ cs, c.isDigit = true) :
    encode cs = cs.map fun c => UInt8.ofNat c.toNat := by
  induction cs with
  | nil => rfl
  | cons c cs ih =>
    obtain ⟨hc, hcs⟩ := List.forall_mem_cons.1 hcs
    rw [Utf8.encode_cons, encodeChar_digit hc, ih hcs]
    rfl

theorem isDigit_of_mem_encode (hcs : ∀ c ∈ cs, c.isDigit = true) {b : UInt8}
    (hb : b ∈ encode cs) : isDigit b = true := by
  rw [encode_digits hcs] at hb
  obtain ⟨c, hc, rfl⟩ := List.mem_map.1 hb
  rw [isDigit, digit?_octet (hcs c hc)]
  rfl

theorem dropWhile_nondigit (hrest : ∀ b ∈ rest.head?, isDigit b = false) :
    rest.dropWhile isDigit = rest := by
  cases rest with
  | nil => rfl
  | cons b rest => rw [List.dropWhile_cons, if_neg (by rw [hrest b rfl]; exact Bool.false_ne_true)]

theorem dropWhile_digits (hcs : ∀ c ∈ cs, c.isDigit = true)
    (hrest : ∀ b ∈ rest.head?, isDigit b = false) :
    (encode cs ++ rest).dropWhile isDigit = rest := by
  rw [List.dropWhile_append_of_pos fun b hb => isDigit_of_mem_encode hcs hb,
    dropWhile_nondigit hrest]

theorem countDigits_digits (hcs : ∀ c ∈ cs, c.isDigit = true)
    (hrest : ∀ b ∈ rest.head?, isDigit b = false) :
    countDigits (encode cs ++ rest) = (cs.length, rest) := by
  have hlength : (encode cs).length = cs.length := by rw [encode_digits hcs, List.length_map]
  have hnone : rest.takeWhile isDigit = [] := by
    cases rest with
    | nil => rfl
    | cons b rest => simp [hrest b rfl]
  rw [countDigits, List.takeWhile_append_of_pos fun b hb => isDigit_of_mem_encode hcs hb, hnone,
    dropWhile_digits hcs hrest, List.append_nil, hlength]

/-- The digits after a point are read with as many places as digits were gathered. -/
theorem decimalPart_digits (hne : cs ≠ []) (hcs : ∀ c ∈ cs, c.isDigit = true) (negative : Bool)
    (significand : Nat) (places : Int) :
    ∃ j ≤ cs.length,
      (Nat.ofDigitChars 10 cs significand < 0x10000000000000000 → j = cs.length) ∧
      ∀ rest : Bytes, (∀ b ∈ rest.head?, isDigit b = false) →
        decimalPart negative significand places (encode cs ++ rest) =
          match rest with
          | [] => scaledNumber negative (Nat.ofDigitChars 10 (cs.take j) significand) (places - j) []
          | b :: rest =>
            if isExponentMark b then
              exponentPart negative (Nat.ofDigitChars 10 (cs.take j) significand) (places - j) rest
            else
              scaledNumber negative (Nat.ofDigitChars 10 (cs.take j) significand) (places - j)
                (b :: rest) := by
  obtain ⟨j, hj, hall, hgather⟩ := gather_row hcs significand
  refine ⟨j, hj, hall, fun rest hrest => ?_⟩
  have hdropped := countDigits_digits (fun c (hc : c ∈ cs.drop j) => hcs c (List.mem_of_mem_drop hc))
    hrest
  have hlength : 0 < cs.length := List.length_pos_iff.2 hne
  have hsome : ¬ (j = 0 ∧ (cs.drop j).length = 0) := by
    rw [List.length_drop]
    omega
  cases rest with
  | nil => simp only [decimalPart, hgather 0 [] hrest, hdropped, Nat.zero_add, if_neg hsome]
  | cons b rest =>
    simp only [decimalPart, hgather 0 (b :: rest) hrest, hdropped, Nat.zero_add, if_neg hsome]

theorem decimalPart_stops (hne : cs ≠ []) (hcs : ∀ c ∈ cs, c.isDigit = true) (negative : Bool)
    (significand : Nat) (places : Int) :
    ∃ (significand' : Nat) (j : Nat), ∀ rest : Bytes, Stops rest →
      decimalPart negative significand places (encode cs ++ rest) =
        scaledNumber negative significand' (places - j) rest := by
  obtain ⟨j, -, -, hread⟩ := decimalPart_digits hne hcs negative significand places
  refine ⟨Nat.ofDigitChars 10 (cs.take j) significand, j, fun rest hrest => ?_⟩
  rw [hread rest fun b hb => (hrest b hb).1]
  cases rest with
  | nil => rfl
  | cons b rest =>
    obtain ⟨-, -, hmark⟩ := hrest b rfl
    simp only [hmark, Bool.false_eq_true, if_false]

end

/-! ## Exponents -/

section

variable {cs : List Char}

theorem exponentDigits_fits (hcs : ∀ c ∈ cs, c.isDigit = true) {n : Nat}
    (h : Nat.ofDigitChars 10 cs n < exponentBound) {rest : Bytes}
    (hrest : ∀ b ∈ rest.head?, isDigit b = false) :
    exponentDigits n (encode cs ++ rest) = (some (Nat.ofDigitChars 10 cs n), rest) := by
  induction cs generalizing n with
  | nil =>
    cases rest with
    | nil => rfl
    | cons b rest =>
      have hnone := digit?_eq_none (hrest b rfl)
      simp [exponentDigits, hnone]
  | cons c cs ih =>
    obtain ⟨hc, hcs⟩ := List.forall_mem_cons.1 hcs
    rw [Nat.ofDigitChars_cons] at h ⊢
    have hvalue := next_digit n c
    have hnext : n * 10 + (c.toNat - 48) < exponentBound := by
      rw [hvalue]
      exact Nat.lt_of_le_of_lt (le_ofDigitChars _ _) h
    rw [Utf8.encode_cons, encodeChar_digit hc, List.append_assoc, List.singleton_append,
      exponentDigits, digit?_octet hc]
    simp only [hnext, if_true]
    rw [hvalue, ih hcs h]

/-- A large exponent is given up at a digit, after which there are only digits. -/
theorem exponentDigits_large (hcs : ∀ c ∈ cs, c.isDigit = true) {n : Nat} (hn : n < exponentBound)
    (h : exponentBound ≤ Nat.ofDigitChars 10 cs n) :
    ∃ j, ∀ rest : Bytes, exponentDigits n (encode cs ++ rest) = (none, encode (cs.drop j) ++ rest) := by
  induction cs generalizing n with
  | nil => exact absurd hn (Nat.not_lt.2 h)
  | cons c cs ih =>
    obtain ⟨hc, hcs⟩ := List.forall_mem_cons.1 hcs
    have hvalue := next_digit n c
    rw [Nat.ofDigitChars_cons, ← hvalue] at h
    by_cases hnext : n * 10 + (c.toNat - 48) < exponentBound
    · obtain ⟨j, hread⟩ := ih hcs hnext h
      refine ⟨j + 1, fun rest => ?_⟩
      rw [Utf8.encode_cons, encodeChar_digit hc, List.append_assoc, List.singleton_append,
        exponentDigits, digit?_octet hc]
      simp only [hnext, if_true]
      rw [hread, List.drop_succ_cons]
    · refine ⟨1, fun rest => ?_⟩
      rw [Utf8.encode_cons, encodeChar_digit hc, List.append_assoc, List.singleton_append,
        exponentDigits, digit?_octet hc]
      simp only [hnext, if_false]
      rfl

end

/-- The mark of an exponent with its sign. -/
def exponentMark (down : Bool) : List Char :=
  if down then ['e', '-'] else ['e', '+']

theorem encode_exponentMark (down : Bool) :
    encode (exponentMark down) = [0x65, if down then 0x2D else 0x2B] := by
  cases down <;> rfl

theorem exponentSign_mark (down : Bool) (rest : Bytes) :
    exponentSign ((if down then 0x2D else 0x2B) :: rest) = (down, rest) := by
  cases down <;> rfl

/-- An exponent after its mark is read if it is not too large, and a negative one even then. -/
theorem exponentPart_natChars (negative : Bool) (significand : Nat) (places : Int) (down : Bool)
    {exponent : Nat} (h : exponent < exponentBound ∨ down = true)
    (hscales : (scale (ofSignificand negative significand) 4
      (if down then places - exponent else places + exponent)).isSome = true) :
    ∃ n, ∀ rest : Bytes, Stops rest →
      exponentPart negative significand places
        ((if down then 0x2D else 0x2B) :: (encode (Number.natChars exponent) ++ rest)) =
          .ok (n, rest) := by
  obtain ⟨c, cs, hchars, -⟩ := natChars_lead exponent
  have hdigits : ∀ c' ∈ c :: cs, c'.isDigit = true := fun c' hc =>
    isDigit_of_mem_natChars (hchars ▸ hc)
  obtain ⟨hc, hcs⟩ := List.forall_mem_cons.1 hdigits
  have hvalue := ofDigitChars_natChars exponent
  rw [hchars, ofDigitChars_cons_zero] at hvalue
  by_cases hfits : exponent < exponentBound
  · obtain ⟨x, hx⟩ := Option.isSome_iff_exists.1 hscales
    refine ⟨.float x, fun rest hrest => ?_⟩
    have hread := exponentDigits_fits hcs (hvalue.symm ▸ hfits) fun b hb => (hrest b hb).1
    rw [hchars, Utf8.encode_cons, encodeChar_digit hc, List.append_assoc, List.singleton_append]
    simp only [exponentPart, exponentSign_mark, digit?_octet hc, hread, hvalue, scaledNumber, hx]
  · have hdown : down = true := h.resolve_left hfits
    have hfirst : c.toNat - 48 < exponentBound := by
      have hrange := toNat_of_isDigit hc
      have hbound : exponentBound = 0x80000000 := rfl
      omega
    obtain ⟨j, hread⟩ := exponentDigits_large hcs hfirst (hvalue.symm ▸ Nat.le_of_not_lt hfits)
    refine ⟨.float (Binary64.zero negative), fun rest hrest => ?_⟩
    have hdrop := dropWhile_digits
      (fun c (hc : c ∈ cs.drop j) => hcs c (List.mem_of_mem_drop hc)) fun b hb => (hrest b hb).1
    have hnot : ¬ (significand ≠ 0 ∧ down = false) := by simp [hdown]
    rw [hchars, Utf8.encode_cons, encodeChar_digit hc, List.append_assoc, List.singleton_append]
    simp only [exponentPart, exponentSign_mark, digit?_octet hc, hread, if_neg hnot, hdrop]

/-! ## Decimals -/

/-- A decimal that can be read: zeros are not put behind a zero, its exponent is not too large, and
    its digits can be scaled, also when some are missing at the end because they do not fit. -/
structure Readable (d : Shortest.Decimal) : Prop where
  nonzero : 0 ≤ d.exponent → d.digits ≠ 0
  scales : ∀ (negative : Bool) (significand k : Nat), significand * 10 ^ k ≤ d.digits →
    (d.digits < 0x10000000000000000 → significand = d.digits ∧ k = 0) →
      (scale (ofSignificand negative significand) 4 (d.exponent + k)).isSome = true
  bounded : (Number.natChars d.digits).length + d.exponent ≤ exponentBound

theorem ofDigitChars_take (cs : List Char) (j : Nat) :
    Nat.ofDigitChars 10 (cs.take j) 0 * 10 ^ (cs.length - j) ≤ Nat.ofDigitChars 10 cs 0 := by
  have hsplit : Nat.ofDigitChars 10 cs 0 =
      Nat.ofDigitChars 10 (cs.drop j) (Nat.ofDigitChars 10 (cs.take j) 0) := by
    rw [← Nat.ofDigitChars_append, List.take_append_drop]
  rw [hsplit]
  generalize Nat.ofDigitChars 10 (cs.take j) 0 = front
  rw [Nat.ofDigitChars_eq_ofDigitChars_zero, List.length_drop, Nat.mul_comm]
  exact Nat.le_add_right _ _

theorem ofDigitChars_lt {cs : List Char} (hcs : ∀ c ∈ cs, c.isDigit = true) (n : Nat) :
    Nat.ofDigitChars 10 cs n < (n + 1) * 10 ^ cs.length := by
  induction cs generalizing n with
  | nil => simp
  | cons c cs ih =>
    obtain ⟨hc, hcs⟩ := List.forall_mem_cons.1 hcs
    have hrange := toNat_of_isDigit hc
    have hzero : '0'.toNat = 48 := rfl
    rw [Nat.ofDigitChars_cons, List.length_cons, Nat.pow_succ, Nat.mul_comm (10 ^ _), ← Nat.mul_assoc]
    refine Nat.lt_of_lt_of_le (ih hcs _) (Nat.mul_le_mul_right _ ?_)
    omega

/-- A whole part, a point and digits are read: the number is only scaled down. -/
theorem unsignedNumber_positional {c : Char} {cs fs : List Char}
    (hdigits : ∀ c' ∈ c :: cs, c'.isDigit = true) (hlead : c.toNat = 48 → cs = [])
    (hlength : (c :: cs).length ≤ 16) (hne : fs ≠ []) (hfs : ∀ c' ∈ fs, c'.isDigit = true)
    (negative : Bool) :
    ∃ n, ∀ rest, Stops rest →
      unsignedNumber negative (encode ((c :: cs) ++ '.' :: fs) ++ rest) = .ok (n, rest) := by
  obtain ⟨significand, j, hread⟩ :=
    decimalPart_stops hne hfs negative (Nat.ofDigitChars 10 (c :: cs) 0) 0
  obtain ⟨x, hx⟩ := Option.isSome_iff_exists.1 (isSome_scale_of_nonpos
    (ofSignificand negative significand) 4 (show (0 : Int) - j ≤ 0 by omega))
  have hfits : Nat.ofDigitChars 10 (c :: cs) 0 < 0x10000000000000000 := by
    have hlt := ofDigitChars_lt hdigits 0
    have hpow : 10 ^ (c :: cs).length ≤ 10 ^ 16 := Nat.pow_le_pow_right (by decide) hlength
    omega
  have hpoint : encodeChar '.' = [0x2E] := rfl
  refine ⟨.float x, fun rest hrest => ?_⟩
  have hsplit : encode ((c :: cs) ++ '.' :: fs) ++ rest =
      encode (c :: cs) ++ 0x2E :: (encode fs ++ rest) := by
    rw [Utf8.encode_append, Utf8.encode_cons '.', hpoint, List.append_assoc]
    rfl
  rw [hsplit, unsignedNumber_row hdigits hlead (head?_nondigit rfl _) hfits, afterWhole, if_pos rfl]
  exact (hread rest hrest).trans (by rw [scaledNumber, hx])

/-- Digits with a point behind the first, unless it is the only one. -/
def pointed (c : Char) : List Char → List Char
  | [] => [c]
  | cs => c :: '.' :: cs

/-- A single digit in front of a point or of a mark is read. -/
theorem unsignedNumber_digit {c : Char} (hc : c.isDigit = true) {b : UInt8}
    (hb : isDigit b = false) (negative : Bool) (rest : Bytes) :
    unsignedNumber negative (encode [c] ++ b :: rest) =
      afterWhole negative (c.toNat - 48) 0 (b :: rest) := by
  have hfirst : Nat.ofDigitChars 10 [c] 0 = c.toNat - 48 := ofDigitChars_cons_zero c []
  have hrange := toNat_of_isDigit hc
  have hfits : Nat.ofDigitChars 10 [c] 0 < 0x10000000000000000 := by omega
  rw [unsignedNumber_row (by simpa using hc) (fun _ => rfl) (head?_nondigit hb rest) hfits, hfirst]

/-- The exponent of a readable decimal is read, also when digits are missing in front of it. -/
theorem Readable.exponentPart {d : Shortest.Decimal} (h : Readable d) (negative : Bool)
    {significand k : Nat} {places exponent : Int}
    (hexponent : exponent.natAbs < exponentBound ∨ exponent < 0)
    (hsum : places + exponent = d.exponent + k) (hle : significand * 10 ^ k ≤ d.digits)
    (hall : d.digits < 0x10000000000000000 → significand = d.digits ∧ k = 0) :
    ∃ n, ∀ rest : Bytes, Stops rest →
      exponentPart negative significand places ((if decide (exponent < 0) then 0x2D else 0x2B) ::
        (encode (Number.natChars exponent.natAbs) ++ rest)) = .ok (n, rest) := by
  refine exponentPart_natChars negative significand places (decide (exponent < 0))
    (hexponent.imp_right decide_eq_true) ?_
  have hsigned : (if decide (exponent < 0) = true then places - exponent.natAbs
      else places + exponent.natAbs) = d.exponent + k := by
    simp only [decide_eq_true_iff]
    split <;> omega
  rw [hsigned]
  exact h.scales negative significand k hle hall

/-- Digits with an exponent are read: the places after the point count against the exponent. -/
theorem unsignedNumber_scientific {d : Shortest.Decimal} (h : Readable d) {c : Char}
    {cs : List Char} (hchars : Number.natChars d.digits = c :: cs) (negative : Bool) :
    let exponent := (cs.length : Int) + d.exponent
    ∃ n, ∀ rest, Stops rest →
      unsignedNumber negative (encode (pointed c cs ++ exponentMark (decide (exponent < 0)) ++
        Number.natChars exponent.natAbs) ++ rest) = .ok (n, rest) := by
  intro exponent
  obtain ⟨hc, hcs⟩ : c.isDigit = true ∧ ∀ c' ∈ cs, c'.isDigit = true :=
    List.forall_mem_cons.1 fun c' hc => isDigit_of_mem_natChars (hchars ▸ hc)
  have hvalue := ofDigitChars_natChars d.digits
  have hbounded := h.bounded
  rw [hchars, List.length_cons] at hbounded
  have hexponent : exponent.natAbs < exponentBound ∨ exponent < 0 := by omega
  rw [hchars] at hvalue
  cases cs with
  | nil =>
    rw [ofDigitChars_cons_zero, Nat.ofDigitChars_nil] at hvalue
    have hsum : (0 : Int) + exponent = d.exponent + (0 : Nat) := by simp [exponent]
    obtain ⟨n, hn⟩ := h.exponentPart negative hexponent hsum (by simp) fun _ => ⟨rfl, rfl⟩
    refine ⟨n, fun rest hrest => ?_⟩
    rw [pointed, List.append_assoc, Utf8.encode_append, Utf8.encode_append, encode_exponentMark,
      List.append_assoc, List.append_assoc]
    exact (unsignedNumber_digit hc rfl negative _).trans
      ((congrArg (fun m => afterWhole negative m 0 _) hvalue).trans (hn rest hrest))
  | cons f fs =>
    obtain ⟨j, hj, hall, hplaces⟩ :=
      decimalPart_digits (List.cons_ne_nil f fs) hcs negative (c.toNat - 48) 0
    have htaken := ofDigitChars_take (c :: f :: fs) (j + 1)
    rw [hvalue, List.take_succ_cons, ofDigitChars_cons_zero, List.length_cons,
      Nat.add_sub_add_right] at htaken
    rw [ofDigitChars_cons_zero] at hvalue
    rw [hvalue] at hall
    have hsum : (0 : Int) - j + exponent = d.exponent + ((f :: fs).length - j : Nat) := by omega
    obtain ⟨n, hn⟩ := h.exponentPart negative hexponent hsum htaken fun hfits => by
        rw [hall hfits, List.take_length, hvalue, Nat.sub_self]
        exact ⟨rfl, rfl⟩
    refine ⟨n, fun rest hrest => ?_⟩
    have hpoint : encodeChar '.' = [0x2E] := rfl
    have hsplit : encode (pointed c (f :: fs) ++ exponentMark (decide (exponent < 0)) ++
          Number.natChars exponent.natAbs) ++ rest =
        encode [c] ++ 0x2E :: (encode (f :: fs) ++ 0x65 :: (if decide (exponent < 0) then 0x2D
          else 0x2B) :: (encode (Number.natChars exponent.natAbs) ++ rest)) := by
      have hcons : pointed c (f :: fs) = [c] ++ '.' :: (f :: fs) := rfl
      rw [hcons, Utf8.encode_append, Utf8.encode_append, Utf8.encode_append, Utf8.encode_cons '.',
        hpoint, encode_exponentMark]
      simp only [List.append_assoc, List.cons_append, List.nil_append]
    rw [hsplit, unsignedNumber_digit hc rfl, afterWhole, if_pos rfl]
    exact (hplaces _ (head?_nondigit rfl _)).trans (hn rest hrest)

/-- A readable decimal is read as a number. -/
theorem Readable.unsignedNumber {d : Shortest.Decimal} (h : Readable d) (negative : Bool) :
    ∃ n, ∀ rest, Stops rest →
      unsignedNumber negative (encode (Number.decimalChars d) ++ rest) = .ok (n, rest) := by
  obtain ⟨c, cs, hchars, hlead⟩ := natChars_lead d.digits
  have hdigits : ∀ c' ∈ c :: cs, c'.isDigit = true := fun c' hc =>
    isDigit_of_mem_natChars (hchars ▸ hc)
  have hzeros (n : Nat) : ∀ c' ∈ List.replicate n '0', c'.isDigit = true := fun c' hc => by
    rw [List.eq_of_mem_replicate hc]
    rfl
  have hmost : Number.placesBeforePoint = 16 := rfl
  rw [Number.decimalChars, hchars]
  dsimp only
  generalize hpoint : ((c :: cs).length : Int) + d.exponent = point
  rw [List.length_cons] at hpoint
  by_cases hwhole : 0 ≤ d.exponent ∧ point ≤ Number.placesBeforePoint
  · -- zeros fill the places up to the point, so the digits may not be a zero themselves
    rw [if_pos hwhole, List.cons_append]
    have hlead' : c.toNat = 48 → cs ++ List.replicate d.exponent.toNat '0' = [] := by
      intro hzero
      have hvalue := ofDigitChars_natChars d.digits
      rw [hchars, hlead hzero, Nat.ofDigitChars_cons, hzero] at hvalue
      exact absurd hvalue.symm (h.nonzero hwhole.1)
    refine unsignedNumber_positional (fun c' hc => ?_) hlead' ?_ (List.cons_ne_nil _ _) ?_ negative
    · rw [← List.cons_append] at hc
      rcases List.mem_append.1 hc with hc | hc
      · exact hdigits c' hc
      · exact hzeros _ c' hc
    · rw [List.length_cons, List.length_append, List.length_replicate]
      omega
    · simp
  rw [if_neg hwhole]
  by_cases hinside : 0 < point ∧ point ≤ Number.placesBeforePoint
  · rw [if_pos hinside]
    obtain ⟨p, hp⟩ : ∃ p : Nat, point.toNat = p + 1 := ⟨point.toNat - 1, by omega⟩
    rw [hp, List.take_succ_cons, List.drop_succ_cons]
    refine unsignedNumber_positional (fun c' hc => ?_) (fun hzero => ?_) ?_ ?_ (fun c' hc => ?_)
      negative
    · exact hdigits c' (List.mem_of_mem_take (i := p + 1) hc)
    · rw [hlead hzero, List.take_nil]
    · rw [List.length_cons, List.length_take]
      omega
    · rw [← List.length_pos_iff, List.length_drop]
      omega
    · exact hdigits c' (List.mem_cons_of_mem _ (List.mem_of_mem_drop hc))
  rw [if_neg hinside]
  by_cases hbefore : -Number.zerosAfterPoint < point ∧ point ≤ 0
  · rw [if_pos hbefore]
    have hzero : ∀ c' ∈ ['0'], c'.isDigit = true := List.forall_mem_singleton.2 rfl
    refine unsignedNumber_positional hzero (fun _ => rfl) (by decide) ?_ (fun c' hc => ?_) negative
    · simp
    · rcases List.mem_append.1 hc with hc | hc
      · exact hzeros _ c' hc
      · exact hdigits c' hc
  rw [if_neg hbefore]
  have hexp : point - 1 = (cs.length : Int) + d.exponent := by omega
  rw [hexp]
  have hread := unsignedNumber_scientific h hchars negative
  simp only [exponentMark, decide_eq_true_iff] at hread
  cases cs <;> exact hread

end MockProvider.Json
