import MockProvider.Json.Parser
import MockProvider.Json.Printer
import MockProvider.Proofs.Text.Utf8
import MockProvider.Text.Basic

/-!
# Reading back numbers and strings

Whole numbers and strings are read back from the octets that they are written as, whatever comes
after them; a number has to be told from what comes after it, so this may not go on with it. What a
value is written with first, `Json.toChars_first`, tells it from blanks and from XML.
-/

namespace MockProvider

namespace Json

open Utf8 (encode encodeChar)

/-! ## Digits -/

theorem toNat_of_isDigit {c : Char} (h : c.isDigit = true) : 48 ≤ c.toNat ∧ c.toNat ≤ 57 := by
  simp only [Char.isDigit, Bool.and_eq_true, decide_eq_true_eq] at h
  exact h

theorem encodeChar_digit {c : Char} (h : c.isDigit = true) :
    encodeChar c = [UInt8.ofNat c.toNat] := by
  have hrange := toNat_of_isDigit h
  exact Utf8.encodeChar_ascii (by omega)

theorem digit?_octet {c : Char} (h : c.isDigit = true) :
    digit? (UInt8.ofNat c.toNat) = some (c.toNat - 48) := by
  have hrange := toNat_of_isDigit h
  have hoctet : (UInt8.ofNat c.toNat).toNat = c.toNat := Utf8.toNat_octet (by omega)
  have hlow : (0x30 : UInt8) ≤ UInt8.ofNat c.toNat := by
    rw [UInt8.le_iff_toNat_le, hoctet]
    exact hrange.1
  have hhigh : UInt8.ofNat c.toNat ≤ 0x39 := by
    rw [UInt8.le_iff_toNat_le, hoctet]
    exact hrange.2
  rw [digit?, if_pos ⟨hlow, hhigh⟩, hoctet]

theorem isDigit_of_mem_natChars {n : Nat} {c : Char} (h : c ∈ Number.natChars n) :
    c.isDigit = true :=
  Nat.isDigit_of_mem_toDigits (by decide) (by decide) h

/-- The digits of a positive number begin with one that is not zero. -/
theorem natChars_eq_cons {n : Nat} (h : 0 < n) :
    ∃ c cs, Number.natChars n = c :: cs ∧ c.toNat ≠ 48 := by
  induction n using Nat.strongRecOn with
  | ind n ih =>
    rw [Number.natChars, Nat.toDigits_eq_if (by decide)]
    split
    · next hlt =>
      refine ⟨n.digitChar, [], rfl, fun hzero => ?_⟩
      have hvalue := Nat.toNat_digitChar_sub_48_of_lt_ten hlt
      omega
    · next hge =>
      obtain ⟨c, cs, hcs, hc⟩ := ih (n / 10) (by omega) (by omega)
      rw [Number.natChars] at hcs
      exact ⟨c, cs ++ [(n % 10).digitChar], by rw [hcs, List.cons_append], hc⟩

/-! ## Numbers -/

/-- A number does not go on into the octets. -/
def Stops (rest : Bytes) : Prop :=
  ∀ b ∈ rest.head?, isDigit b = false ∧ b ≠ 0x2E ∧ isExponentMark b = false

theorem stops_nil : Stops [] := fun _ h => nomatch h

theorem stops_cons {b : UInt8} {rest : Bytes} (hdigit : isDigit b = false) (hpoint : b ≠ 0x2E)
    (hmark : isExponentMark b = false) : Stops (b :: rest) := by
  rintro b' ⟨⟩
  exact ⟨hdigit, hpoint, hmark⟩

theorem digit?_eq_none {b : UInt8} (h : isDigit b = false) : digit? b = none :=
  Option.isNone_iff_eq_none.1 (Option.isSome_eq_false_iff.1 h)

theorem le_ofDigitChars (cs : List Char) (n : Nat) : n ≤ Nat.ofDigitChars 10 cs n := by
  rw [Nat.ofDigitChars_eq_ofDigitChars_zero]
  exact Nat.le_trans (Nat.le_mul_of_pos_left n (Nat.pow_pos (by decide))) (Nat.le_add_right _ _)

theorem next_digit (n : Nat) (c : Char) :
    n * 10 + (c.toNat - 48) = 10 * n + (c.toNat - '0'.toNat) := by
  rw [Nat.mul_comm]
  rfl

theorem ofDigitChars_cons_zero (c : Char) (cs : List Char) :
    Nat.ofDigitChars 10 (c :: cs) 0 = Nat.ofDigitChars 10 cs (c.toNat - 48) := by
  rw [Nat.ofDigitChars_cons, Nat.mul_zero, Nat.zero_add]
  rfl

theorem head?_nondigit {b : UInt8} (h : isDigit b = false) (rest : Bytes) :
    ∀ b' ∈ (b :: rest).head?, isDigit b' = false := by
  rintro b' ⟨⟩
  exact h

/-- Of a row of digits as many are gathered as fit, which are all of them if their value does. -/
theorem gather_row {cs : List Char} (hcs : ∀ c ∈ cs, c.isDigit = true) (n : Nat) :
    ∃ j ≤ cs.length, (Nat.ofDigitChars 10 cs n < 0x10000000000000000 → j = cs.length) ∧
      ∀ (taken : Nat) (rest : Bytes), (∀ b ∈ rest.head?, isDigit b = false) →
        gather n taken (encode cs ++ rest) =
          (Nat.ofDigitChars 10 (cs.take j) n, taken + j, encode (cs.drop j) ++ rest) := by
  induction cs generalizing n with
  | nil =>
    refine ⟨0, Nat.le_refl _, fun _ => rfl, fun taken rest hrest => ?_⟩
    cases rest with
    | nil => rfl
    | cons b rest =>
      have hnone := digit?_eq_none (hrest b rfl)
      simp [gather, hnone]
  | cons c cs ih =>
    obtain ⟨hc, hcs⟩ := List.forall_mem_cons.1 hcs
    have hvalue := next_digit n c
    by_cases hnext : n * 10 + (c.toNat - 48) < 0x10000000000000000
    · obtain ⟨j, hj, hall, hgather⟩ := ih hcs (10 * n + (c.toNat - '0'.toNat))
      refine ⟨j + 1, Nat.succ_le_succ hj, fun hfits => ?_, fun taken rest hrest => ?_⟩
      · rw [Nat.ofDigitChars_cons] at hfits
        rw [hall hfits, List.length_cons]
      · rw [Utf8.encode_cons, encodeChar_digit hc, List.append_assoc, List.singleton_append, gather,
          digit?_octet hc]
        simp only [hnext, if_true]
        rw [hvalue, hgather _ _ hrest, List.take_succ_cons, List.drop_succ_cons,
          Nat.ofDigitChars_cons, Nat.add_assoc, Nat.add_comm 1]
    · refine ⟨0, Nat.zero_le _, fun hfits => absurd hfits (Nat.not_lt.2 ?_), fun taken rest _ => ?_⟩
      -- digits that are still to come make the value no smaller
      · rw [Nat.ofDigitChars_cons, ← hvalue]
        exact Nat.le_trans (Nat.le_of_not_lt hnext) (le_ofDigitChars _ _)
      · rw [Utf8.encode_cons, encodeChar_digit hc, List.append_assoc, List.singleton_append, gather,
          digit?_octet hc]
        simp only [hnext, if_false]
        rw [List.drop_zero, Utf8.encode_cons, encodeChar_digit hc]
        rfl

/-- Digits are gathered up to their end while their value fits. -/
theorem gather_digits {rest : Bytes} (hrest : ∀ b ∈ rest.head?, isDigit b = false)
    {cs : List Char} (hcs : ∀ c ∈ cs, c.isDigit = true) (n taken : Nat)
    (hfits : Nat.ofDigitChars 10 cs n < 0x10000000000000000) :
    gather n taken (encode cs ++ rest) = (Nat.ofDigitChars 10 cs n, taken + cs.length, rest) := by
  obtain ⟨j, -, hall, hgather⟩ := gather_row hcs n
  rw [hgather taken rest hrest, hall hfits, List.take_length, List.drop_length]
  rfl

theorem countDigits_nondigit {rest : Bytes} (h : ∀ b ∈ rest.head?, isDigit b = false) :
    countDigits rest = (0, rest) := by
  cases rest with
  | nil => rfl
  | cons b rest => simp [countDigits, h b rfl]

theorem afterWhole_stops {rest : Bytes} (h : Stops rest) (negative : Bool) (n : Nat) :
    afterWhole negative n 0 rest = .ok (wholeNumber negative n, rest) := by
  cases rest with
  | nil => rfl
  | cons b rest =>
    obtain ⟨_, hpoint, hmark⟩ := h b rfl
    simp [afterWhole, hpoint, hmark]

/-- A row of digits whose value fits is a whole part, unless a zero begins it that is not its only
    digit. -/
theorem unsignedNumber_row {c : Char} {cs : List Char} (hdigits : ∀ c' ∈ c :: cs, c'.isDigit = true)
    (hlead : c.toNat = 48 → cs = []) {rest : Bytes} (hrest : ∀ b ∈ rest.head?, isDigit b = false)
    (hfits : Nat.ofDigitChars 10 (c :: cs) 0 < 0x10000000000000000) (negative : Bool) :
    unsignedNumber negative (encode (c :: cs) ++ rest) =
      afterWhole negative (Nat.ofDigitChars 10 (c :: cs) 0) 0 rest := by
  obtain ⟨hc, hcs⟩ := List.forall_mem_cons.1 hdigits
  rw [ofDigitChars_cons_zero] at hfits ⊢
  rw [Utf8.encode_cons, encodeChar_digit hc, List.append_assoc, List.singleton_append,
    unsignedNumber.eq_def]
  -- zero is read by a branch of its own, since no other whole part begins with it
  by_cases hzero : c.toNat = 48
  · obtain rfl := hlead hzero
    simp only [hzero, Nat.sub_self, Utf8.encode_nil, List.nil_append]
    cases rest with
    | nil => rfl
    | cons b rest =>
      have hstop : isDigit b = false := hrest b rfl
      simp only [hstop]
      rfl
  · obtain ⟨d, hd⟩ : ∃ d, c.toNat - 48 = d + 1 :=
      ⟨c.toNat - 49, by have := toNat_of_isDigit hc; omega⟩
    simp only [digit?_octet hc, hd]
    rw [← hd, gather_digits hrest hcs _ _ hfits]
    simp only [countDigits_nondigit hrest]

/-- Digits with their value: no zero begins them unless it is the only one. -/
theorem natChars_lead (n : Nat) :
    ∃ c cs, Number.natChars n = c :: cs ∧ (c.toNat = 48 → cs = []) := by
  by_cases hzero : n = 0
  · exact ⟨'0', [], by rw [hzero]; decide, fun _ => rfl⟩
  · obtain ⟨c, cs, hcs, hc⟩ := natChars_eq_cons (Nat.pos_of_ne_zero hzero)
    exact ⟨c, cs, hcs, fun h => absurd h hc⟩

theorem ofDigitChars_natChars (n : Nat) : Nat.ofDigitChars 10 (Number.natChars n) 0 = n :=
  Nat.ofDigitChars_ten_toDigits

/-- The digits of a number that fits are read as it. -/
theorem unsignedNumber_natChars {rest : Bytes} (hrest : Stops rest) (negative : Bool) {n : Nat}
    (hfits : n < 0x10000000000000000) :
    unsignedNumber negative (encode (Number.natChars n) ++ rest) =
      .ok (wholeNumber negative n, rest) := by
  obtain ⟨c, cs, hcs, hlead⟩ := natChars_lead n
  have hvalue := ofDigitChars_natChars n
  have hdigits : ∀ c' ∈ c :: cs, c'.isDigit = true := fun c' h => isDigit_of_mem_natChars (hcs ▸ h)
  rw [hcs] at hvalue ⊢
  rw [unsignedNumber_row hdigits hlead (fun b hb => (hrest b hb).1) (hvalue ▸ hfits), hvalue,
    afterWhole_stops hrest]

/-- The octets of a value that begins with a digit, or with a minus sign, are those of a number. -/
theorem valueWith_digit {nested : Option ValueReader} {b : UInt8} (h : isDigit b = true)
    (rest : Bytes) :
    valueWith nested (b :: rest) =
      (do let (n, rest) ← unsignedNumber false (b :: rest); return (.number n, rest)) := by
  have hne : ∀ other : UInt8, isDigit other = false → b ≠ other := by
    rintro other hother rfl
    rw [h] at hother
    cases hother
  have hblank : isBlank b = false := by
    simp only [isBlank, Bool.or_eq_false_iff, beq_eq_false_iff_ne]
    exact ⟨⟨⟨hne _ rfl, hne _ rfl⟩, hne _ rfl⟩, hne _ rfl⟩
  simp only [valueWith, skipBlanks, List.dropWhile_cons, hblank, h, hne 0x6E rfl, hne 0x74 rfl,
    hne 0x66 rfl, hne 0x2D rfl, if_true, if_false, Bool.false_eq_true]

theorem valueWith_minus {nested : Option ValueReader} (rest : Bytes) :
    valueWith nested (0x2D :: rest) =
      (do let (n, rest) ← unsignedNumber true rest; return (.number n, rest)) := rfl

end Json

namespace Number

/-- From the characters that a number is written as another one is read. -/
def ReadsAs (n m : Number) : Prop :=
  ∀ nested rest, Json.Stops rest →
    Json.valueWith nested (Utf8.encode n.toChars ++ rest) = .ok (.number m, rest)

/-- A number is read back from the characters that it is written as. -/
def Rereads (n : Number) : Prop :=
  ∀ nested rest, Json.Stops rest →
    Json.valueWith nested (Utf8.encode n.toChars ++ rest) = .ok (.number n, rest)

/-- A number without point and exponent. -/
def IsInteger : Number → Prop
  | integer _ _ => True
  | float _ => False

theorem rereads_natChars {n : Nat} (h : n < 0x10000000000000000) (nested : Option Json.ValueReader)
    {rest : Bytes} (hrest : Json.Stops rest) :
    Json.valueWith nested (Utf8.encode (natChars n) ++ rest) = .ok (.number (ofNat n), rest) := by
  have hread := Json.unsignedNumber_natChars hrest false h
  obtain ⟨c, cs, hcs⟩ : ∃ c cs, natChars n = c :: cs :=
    List.exists_cons_of_ne_nil Nat.toDigits_ne_nil
  have hc : c.isDigit = true := Json.isDigit_of_mem_natChars (n := n) (hcs ▸ List.mem_cons_self)
  have hdigit : Json.isDigit (UInt8.ofNat c.toNat) = true := by
    rw [Json.isDigit, Json.digit?_octet hc]
    rfl
  rw [hcs, Utf8.encode_cons, Json.encodeChar_digit hc, List.append_assoc,
    List.singleton_append] at hread ⊢
  rw [Json.valueWith_digit hdigit, hread, Json.wholeNumber, if_neg Bool.false_ne_true, if_pos h]
  rfl

/-- Integers are read back. -/
theorem IsInteger.rereads {n : Number} (h : n.IsInteger) : n.Rereads := by
  intro nested rest hrest
  match n, h with
  | integer (.ofNat m) hrange, _ =>
    have hfits : m < 0x10000000000000000 := Int.ofNat_lt.1 hrange.2
    have hvalue : ofNat m = integer (.ofNat m) hrange := dif_pos hfits
    have hread := rereads_natChars hfits nested hrest
    rw [hvalue] at hread
    exact hread
  | integer (.negSucc m) hrange, _ =>
    have hfits : m + 1 ≤ 0x8000000000000000 := by omega
    have hvalue : ofNeg (m + 1) = integer (.negSucc m) hrange := by
      rw [ofNeg, dif_pos hfits]
      rfl
    have hminus : Utf8.encode (toChars (integer (.negSucc m) hrange)) ++ rest =
        0x2D :: (Utf8.encode (natChars (m + 1)) ++ rest) := rfl
    have hwhole : Json.wholeNumber true (m + 1) = ofNeg (m + 1) := by
      rw [Json.wholeNumber, if_pos rfl, if_pos ⟨Nat.succ_pos m, hfits⟩]
    rw [hminus, Json.valueWith_minus,
      Json.unsignedNumber_natChars hrest true (Nat.lt_of_le_of_lt hfits (by decide)), hwhole, hvalue]
    rfl

end Number

namespace Json

open Utf8 (encode encodeChar)

/-! ## Strings -/

/-- The octet stands for itself in a string. -/
def IsPlain (b : UInt8) : Prop :=
  b ≠ 0x22 ∧ b ≠ 0x5C ∧ ¬ b < 0x20

theorem isPlain_of_toNat {b : UInt8} (hquote : b.toNat ≠ 0x22) (hslash : b.toNat ≠ 0x5C)
    (hcontrol : 0x20 ≤ b.toNat) : IsPlain b := by
  refine ⟨?_, ?_, ?_⟩
  · rintro rfl
    exact hquote rfl
  · rintro rfl
    exact hslash rfl
  · rw [UInt8.lt_iff_toNat_lt]
    exact Nat.not_lt.2 hcontrol

theorem stringBytes_plain {octets : Bytes} (h : ∀ b ∈ octets, IsPlain b) {fuel : Nat}
    {rest bytes after : Bytes} (hrest : stringBytes fuel rest = .ok (bytes, after)) :
    stringBytes (fuel + octets.length) (octets ++ rest) = .ok (octets ++ bytes, after) := by
  induction octets with
  | nil => exact hrest
  | cons b octets ih =>
    obtain ⟨⟨hquote, hslash, hcontrol⟩, h⟩ := List.forall_mem_cons.1 h
    rw [List.length_cons, ← Nat.add_assoc, List.cons_append, stringBytes, if_neg hquote,
      if_neg hslash, if_neg hcontrol, ih h]
    rfl

theorem encodeChar_plain {c : Char} (hquote : c ≠ '"') (hslash : c ≠ '\\')
    (hcontrol : 0x20 ≤ c.toNat) : ∀ b ∈ encodeChar c, IsPlain b := by
  intro b hb
  by_cases hascii : c.toNat < 0x80
  · rw [Utf8.encodeChar_ascii hascii, List.mem_singleton] at hb
    subst hb
    have hoctet : (UInt8.ofNat c.toNat).toNat = c.toNat := Utf8.toNat_octet (by omega)
    have hne : ∀ other : Char, c ≠ other → (UInt8.ofNat c.toNat).toNat ≠ other.toNat :=
      fun other h he => h (Char.toNat_inj.1 (hoctet.symm.trans he))
    exact isPlain_of_toNat (hne '"' hquote) (hne '\\' hslash) (hoctet.symm ▸ hcontrol)
  · have hlarge := Utf8.le_of_mem_encodeChar (Nat.not_lt.1 hascii) hb
    exact isPlain_of_toNat (by omega) (by omega) (by omega)

theorem hexValue?_hexDigitLower : ∀ d < 16,
    (encodeChar (Ascii.hexDigitLower d)).map (fun b => Ascii.hexValue? b.toNat) = [some d] := by
  decide

/-- The escape of a control character by its number is read as this character. -/
theorem escape_number {c : Char} (h : c.toNat < 0x20) (rest : Bytes) :
    escape (encode ['u', '0', '0', Ascii.hexDigitLower (c.toNat / 16),
      Ascii.hexDigitLower (c.toNat % 16)] ++ rest) = .ok (c, rest) := by
  obtain ⟨high, hhigh, hh⟩ := List.map_eq_singleton_iff.1
    (hexValue?_hexDigitLower (c.toNat / 16) (by omega))
  obtain ⟨low, hlow, hl⟩ := List.map_eq_singleton_iff.1
    (hexValue?_hexDigitLower (c.toNat % 16) (by omega))
  have hquad : hexQuad? 0x30 0x30 high low = some c.toNat := by
    have hzero : Ascii.hexValue? (0x30 : UInt8).toNat = some 0 := by decide
    have hvalue : ((0 * 16 + 0) * 16 + c.toNat / 16) * 16 + c.toNat % 16 = c.toNat := by omega
    simp only [hexQuad?, hzero, hh, hl, bind, Option.bind, pure, hvalue]
  have hoctets : encode ['u', '0', '0', Ascii.hexDigitLower (c.toNat / 16),
      Ascii.hexDigitLower (c.toNat % 16)] ++ rest = 0x75 :: 0x30 :: 0x30 :: high :: low :: rest := by
    simp only [Utf8.encode_cons, Utf8.encode_nil, hhigh, hlow]
    rfl
  have hescape : hexEscape (0x30 :: 0x30 :: high :: low :: rest) = .ok (c.toNat, rest) := by
    simp only [hexEscape, hquad]
  have hsmall : ¬ (0xDC00 ≤ c.toNat ∧ c.toNat ≤ 0xDFFF) ∧ ¬ (0xD800 ≤ c.toNat ∧ c.toNat ≤ 0xDBFF) := by
    omega
  rw [hoctets, escape, if_pos rfl, numberEscape, hescape]
  simp only [bind, Except.bind, hsmall.1, hsmall.2, if_false, Char.ofNat_toNat]
  rfl

/-- A character of a string either stands for itself, or for it stands an escape. -/
theorem escapeChar_cases (c : Char) :
    (escapeChar c = [c] ∧ ∀ b ∈ encodeChar c, IsPlain b) ∨
      ∃ name, escapeChar c = '\\' :: name ∧
        ∀ rest, escape (encode name ++ rest) = .ok (c, rest) := by
  by_cases hquote : c = '"'
  · subst hquote
    exact Or.inr ⟨['"'], rfl, fun _ => rfl⟩
  by_cases hslash : c = '\\'
  · subst hslash
    exact Or.inr ⟨['\\'], rfl, fun _ => rfl⟩
  by_cases hcontrol : c.toNat < 0x20
  · refine Or.inr ?_
    rw [escapeChar, if_neg hquote, if_neg hslash, if_pos hcontrol]
    have hnamed : ∀ {n : Nat}, c.toNat = n → Char.ofNat n = c := fun h => h ▸ Char.ofNat_toNat c
    split
    · next h => exact ⟨['b'], rfl, fun _ => by rw [← hnamed h]; rfl⟩
    · next h => exact ⟨['t'], rfl, fun _ => by rw [← hnamed h]; rfl⟩
    · next h => exact ⟨['n'], rfl, fun _ => by rw [← hnamed h]; rfl⟩
    · next h => exact ⟨['f'], rfl, fun _ => by rw [← hnamed h]; rfl⟩
    · next h => exact ⟨['r'], rfl, fun _ => by rw [← hnamed h]; rfl⟩
    · exact ⟨_, rfl, escape_number hcontrol⟩
  · refine Or.inl ⟨?_, encodeChar_plain hquote hslash (Nat.not_lt.1 hcontrol)⟩
    rw [escapeChar, if_neg hquote, if_neg hslash, if_neg hcontrol]

/-- The characters of a string are read back up to the closing quote. -/
theorem stringBytes_escaped (cs : List Char) (rest : Bytes) (fuel : Nat)
    (hfuel : (encode (cs.flatMap escapeChar)).length < fuel) :
    stringBytes fuel (encode (cs.flatMap escapeChar) ++ 0x22 :: rest) = .ok (encode cs, rest) := by
  induction cs generalizing fuel with
  | nil =>
    obtain ⟨fuel, rfl⟩ := Nat.exists_eq_succ_of_ne_zero (Nat.ne_of_gt hfuel)
    rfl
  | cons c cs ih =>
    rw [List.flatMap_cons, Utf8.encode_append, List.length_append] at hfuel
    rw [List.flatMap_cons, Utf8.encode_append, List.append_assoc, Utf8.encode_cons]
    -- a plain character takes as much fuel as it has octets, an escape takes one step only
    rcases escapeChar_cases c with ⟨hc, hplain⟩ | ⟨name, hc, hescape⟩
    · have hone : encode [c] = encodeChar c := List.append_nil _
      rw [hc, hone] at hfuel ⊢
      have hread := stringBytes_plain hplain (ih (fuel - (encodeChar c).length) (by omega))
      rwa [Nat.sub_add_cancel (by omega)] at hread
    · have hslash : encodeChar '\\' = [0x5C] := rfl
      rw [hc, Utf8.encode_cons, hslash, List.singleton_append, List.length_cons] at hfuel
      obtain ⟨fuel, rfl⟩ : ∃ n, fuel = n + 1 := ⟨fuel - 1, by omega⟩
      rw [hc, Utf8.encode_cons, hslash, List.singleton_append, List.cons_append, stringBytes,
        if_neg (by decide), if_pos rfl, hescape]
      simp only [bind, Except.bind, ih fuel (by omega)]
      rfl

/-- A string is read back after its opening quote. -/
theorem stringAfterQuote_stringChars (s : String) (rest : Bytes) :
    stringAfterQuote (encode (s.toList.flatMap escapeChar ++ ['"']) ++ rest) = .ok (s, rest) := by
  have hquote : encode ['"'] = [0x22] := rfl
  have hread := stringBytes_escaped s.toList rest
    ((encode (s.toList.flatMap escapeChar) ++ 0x22 :: rest).length + 1)
    (by rw [List.length_append]; omega)
  rw [Utf8.encode_append, hquote, List.append_assoc, List.singleton_append, stringAfterQuote, hread]
  simp only [bind, Except.bind]
  rw [← Bytes.ofString, Bytes.toString?_ofString]
  rfl

end Json

/-! ## First characters -/

namespace Number

theorem natChars_first (n : Nat) : ∃ c cs, natChars n = c :: cs ∧ c.isDigit = true := by
  obtain ⟨c, cs, hdigits⟩ := List.exists_cons_of_ne_nil
    (Nat.toDigits_ne_nil : natChars n ≠ [])
  refine ⟨c, cs, hdigits, Json.isDigit_of_mem_natChars (n := n) ?_⟩
  rw [natChars, hdigits]
  exact List.mem_cons_self

theorem decimalChars_first (d : Shortest.Decimal) :
    ∃ c cs, decimalChars d = c :: cs ∧ c.isDigit = true := by
  obtain ⟨c, cs, hdigits, hc⟩ := natChars_first d.digits
  simp only [decimalChars, hdigits]
  split
  · exact ⟨c, _, rfl, hc⟩
  · split
    -- the point stands behind one digit at least
    · next hpoint =>
      obtain ⟨places, hplaces⟩ : ∃ n, ((c :: cs).length + d.exponent).toNat = n + 1 :=
        ⟨((c :: cs).length + d.exponent).toNat - 1, by omega⟩
      rw [hplaces, List.take_succ_cons]
      exact ⟨c, _, rfl, hc⟩
    · split
      · exact ⟨'0', _, rfl, rfl⟩
      · cases cs with
        | nil => exact ⟨c, _, rfl, hc⟩
        | cons next cs => exact ⟨c, _, rfl, hc⟩

/-- A number begins with a digit or a minus sign. -/
theorem toChars_first (n : Number) :
    ∃ c cs, n.toChars = c :: cs ∧ (c = '-' ∨ c.isDigit = true) := by
  cases n with
  | integer value inRange =>
    cases value with
    | ofNat n =>
      obtain ⟨c, cs, hchars, hc⟩ := natChars_first n
      exact ⟨c, cs, hchars, Or.inr hc⟩
    | negSucc n => exact ⟨'-', _, rfl, Or.inl rfl⟩
  | float value =>
    simp only [toChars, floatChars]
    by_cases hnegative : value.negative = true
    · exact ⟨'-', _, if_pos hnegative, Or.inl rfl⟩
    · rw [if_neg hnegative]
      split
      · exact ⟨'0', _, rfl, Or.inr rfl⟩
      · obtain ⟨c, cs, hchars, hc⟩ := decimalChars_first (Shortest.digits value.rank)
        exact ⟨c, cs, hchars, Or.inr hc⟩

end Number

namespace Json

/-- What a document is written with first is no blank, and not what XML begins with. -/
theorem toChars_first (v : Json) :
    ∃ c cs, v.toChars = c :: cs ∧ Text.isBlank c = false ∧ c ≠ '<' := by
  cases v with
  | null => exact ⟨'n', _, rfl, by decide, by decide⟩
  | bool b =>
    cases b with
    | true => exact ⟨'t', _, rfl, by decide, by decide⟩
    | false => exact ⟨'f', _, rfl, by decide, by decide⟩
  | number n =>
    obtain ⟨c, cs, hchars, rfl | hdigit⟩ := n.toChars_first
    · exact ⟨'-', cs, hchars, by decide, by decide⟩
    · have hrange := toNat_of_isDigit hdigit
      refine ⟨c, cs, hchars, ?_, ?_⟩
      · simp [Text.isBlank]
        omega
      · rintro rfl
        cases hdigit
  | string s => exact ⟨'"', _, rfl, by decide, by decide⟩
  | array items => exact ⟨'[', _, rfl, by decide, by decide⟩
  | object members => exact ⟨'\x7b', _, rfl, by decide, by decide⟩

theorem toChars_ne_nil (v : Json) : v.toChars ≠ [] := by
  obtain ⟨c, cs, hchars, -⟩ := v.toChars_first
  rw [hchars]
  exact List.cons_ne_nil _ _

end Json

end MockProvider
