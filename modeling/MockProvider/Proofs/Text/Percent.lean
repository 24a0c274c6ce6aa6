import MockProvider.Proofs.Text.Utf8
import MockProvider.Text.Percent

/-!
# Reading back percent escapes

What is written for one octet is read as that octet, whatever comes after it; by induction the
octets of a text are read back. Only plain characters and escapes are written, so that no separator
of a query string is among them.
-/

namespace MockProvider.Percent

/-! ## One octet -/

/-- An octet that is no percent sign stands for itself. -/
theorem decodeBytes_cons {b : UInt8} (h : b ≠ 37) (rest : Bytes) :
    decodeBytes (b :: rest) = b :: decodeBytes rest := by
  match rest with
  | [] => rfl
  | [_] => rfl
  | _ :: _ :: _ => rw [decodeBytes, if_neg h]

theorem decodeBytes_escape {b c : UInt8} {high low : Nat}
    (hhigh : Ascii.hexValue? b.toNat = some high) (hlow : Ascii.hexValue? c.toNat = some low)
    (rest : Bytes) :
    decodeBytes (37 :: b :: c :: rest) = UInt8.ofNat (high * 16 + low) :: decodeBytes rest := by
  rw [decodeBytes, if_pos rfl, hhigh, hlow]

theorem hexDigit_cases {n : Nat} (h : n < 16) :
    Ascii.hexValue? (Ascii.hexDigit n).toNat = some n ∧ (Ascii.hexDigit n).toNat < 0x80 ∧
      (Ascii.hexDigit n) ∉ ['&', '+', '='] := by
  have hall : ∀ n < 16, Ascii.hexValue? (Ascii.hexDigit n).toNat = some n ∧
      (Ascii.hexDigit n).toNat < 0x80 ∧ (Ascii.hexDigit n) ∉ ['&', '+', '='] := by decide
  exact hall n h

theorem toNat_lt_of_isPlain {b : UInt8} (h : isPlain b = true) : b.toNat < 0x80 := by
  simp only [isPlain, Bool.or_eq_true, Bool.and_eq_true, decide_eq_true_eq, beq_iff_eq] at h
  omega

/-- An octet is the code point of a character. -/
theorem toNat_ofNat (b : UInt8) : (Char.ofNat b.toNat).toNat = b.toNat := by
  have hb := b.toNat_lt
  have hvalid : b.toNat.isValidChar := Or.inl (by omega)
  rw [Char.ofNat, dif_pos hvalid]
  rfl

/-- What is written for an octet is read as that octet. -/
theorem decodeBytes_encodeByte (b : UInt8) (rest : Bytes) :
    decodeBytes (Utf8.encode (encodeByte b) ++ rest) = b :: decodeBytes rest := by
  rw [encodeByte]
  split
  · next hplain =>
    have hlt := toNat_lt_of_isPlain hplain
    have hoctets : Utf8.encode [Char.ofNat b.toNat] = [b] := by
      rw [Utf8.encode_cons, Utf8.encodeChar_ascii (by rwa [toNat_ofNat]), toNat_ofNat,
        UInt8.ofNat_toNat]
      rfl
    have hne : b ≠ 37 := by
      rintro rfl
      cases hplain
    rw [hoctets]
    exact decodeBytes_cons hne rest
  · have hb := b.toNat_lt
    obtain ⟨hhigh, hhigh', -⟩ := hexDigit_cases (n := b.toNat / 16) (by omega)
    obtain ⟨hlow, hlow', -⟩ := hexDigit_cases (n := b.toNat % 16) (by omega)
    have hoctets : Utf8.encode
        ['%', Ascii.hexDigit (b.toNat / 16), Ascii.hexDigit (b.toNat % 16)] =
          [37, UInt8.ofNat (Ascii.hexDigit (b.toNat / 16)).toNat,
            UInt8.ofNat (Ascii.hexDigit (b.toNat % 16)).toNat] := by
      rw [Utf8.encode_cons, Utf8.encode_cons, Utf8.encode_cons, Utf8.encodeChar_ascii hhigh',
        Utf8.encodeChar_ascii hlow']
      rfl
    rw [← Utf8.toNat_octet (Nat.lt_trans hhigh' (by decide))] at hhigh
    rw [← Utf8.toNat_octet (Nat.lt_trans hlow' (by decide))] at hlow
    rw [hoctets]
    refine (decodeBytes_escape hhigh hlow rest).trans ?_
    rw [Nat.div_add_mod', UInt8.ofNat_toNat]

/-! ## Texts -/

theorem decodeBytes_encode (bytes : Bytes) :
    decodeBytes (Utf8.encode (bytes.flatMap encodeByte)) = bytes := by
  induction bytes with
  | nil => rfl
  | cons b bytes ih => rw [List.flatMap_cons, Utf8.encode_append, decodeBytes_encodeByte, ih]

/-- A text is read back from its escapes. -/
theorem decode?_encode (s : String) : decode? (encode s) = some s := by
  rw [decode?, Bytes.ofString, encode, String.toList_ofList, decodeBytes_encode,
    Bytes.toString?_ofString]

/-- The separators of query strings are not among what is written. -/
theorem not_mem_encodeByte {c : Char} (h : c ∈ ['&', '+', '=']) (b : UInt8) :
    c ∉ encodeByte b := by
  intro hc
  rw [encodeByte] at hc
  split at hc
  · next hplain =>
    obtain rfl := List.mem_singleton.1 hc
    -- the octets of the separators are not plain, so none of them is written as it is
    have hescaped : (['&', '+', '='].all fun c => !isPlain (UInt8.ofNat c.toNat)) = true := by
      decide
    have hfalse := List.all_eq_true.1 hescaped _ h
    rw [toNat_ofNat, UInt8.ofNat_toNat, hplain] at hfalse
    cases hfalse
  · have hb := b.toNat_lt
    obtain ⟨-, -, hhigh⟩ := hexDigit_cases (n := b.toNat / 16) (by omega)
    obtain ⟨-, -, hlow⟩ := hexDigit_cases (n := b.toNat % 16) (by omega)
    rcases List.mem_cons.1 hc with rfl | hc
    · revert h
      decide
    · rcases List.mem_cons.1 hc with rfl | hc
      · exact hhigh h
      · exact hlow (List.mem_singleton.1 hc ▸ h)

theorem not_mem_encode {c : Char} (h : c ∈ ['&', '+', '=']) (s : String) :
    c ∉ (encode s).toList := by
  rw [encode, String.toList_ofList, List.mem_flatMap]
  rintro ⟨b, -, hc⟩
  exact not_mem_encodeByte h b hc

end MockProvider.Percent
