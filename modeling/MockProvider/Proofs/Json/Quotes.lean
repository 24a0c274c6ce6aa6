import MockProvider.Proofs.Json.Reading
import MockProvider.Proofs.Text.Leading

/-!
# Strings are shorter than their documents

A string that was read has fewer characters than the document that it was read from: the quotes do
not belong to it, and an escape stands for one character. So no text is a document that is read as
that text again: `parse_ofString_ne`. Characters are counted by their leading octets, of which
every reader leaves behind what it does not read.
-/

namespace MockProvider.Json

open Utf8 (leading)

/-! ## Escapes -/

theorem hexEscape_suffix {input rest : Bytes} {n : Nat} (h : hexEscape input = .ok (n, rest)) :
    rest <:+ input := by
  unfold hexEscape at h
  split at h
  · next a b c d after =>
    split at h
    · cases h
      exact ⟨[a, b, c, d], rfl⟩
    · cases h
  · cases h

theorem pairOctet_suffix {expected : UInt8} {input rest : Bytes}
    (h : pairOctet expected input = .ok rest) : rest <:+ input := by
  unfold pairOctet at h
  split at h
  · cases h
  · split at h
    · cases h
      exact List.suffix_cons _ _
    · cases h

theorem numberEscape_suffix {input rest : Bytes} {c : Char}
    (h : numberEscape input = .ok (c, rest)) : rest <:+ input := by
  obtain ⟨⟨n, after⟩, hfirst, h⟩ := bind_eq_ok.1 h
  have hafter := hexEscape_suffix hfirst
  simp only at h
  split at h
  · cases h
  · split at h
    · obtain ⟨slash, hslash, h⟩ := bind_eq_ok.1 h
      obtain ⟨mark, hmark, h⟩ := bind_eq_ok.1 h
      obtain ⟨⟨m, second⟩, hsecond, h⟩ := bind_eq_ok.1 h
      simp only at h
      split at h
      · obtain ⟨-, rfl⟩ := Prod.mk.inj (Except.ok.inj h)
        exact (hexEscape_suffix hsecond).trans ((pairOctet_suffix hmark).trans
          ((pairOctet_suffix hslash).trans hafter))
      · cases h
    · cases h
      exact hafter

theorem escape_suffix {input rest : Bytes} {c : Char} (h : escape input = .ok (c, rest)) :
    rest <:+ input := by
  unfold escape at h
  split at h
  · cases h
  · split at h
    · exact (numberEscape_suffix h).trans (List.suffix_cons _ _)
    · split at h
      · cases h
        exact List.suffix_cons _ _
      · cases h

/-! ## Strings -/

/-- The octets of a string and those behind it have fewer leading ones than the input. -/
theorem stringBytes_leading {fuel : Nat} {input bytes rest : Bytes}
    (h : stringBytes fuel input = .ok (bytes, rest)) :
    leading bytes + leading rest + 1 ≤ leading input := by
  induction fuel generalizing input bytes with
  | zero => cases h
  | succ fuel ih =>
    cases input with
    | nil => cases h
    | cons b input =>
      rw [stringBytes] at h
      split at h
      · next hquote =>
        cases h
        subst hquote
        have hleads : Utf8.isLeading 0x22 = true := by decide
        simp [Utf8.leading_cons, hleads]
      · split at h
        · next hslash =>
          subst hslash
          obtain ⟨⟨c, after⟩, hc, h⟩ := bind_eq_ok.1 h
          obtain ⟨⟨others, rest⟩, hothers, h⟩ := bind_eq_ok.1 h
          cases h
          have hleads : Utf8.isLeading 0x5C = true := by decide
          have hafter := Utf8.leading_le_of_suffix (escape_suffix hc)
          have hrest := ih hothers
          rw [Utf8.leading_append, Utf8.leading_encodeChar, Utf8.leading_cons, if_pos hleads]
          omega
        · split at h
          · cases h
          · obtain ⟨⟨others, rest⟩, hothers, h⟩ := bind_eq_ok.1 h
            cases h
            have hrest := ih hothers
            rw [Utf8.leading_cons, Utf8.leading_cons]
            omega

theorem stringAfterQuote_length {input rest : Bytes} {s : String}
    (h : stringAfterQuote input = .ok (s, rest)) : s.toList.length + 1 ≤ leading input := by
  obtain ⟨⟨bytes, after⟩, hbytes, h⟩ := bind_eq_ok.1 h
  have hleading := stringBytes_leading hbytes
  simp only at h
  split at h
  · next text htext =>
    cases h
    obtain ⟨cs, hcs, rfl⟩ := Option.map_eq_some_iff.1 htext
    have hlength := Utf8.length_le_of_decode? hcs
    rw [String.toList_ofList]
    omega
  · cases h

/-! ## Documents -/

/-- What is read as a string stands between quotes. -/
theorem stringAfterQuote_of_valueWith {nested : Option ValueReader} {input rest : Bytes}
    {s : String} (h : valueWith nested input = .ok (.string s, rest)) :
    ∃ inner, skipBlanks input = 0x22 :: inner ∧ stringAfterQuote inner = .ok (s, rest) := by
  rw [valueWith] at h
  split at h
  · cases h
  · next b inner hinput =>
    by_cases hquote : b = 0x22
    · subst hquote
      rw [if_neg (by decide), if_neg (by decide), if_neg (by decide), if_neg (by decide),
        if_neg (by decide), if_pos rfl] at h
      obtain ⟨⟨text, after⟩, htext, h⟩ := bind_eq_ok.1 h
      cases h
      exact ⟨inner, hinput, htext⟩
    -- a value that begins with any other octet is no string
    · repeat' split at h
      all_goals
        first
          | exact absurd ‹_› hquote
          | cases h
          | (obtain ⟨read, _, h⟩ := bind_eq_ok.1 h
             cases h)

/-- No text is a document that is read as that text. -/
theorem parse_ofString_ne (s : String) : parse (Bytes.ofString s) ≠ .ok (.string s) := by
  intro h
  rw [parse, document] at h
  split at h
  · cases h
  · next v rest hv =>
    split at h
    · cases h
      obtain ⟨inner, hinner, hs⟩ := stringAfterQuote_of_valueWith hv
      have hlength := stringAfterQuote_length hs
      have hsuffix : skipBlanks (Bytes.ofString s) <:+ Bytes.ofString s := List.dropWhile_suffix _
      rw [hinner] at hsuffix
      have hleading := Utf8.leading_le_of_suffix hsuffix
      rw [Bytes.ofString, Utf8.leading_encode, Utf8.leading_cons] at hleading
      omega
    · cases h

end MockProvider.Json
