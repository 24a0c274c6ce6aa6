import MockProvider.Proofs.Json.Decimals
import MockProvider.Proofs.Json.RoundTrip

/-!
# Reading numbers

Every number that is written is read as a number, `Number.reread`, though a floating point number
need not be the same one: `Number.exists_readsAs`. So every value whose containers nest no deeper
than the reader allows is written as a document, that of the value with its numbers reread:
`parse_toBytes`.
-/

namespace MockProvider

namespace Json

open Binary64 (overflow)
open Utf8 (encode encodeChar)

/-- Digits count for as much as their first one. -/
theorem ten_pow_length_le {n : Nat} (h : n ≠ 0) : 10 ^ ((Number.natChars n).length - 1) ≤ n := by
  by_cases hone : (Number.natChars n).length - 1 = 0
  · rw [hone]
    exact Nat.one_le_iff_ne_zero.2 h
  · refine Nat.le_of_not_lt fun hlt => ?_
    have hle := (Nat.length_toDigits_le_iff (by decide) (Nat.pos_of_ne_zero hone)).2 hlt
    rw [← Number.natChars] at hle
    omega

/-- The shortest decimal of a number can be read, if it is far enough below the overflow. -/
theorem readable_of_value_le {d : Shortest.Decimal} (hne : 0 ≤ d.exponent → d.digits ≠ 0)
    (h : d.value ≤ (2 ^ 54 - 5) * 2 ^ (970 : Int)) : Readable d := by
  refine ⟨hne, fun negative significand k hle _ => ?_, ?_⟩
  · by_cases hdown : d.exponent + k ≤ 0
    · exact isSome_scale_of_nonpos _ _ hdown
    obtain ⟨m, hm⟩ := Int.eq_ofNat_of_zero_le (show 0 ≤ d.exponent + k by omega)
    rw [hm]
    refine isSome_scale_of_le negative ?_ 4
    have hle' : (significand * 10 ^ k : ℚ) ≤ d.digits := by exact_mod_cast hle
    calc (significand * 10 ^ m : ℚ) = significand * 10 ^ (d.exponent + k) := by
          rw [hm, zpow_natCast]
      _ = significand * 10 ^ k * 10 ^ d.exponent := by
          rw [zpow_add₀ (by norm_num), zpow_natCast]
          ring
      _ ≤ d.digits * 10 ^ d.exponent := mul_le_mul_of_nonneg_right hle' (by positivity)
      _ ≤ (2 ^ 54 - 5) * 2 ^ (970 : Int) := h
  · by_cases hzero : d.digits = 0
    · have hexp : ¬ 0 ≤ d.exponent := fun hexp => hne hexp hzero
      have hlength : (Number.natChars d.digits).length = 1 := by
        rw [hzero]
        rfl
      rw [hlength, exponentBound]
      omega
    -- the first digit alone is below the overflow, so it has at most so many places
    have hfirst : (10 ^ ((Number.natChars d.digits).length - 1) : ℚ) ≤ d.digits := by
      exact_mod_cast ten_pow_length_le hzero
    have hnext : overflow < 10 ^ ((maxPower + 1 : Nat) : Int) := by
      have hlt := (cast_overflow 970).symm.trans_lt (Nat.cast_lt.2 (lt_ten_pow (Nat.lt_succ_self _)))
      rwa [Nat.cast_pow, Nat.cast_ofNat, ← zpow_natCast] at hlt
    have hpower : (10 : ℚ) ^ (((Number.natChars d.digits).length - 1 : Nat) + d.exponent) <
        10 ^ ((maxPower + 1 : Nat) : Int) := by
      calc (10 : ℚ) ^ (((Number.natChars d.digits).length - 1 : Nat) + d.exponent)
          = 10 ^ ((Number.natChars d.digits).length - 1) * 10 ^ d.exponent := by
            rw [zpow_add₀ (by norm_num), zpow_natCast]
        _ ≤ d.digits * 10 ^ d.exponent := mul_le_mul_of_nonneg_right hfirst (by positivity)
        _ ≤ (2 ^ 54 - 5) * 2 ^ (970 : Int) := h
        _ < overflow := mul_lt_mul_of_pos_right (by norm_num) (by positivity)
        _ < 10 ^ ((maxPower + 1 : Nat) : Int) := hnext
    have hplaces := (zpow_lt_zpow_iff_right₀ (by norm_num)).1 hpower
    rw [maxPower] at hplaces
    rw [exponentBound]
    omega

/-- The last two magnitudes are so close to the overflow that their decimals have to be tried. -/
theorem readable_of_last {last digits : Nat}
    (h : Shortest.digits last = ⟨digits, 292⟩) (hlow : 10 ^ 16 ≤ digits) (hhigh : digits < 10 ^ 17)
    (hscale : ∀ negative, (scale (ofSignificand negative digits) 4 292).isSome = true) :
    Readable (Shortest.digits last) := by
  rw [h]
  refine ⟨fun _ => by simp only; omega, fun negative significand k _ hall => ?_, ?_⟩
  · obtain ⟨rfl, rfl⟩ := hall (by simp only; omega)
    exact hscale negative
  · have hlength : (Number.natChars digits).length ≤ 17 :=
      (Nat.length_toDigits_le_iff (by decide) (by decide)).2 hhigh
    rw [exponentBound]
    simp only
    omega

theorem readable_digits {rank : Nat} (hne : rank ≠ 0) (hlt : rank < Binary64.rankCount) :
    Readable (Shortest.digits rank) := by
  by_cases hinner : rank + 2 < Binary64.rankCount
  · exact readable_of_value_le (Shortest.digits_ne_zero hlt hne) (Shortest.value_digits_le hinner)
  have hlast : rank = Binary64.rankCount - 1 ∨ rank = Binary64.rankCount - 2 := by omega
  rcases hlast with rfl | rfl
  · have hdigits : Shortest.digits (Binary64.rankCount - 1) = ⟨17976931348623157, 292⟩ := by
      decide +kernel
    exact readable_of_last hdigits (by decide) (by decide) (by decide +kernel)
  · have hdigits : Shortest.digits (Binary64.rankCount - 2) = ⟨17976931348623155, 292⟩ := by
      decide +kernel
    exact readable_of_last hdigits (by decide) (by decide) (by decide +kernel)

/-! ## All numbers -/

/-- What is read as a number without sign is read as a value, also after a minus sign. -/
theorem exists_value_read {cs : List Char} {negative : Bool} {c : Char} {cs' : List Char}
    (hfirst : cs = c :: cs') (hc : c.isDigit = true)
    (hread : ∃ n, ∀ rest, Stops rest →
      unsignedNumber negative (encode cs ++ rest) = .ok (n, rest)) :
    ∃ m, ∀ nested rest, Stops rest →
      valueWith nested (encode (if negative then '-' :: cs else cs) ++ rest) =
        .ok (.number m, rest) := by
  obtain ⟨m, hm⟩ := hread
  refine ⟨m, fun nested rest hrest => ?_⟩
  have hnumber := hm rest hrest
  cases negative with
  | true =>
    have hminus : encode ('-' :: cs) ++ rest = 0x2D :: (encode cs ++ rest) := rfl
    rw [if_pos rfl, hminus, valueWith_minus, hnumber]
    rfl
  | false =>
    have hdigit : isDigit (UInt8.ofNat c.toNat) = true := by
      rw [isDigit, digit?_octet hc]
      rfl
    rw [hfirst, Utf8.encode_cons, encodeChar_digit hc, List.append_assoc,
      List.singleton_append] at hnumber
    rw [if_neg Bool.false_ne_true, hfirst, Utf8.encode_cons, encodeChar_digit hc,
      List.append_assoc, List.singleton_append, valueWith_digit hdigit, hnumber]
    rfl

end Json

/-- Every number that is written is read as some number. -/
theorem Number.exists_readsAs (n : Number) : ∃ m, n.ReadsAs m := by
  cases n with
  | integer value inRange =>
    exact ⟨_, IsInteger.rereads (n := .integer value inRange) trivial⟩
  | float x =>
    by_cases hzero : x.isZero = true
    · have hchars : floatChars x = if x.negative then '-' :: ['0', '.', '0'] else ['0', '.', '0'] := by
        rw [floatChars, if_pos hzero]
      have hdigit : ∀ c ∈ ['0'], c.isDigit = true := List.forall_mem_singleton.2 rfl
      have hread := Json.unsignedNumber_positional hdigit (fun _ => rfl) (by decide)
        (List.cons_ne_nil _ _) hdigit x.negative
      obtain ⟨m, hm⟩ := Json.exists_value_read rfl rfl hread
      refine ⟨m, fun nested rest hrest => ?_⟩
      rw [toChars, hchars]
      exact hm nested rest hrest
    · have hchars : floatChars x = if x.negative then
          '-' :: decimalChars (Shortest.digits x.rank) else decimalChars (Shortest.digits x.rank) := by
        rw [floatChars, if_neg hzero]
      have hrank : x.rank ≠ 0 := fun h => hzero (beq_iff_eq.2 h)
      obtain ⟨c, cs, hfirst, hc⟩ := decimalChars_first (Shortest.digits x.rank)
      obtain ⟨m, hm⟩ := Json.exists_value_read hfirst hc
        ((Json.readable_digits hrank x.rank_lt).unsignedNumber x.negative)
      refine ⟨m, fun nested rest hrest => ?_⟩
      rw [toChars, hchars]
      exact hm nested rest hrest

namespace Number

/-- The number that is read where a number was written. -/
def reread (n : Number) : Number :=
  match Json.parse (Json.number n).toBytes with
  | .ok (.number m) => m
  | _ => n

theorem ReadsAs.reread_eq {n m : Number} (h : n.ReadsAs m) : n.reread = m := by
  have hread : Json.parse (Json.number n).toBytes = .ok (.number m) := by
    rw [Json.toBytes, Json.Layout.toChars_eq]
    exact Json.Layout.compact.parse_write (f := fun _ => m) trivial (Nat.zero_le _) h
  rw [reread, hread]

theorem readsAs_reread (n : Number) : n.ReadsAs n.reread := by
  obtain ⟨m, hm⟩ := n.exists_readsAs
  rw [hm.reread_eq]
  exact hm

theorem IsInteger.reread_eq {n : Number} (h : n.IsInteger) : n.reread = n :=
  ReadsAs.reread_eq h.rereads

/-- A number that is there again after it was written and read twice. -/
def Returns (n : Number) : Prop :=
  n.reread.reread = n

instance (n : Number) : Decidable n.Returns :=
  inferInstanceAs (Decidable (n.reread.reread = n))

/-- Of two neighbours each is read where the other was written, so both return. -/
example :
    let low : Number := .float ⟨false, 8101201602319836832, by decide⟩
    let high : Number := .float ⟨false, 8101201602319836833, by decide⟩
    high.reread = low ∧ high.Returns ∧ low.Returns := by
  decide +kernel

end Number

namespace Json

/-- What a layout writes is a document, if its containers nest no deeper than the reader allows. -/
theorem Layout.parse_write_reread (l : Layout) {v : Json} (hordered : v.Ordered)
    (hdepth : v.depth ≤ maxDepth) :
    parse (Utf8.encode (l.write 0 v)) = .ok (v.mapNumbers Number.reread) :=
  l.parse_write hordered hdepth (numbers_of_forall Number.readsAs_reread v)

/-- A value is read from its octets, with the numbers that are read for its own. -/
theorem parse_toBytes {v : Json} (hordered : v.Ordered) (hdepth : v.depth ≤ maxDepth) :
    parse v.toBytes = .ok (v.mapNumbers Number.reread) := by
  rw [toBytes, Layout.toChars_eq v 0]
  exact Layout.compact.parse_write_reread hordered hdepth

/-- A value is read from its text over several lines, with the numbers that are read for its own. -/
theorem parseText_toPrettyText {v : Json} (hordered : v.Ordered) (hdepth : v.depth ≤ maxDepth) :
    parseText v.toPrettyText = .ok (v.mapNumbers Number.reread) := by
  rw [parseText, toPrettyText, Bytes.ofString, String.toList_ofList, Layout.prettyChars_eq v 0]
  exact Layout.lines.parse_write_reread hordered hdepth

theorem Storable.mapNumbers_reread {v : Json} (h : v.Storable) :
    v.mapNumbers Number.reread = v :=
  mapNumbers_eq_self (h.numbers.imp fun _ => Number.ReadsAs.reread_eq)

/-- A value that can be stored is read back from its text over several lines. -/
theorem Storable.parseText_toPrettyText {v : Json} (h : v.Storable) :
    parseText v.toPrettyText = .ok v := by
  rw [Json.parseText_toPrettyText h.ordered h.depth, h.mapNumbers_reread]

end Json

end MockProvider
