import Mathlib.Algebra.Order.Field.Power
import Mathlib.Tactic.Linarith
import Mathlib.Tactic.Positivity
import Mathlib.Tactic.Ring
import MockProvider.Decimal.Binary64

/-!
# Rounding errors

Rounding a fraction leaves it within half a unit of its last place, so for fractions from one on
the magnitude grows by a factor of `1 + 2⁻⁵³` at most (`magnitude_nearestRank_le`). A fraction
below the middle between the greatest magnitude and the next power of two is rounded to a finite
rank (`nearestRank_lt_rankCount`).
-/

namespace MockProvider.Binary64

/-- The magnitude of a rank. -/
def magnitude (rank : Nat) : ℚ :=
  (parts rank).1 * 2 ^ (parts rank).2

/-! ## Fractions -/

theorem scaled_div (num den : Nat) (e : Int) :
    ((scaled num den e).1 : ℚ) / (scaled num den e).2 = num / den * 2 ^ (-e) := by
  cases e with
  | ofNat k =>
    simp only [scaled, Nat.shiftLeft_eq, Nat.cast_mul, Nat.cast_pow, Nat.cast_ofNat,
      Int.ofNat_eq_natCast, zpow_neg, zpow_natCast]
    rw [div_mul_eq_div_div, div_eq_mul_inv (_ / _)]
  | negSucc k =>
    simp only [scaled, Nat.shiftLeft_eq, Nat.cast_mul, Nat.cast_pow, Nat.cast_ofNat,
      Int.neg_negSucc, zpow_natCast]
    rw [mul_div_right_comm]

theorem scaled_den_pos {den : Nat} (hden : 0 < den) (num : Nat) (e : Int) :
    0 < (scaled num den e).2 := by
  cases e with
  | ofNat k =>
    rw [scaled, Nat.shiftLeft_eq]
    positivity
  | negSucc k => exact hden

/-- A fraction is at most one half away from the whole number that it is rounded to. -/
theorem abs_roundDiv_sub_le {den : Nat} (hden : 0 < den) (num : Nat) :
    |(roundDiv num den : ℚ) - num / den| ≤ 1 / 2 := by
  have hwhole : den * (num / den) + num % den = num := Nat.div_add_mod num den
  have hrest : num % den < den := Nat.mod_lt num hden
  have hsucc : den * (num / den + 1) = den * (num / den) + den := Nat.mul_succ _ _
  have hbounds : 2 * (den * roundDiv num den) ≤ 2 * num + den ∧
      2 * num ≤ 2 * (den * roundDiv num den) + den := by
    simp only [roundDiv]
    split <;> omega
  have hden' : (0 : ℚ) < den := Nat.cast_pos.2 hden
  have hupper : (2 * (den * roundDiv num den) : ℚ) ≤ 2 * num + den := by exact_mod_cast hbounds.1
  have hlower : (2 * num : ℚ) ≤ 2 * (den * roundDiv num den) + den := by exact_mod_cast hbounds.2
  have hquotient : (num : ℚ) = num / den * den := (div_mul_cancel₀ _ hden'.ne').symm
  rw [abs_le]
  constructor
  · refine le_of_mul_le_mul_right ?_ hden'
    rw [sub_mul, ← hquotient]
    linarith
  · refine le_of_mul_le_mul_right ?_ hden'
    rw [sub_mul, ← hquotient]
    linarith

theorem two_pow_log2_le {n : Nat} (h : n ≠ 0) : (2 : ℚ) ^ (n.log2 : Int) ≤ n := by
  rw [zpow_natCast]
  exact_mod_cast Nat.log2_self_le h

theorem lt_two_pow_log2 (n : Nat) : (n : ℚ) < 2 ^ ((n.log2 : Int) + 1) := by
  have hlt : n < 2 ^ (n.log2 + 1) := Nat.lt_log2_self
  have hcast : ((n.log2 : Int) + 1) = ((n.log2 + 1 : Nat) : Int) := rfl
  rw [hcast, zpow_natCast]
  exact_mod_cast hlt

/-- A fraction lies between powers of two. -/
theorem log2_sub_bounds {num den : Nat} (hnum : num ≠ 0) (hden : 0 < den) :
    (2 : ℚ) ^ ((num.log2 : Int) - den.log2 - 1) ≤ num / den ∧
      (num / den : ℚ) < 2 ^ ((num.log2 : Int) - den.log2 + 1) := by
  have hden' : (0 : ℚ) < den := Nat.cast_pos.2 hden
  have hnumLow := two_pow_log2_le hnum
  have hnumHigh := lt_two_pow_log2 num
  have hdenLow := two_pow_log2_le hden.ne'
  have hdenHigh := lt_two_pow_log2 den
  constructor
  · rw [le_div_iff₀ hden']
    calc (2 : ℚ) ^ ((num.log2 : Int) - den.log2 - 1) * den
        ≤ 2 ^ ((num.log2 : Int) - den.log2 - 1) * 2 ^ ((den.log2 : Int) + 1) :=
          mul_le_mul_of_nonneg_left hdenHigh.le (by positivity)
      _ = 2 ^ (num.log2 : Int) := by
          rw [← zpow_add₀ two_ne_zero]
          congr 1
          ring
      _ ≤ num := hnumLow
  · rw [div_lt_iff₀ hden']
    calc (num : ℚ) < 2 ^ ((num.log2 : Int) + 1) := hnumHigh
      _ = 2 ^ ((num.log2 : Int) - den.log2 + 1) * 2 ^ (den.log2 : Int) := by
          rw [← zpow_add₀ two_ne_zero]
          congr 1
          ring
      _ ≤ 2 ^ ((num.log2 : Int) - den.log2 + 1) * den :=
          mul_le_mul_of_nonneg_left hdenLow (by positivity)

/-! ## Ranks -/

/-- The rank of a significand with a power of two has their product as its magnitude, also where
    the significand is one that goes over into the next power. -/
theorem magnitude_of_parts {e : Int} (he : -1074 ≤ e) {m : Nat} (hm : m ≤ 2 ^ 53)
    (hnormal : e = -1074 ∨ 2 ^ 52 ≤ m) :
    magnitude ((e + 1074).toNat <<< 52 + m) = m * 2 ^ e := by
  obtain ⟨k, hk⟩ : ∃ k : Nat, e = (k : Int) - 1074 := ⟨(e + 1074).toNat, by omega⟩
  have hrank : (e + 1074).toNat <<< 52 + m = k * 4503599627370496 + m := by
    rw [hk, Nat.shiftLeft_eq]
    norm_num
  rw [hrank, magnitude, parts]
  by_cases hsmall : k * 4503599627370496 + m < 0x10000000000000
  · obtain rfl : k = 0 := by omega
    rw [if_pos hsmall, hk]
    simp
  · rw [if_neg hsmall, Nat.shiftRight_eq_div_pow]
    by_cases hover : m = 2 ^ 53
    · have hmod : (k * 4503599627370496 + m) % 0x10000000000000 + 0x10000000000000 = 2 ^ 52 := by
        omega
      have hdiv : (k * 4503599627370496 + m) / 2 ^ 52 = k + 2 := by omega
      have hexp : (((k + 2 : Nat) : Int) - 1075) = e + 1 := by omega
      rw [hmod, hdiv, hexp, hover, zpow_add_one₀ two_ne_zero]
      push_cast
      ring
    · have hlow : 2 ^ 52 ≤ m := by omega
      have hmod : (k * 4503599627370496 + m) % 0x10000000000000 + 0x10000000000000 = m := by omega
      have hdiv : (k * 4503599627370496 + m) / 2 ^ 52 = k + 1 := by omega
      have hexp : (((k + 1 : Nat) : Int) - 1075) = e := by omega
      rw [hmod, hdiv, hexp]

/-- What a fraction is rounded to: a significand in units of a power of two, which the fraction is
    at most half a unit away from. -/
structure Rounded (num den : Nat) (e : Int) (m : Nat) : Prop where
  least : -1074 ≤ e
  below : (num / den : ℚ) < 2 ^ 53 * 2 ^ e
  normal : e = -1074 ∨ (2 ^ 52 * 2 ^ e : ℚ) ≤ num / den
  error : |(m * 2 ^ e : ℚ) - num / den| ≤ 2 ^ e / 2
  rank : nearestRank num den = (e + 1074).toNat <<< 52 + m

theorem rounded_of_scaled {num den : Nat} (hden : 0 < den) {e : Int} (hleast : -1074 ≤ e)
    (hbelow : (num / den : ℚ) < 2 ^ 53 * 2 ^ e)
    (hnormal : e = -1074 ∨ (2 ^ 52 * 2 ^ e : ℚ) ≤ num / den)
    (hrank : nearestRank num den =
      (e + 1074).toNat <<< 52 + roundDiv (scaled num den e).1 (scaled num den e).2) :
    Rounded num den e (roundDiv (scaled num den e).1 (scaled num den e).2) := by
  refine ⟨hleast, hbelow, hnormal, ?_, hrank⟩
  have herror := abs_roundDiv_sub_le (scaled_den_pos hden num e) (scaled num den e).1
  have hpos : (0 : ℚ) < 2 ^ e := by positivity
  rw [scaled_div] at herror
  have hunit : ((roundDiv (scaled num den e).1 (scaled num den e).2 * 2 ^ e : ℚ) - num / den) =
      (roundDiv (scaled num den e).1 (scaled num den e).2 - num / den * 2 ^ (-e)) * 2 ^ e := by
    rw [sub_mul, mul_assoc _ ((2 : ℚ) ^ (-e)), ← zpow_add₀ two_ne_zero, neg_add_cancel, zpow_zero,
      mul_one]
  rw [hunit, abs_mul, abs_of_pos hpos]
  calc _ ≤ 1 / 2 * (2 : ℚ) ^ e := mul_le_mul_of_nonneg_right herror hpos.le
    _ = 2 ^ e / 2 := by ring

theorem exists_rounded {num den : Nat} (hnum : num ≠ 0) (hden : 0 < den) :
    ∃ e m, Rounded num den e m := by
  obtain ⟨hlow, hhigh⟩ := log2_sub_bounds hnum hden
  have hden' : (0 : ℚ) < den := Nat.cast_pos.2 hden
  -- the estimate of the power of two is right or one too small
  let guess : Int := max ((num.log2 : Int) - den.log2 - 53) (-1074)
  have hguess : -1074 ≤ guess := le_max_right _ _
  have hbelow : (num / den : ℚ) < 2 ^ 53 * 2 ^ (guess + 1) := by
    calc (num / den : ℚ) < 2 ^ ((num.log2 : Int) - den.log2 + 1) := hhigh
      _ ≤ 2 ^ ((53 : Int) + (guess + 1)) :=
        zpow_le_zpow_right₀ one_le_two (by have := le_max_left ((num.log2 : Int) - den.log2 - 53) (-1074); omega)
      _ = 2 ^ 53 * 2 ^ (guess + 1) := by
        rw [zpow_add₀ two_ne_zero]
        rfl
  have hquotient : (scaled num den guess).1 / (scaled num den guess).2 < 0x20000000000000 ↔
      (num / den : ℚ) < 2 ^ 53 * 2 ^ guess := by
    have hpos : (0 : ℚ) < (scaled num den guess).2 :=
      Nat.cast_pos.2 (scaled_den_pos hden num guess)
    have hpow : (0 : ℚ) < 2 ^ guess := by positivity
    have hscaled := scaled_div num den guess
    rw [zpow_neg, ← div_eq_mul_inv] at hscaled
    rw [Nat.div_lt_iff_lt_mul (scaled_den_pos hden num guess), ← div_lt_iff₀ hpow, ← hscaled,
      div_lt_iff₀ hpos]
    norm_cast
  by_cases hfits : (scaled num den guess).1 / (scaled num den guess).2 < 0x20000000000000
  · refine ⟨guess, _, rounded_of_scaled hden hguess (hquotient.1 hfits) ?_ ?_⟩
    · rcases max_cases ((num.log2 : Int) - den.log2 - 53) (-1074) with ⟨hmax, -⟩ | ⟨hmax, -⟩
      · refine Or.inr (le_trans ?_ hlow)
        have hexp : (num.log2 : Int) - den.log2 - 1 = 52 + guess := by
          simp only [guess, hmax]
          ring
        rw [hexp, zpow_add₀ two_ne_zero]
        exact le_rfl
      · exact Or.inl hmax
    · simp only [nearestRank, if_neg hnum]
      rw [if_pos hfits]
  · refine ⟨guess + 1, _, rounded_of_scaled hden (by omega) hbelow (Or.inr ?_) ?_⟩
    · have hge := not_lt.1 (mt hquotient.2 hfits)
      calc (2 ^ 52 * 2 ^ (guess + 1) : ℚ) = 2 ^ 53 * 2 ^ guess := by
            rw [zpow_add_one₀ two_ne_zero]
            ring
        _ ≤ num / den := hge
    · simp only [nearestRank, if_neg hnum]
      rw [if_neg hfits]

namespace Rounded

variable {num den : Nat} {e : Int} {m : Nat}

theorem le_two_pow (h : Rounded num den e m) : m ≤ 2 ^ 53 := by
  have hpow : (0 : ℚ) < 2 ^ e := by positivity
  have hlt : (m * 2 ^ e : ℚ) < (2 ^ 53 + 1) * 2 ^ e := by
    have := (abs_le.1 h.error).2
    have := h.below
    linarith
  have hm : (m : ℚ) < 2 ^ 53 + 1 := lt_of_mul_lt_mul_right hlt hpow.le
  have hm' : m < 2 ^ 53 + 1 := by exact_mod_cast hm
  omega

theorem normal_significand (h : Rounded num den e m) : e = -1074 ∨ 2 ^ 52 ≤ m := by
  refine h.normal.imp_right fun hnormal => ?_
  have hpow : (0 : ℚ) < 2 ^ e := by positivity
  have hlt : ((2 ^ 52 - 1) * 2 ^ e : ℚ) < m * 2 ^ e := by
    have := (abs_le.1 h.error).1
    linarith
  have hm : (2 ^ 52 - 1 : ℚ) < m := lt_of_mul_lt_mul_right hlt hpow.le
  have hm' : (2 ^ 52 : ℚ) < m + 1 := by linarith
  have hm'' : 2 ^ 52 < m + 1 := by exact_mod_cast hm'
  omega

theorem magnitude_eq (h : Rounded num den e m) :
    magnitude (nearestRank num den) = m * 2 ^ e := by
  rw [h.rank, magnitude_of_parts h.least h.le_two_pow h.normal_significand]

end Rounded

/-- The middle between the greatest magnitude and the next power of two, from where on fractions are
    rounded to infinity. -/
def overflow : ℚ := (2 ^ 54 - 1) * 2 ^ (970 : Int)

theorem two_zpow_971 : (2 : ℚ) ^ (971 : Int) = 2 * 2 ^ (970 : Int) :=
  zpow_one_add₀ two_ne_zero 970

theorem nearestRank_lt_rankCount {num den : Nat} (hden : 0 < den) (h : (num / den : ℚ) < overflow) :
    nearestRank num den < rankCount := by
  have hcount : rankCount = 2047 * 4503599627370496 := rfl
  by_cases hnum : num = 0
  · rw [hnum, nearestRank, if_pos rfl]
    decide
  obtain ⟨e, m, hrounded⟩ := exists_rounded hnum hden
  have hm := hrounded.le_two_pow
  have hleast := hrounded.least
  rw [hrounded.rank, hcount, Nat.shiftLeft_eq]
  by_cases hsmall : e ≤ 970
  · have hexp : (e + 1074).toNat ≤ 2044 := by omega
    have hmul := Nat.mul_le_mul_right (2 ^ 52) hexp
    omega
  -- from here on the power of two is the last one, and the significand does not go over into the next
  have hpow : (0 : ℚ) < 2 ^ e := by positivity
  have hlow : (2 ^ 52 * 2 ^ e : ℚ) ≤ num / den := hrounded.normal.resolve_left (by omega)
  have hlast : e = 971 := by
    by_contra hne
    have hge : (2 : ℚ) ^ ((1 : Int) + 971) ≤ 2 ^ e := zpow_le_zpow_right₀ one_le_two (by omega)
    rw [zpow_one_add₀ two_ne_zero, two_zpow_971] at hge
    have hunit : (0 : ℚ) < 2 ^ (970 : Int) := by positivity
    rw [overflow] at h
    generalize (2 : ℚ) ^ (970 : Int) = unit at hge hunit h
    linarith
  subst hlast
  have hlt : (m * 2 ^ (971 : Int) : ℚ) < 2 ^ 53 * 2 ^ (971 : Int) := by
    have hupper := (abs_le.1 hrounded.error).2
    rw [overflow] at h
    rw [two_zpow_971] at hupper ⊢
    linarith
  have hsig : (m : ℚ) < 2 ^ 53 := lt_of_mul_lt_mul_right hlt hpow.le
  have hsig' : m < 2 ^ 53 := by exact_mod_cast hsig
  have hexp : ((971 : Int) + 1074).toNat = 2045 := rfl
  rw [hexp]
  omega

/-- Rounding makes a fraction from one on greater by one part in `2 ^ 53` at most. -/
theorem magnitude_nearestRank_le {num den : Nat} (hden : 0 < den) (h : den ≤ num) :
    magnitude (nearestRank num den) ≤ (1 + 1 / 2 ^ 53) * (num / den) := by
  obtain ⟨e, m, hrounded⟩ := exists_rounded (Nat.ne_of_gt (Nat.lt_of_lt_of_le hden h)) hden
  have hone : (1 : ℚ) ≤ num / den := (one_le_div (Nat.cast_pos.2 hden)).2 (Nat.cast_le.2 h)
  have hlow : (2 ^ 52 * 2 ^ e : ℚ) ≤ num / den := by
    refine hrounded.normal.elim (fun hsmall => ?_) id
    refine le_trans ?_ hone
    calc (2 ^ 52 * 2 ^ e : ℚ) ≤ 2 ^ 52 * 2 ^ (-52 : Int) :=
          mul_le_mul_of_nonneg_left (zpow_le_zpow_right₀ one_le_two (by omega)) (by positivity)
      _ = 1 := by norm_num
  rw [hrounded.magnitude_eq]
  have hupper := (abs_le.1 hrounded.error).2
  have hhalf : (2 ^ e / 2 : ℚ) ≤ 1 / 2 ^ 53 * (num / den) := by
    calc (2 ^ e / 2 : ℚ) = 1 / 2 ^ 53 * (2 ^ 52 * 2 ^ e) := by ring
      _ ≤ 1 / 2 ^ 53 * (num / den) := mul_le_mul_of_nonneg_left hlow (by positivity)
  linarith

/-- Rounding does not take a fraction below one that is not. -/
theorem one_le_magnitude_nearestRank {num den : Nat} (hden : 0 < den) (h : den ≤ num) :
    1 ≤ magnitude (nearestRank num den) := by
  obtain ⟨e, m, hrounded⟩ := exists_rounded (Nat.ne_of_gt (Nat.lt_of_lt_of_le hden h)) hden
  have hone : (1 : ℚ) ≤ num / den := (one_le_div (Nat.cast_pos.2 hden)).2 (Nat.cast_le.2 h)
  have hexp : -52 ≤ e := by
    by_contra hlt
    have hpow : (2 : ℚ) ^ e ≤ 2 ^ (-53 : Int) := zpow_le_zpow_right₀ one_le_two (by omega)
    have hbelow := hrounded.below
    have hunit : (2 ^ 53 * 2 ^ (-53 : Int) : ℚ) = 1 := by norm_num
    linarith
  have hsig : (2 ^ 52 : ℚ) ≤ m := by
    exact_mod_cast hrounded.normal_significand.resolve_left (by omega)
  rw [hrounded.magnitude_eq]
  calc (1 : ℚ) = 2 ^ 52 * 2 ^ (-52 : Int) := by norm_num
    _ ≤ m * 2 ^ e :=
      mul_le_mul hsig (zpow_le_zpow_right₀ one_le_two hexp) (by positivity) (by positivity)

/-! ## Numbers -/

/-- The magnitude of a number as a fraction. -/
theorem ratio_div (x : Binary64) : (x.ratio.1 / x.ratio.2 : ℚ) = magnitude x.rank := by
  rw [ratio, magnitude]
  rcases parts x.rank with ⟨m, k | k⟩
  · simp [Nat.shiftLeft_eq]
  · simp only [Nat.shiftLeft_eq, one_mul, Nat.cast_pow, Nat.cast_ofNat, zpow_negSucc]
    rw [div_eq_mul_inv]

theorem ratio_den_pos (x : Binary64) : 0 < x.ratio.2 := by
  rw [ratio]
  rcases parts x.rank with ⟨m, k | k⟩
  · exact Nat.one_pos
  · simp only [Nat.shiftLeft_eq, one_mul]
    positivity

theorem magnitude_nonneg (rank : Nat) : 0 ≤ magnitude rank := by
  rw [magnitude]
  positivity

/-- A significand of 53 bits with the greatest power of two is the most that a rank stands for. -/
theorem magnitude_le (rank gap : Nat) (hgap : gap < 4503599627370496)
    (h : rank + gap < rankCount) : magnitude rank ≤ (2 ^ 53 - 1 - gap) * 2 ^ (971 : Int) := by
  have hcount : rankCount = 2047 * 4503599627370496 := rfl
  have hgap' : (gap + 1 : ℚ) ≤ 4503599627370496 := by exact_mod_cast hgap
  have hpow : (0 : ℚ) < 2 ^ (970 : Int) := by positivity
  -- below the last block a whole significand is lost, which is more than the gap
  have hblock : ∀ (m : Nat) (e : Int), m < 2 ^ 53 → e ≤ 970 →
      (m * 2 ^ e : ℚ) ≤ (2 ^ 53 - 1 - gap) * 2 ^ (971 : Int) := by
    intro m e hm he
    have hm' : (m : ℚ) ≤ 2 ^ 53 - 1 := by
      have : (m : ℚ) + 1 ≤ 2 ^ 53 := by exact_mod_cast hm
      linarith
    calc (m * 2 ^ e : ℚ) ≤ (2 ^ 53 - 1) * 2 ^ (970 : Int) :=
          mul_le_mul hm' (zpow_le_zpow_right₀ one_le_two he) (by positivity) (by norm_num)
      _ ≤ ((2 ^ 53 - 1 - gap) * 2) * 2 ^ (970 : Int) :=
          mul_le_mul_of_nonneg_right (by linarith) hpow.le
      _ = (2 ^ 53 - 1 - gap) * 2 ^ (971 : Int) := by rw [two_zpow_971, mul_assoc]
  rw [magnitude, parts]
  split
  · next hsmall => exact hblock _ _ (by omega) (show (-1074 : Int) ≤ 970 by decide)
  · next hlarge =>
    simp only [Nat.shiftRight_eq_div_pow]
    by_cases hlast : rank / 2 ^ 52 < 2046
    · exact hblock _ _ (by omega) (by omega)
    · have hdiv : rank / 2 ^ 52 = 2046 := by omega
      have hmod : rank % 0x10000000000000 + 0x10000000000000 + 1 + gap ≤ 2 ^ 53 := by omega
      have hmod' : ((rank % 0x10000000000000 + 0x10000000000000 : Nat) : ℚ) + 1 + gap ≤ 2 ^ 53 := by
        exact_mod_cast hmod
      rw [hdiv]
      refine mul_le_mul_of_nonneg_right (by linarith) (by positivity)

end MockProvider.Binary64
