import MockProvider.Json.Parser
import MockProvider.Proofs.Decimal.Rounding

/-!
# Scaling numbers

A number is scaled by a power of ten in steps that round. Scaling down always has an answer
(`isSome_scale_of_nonpos`), and scaling up has one as long as the exact result is so far below the
overflow that the two roundings before the last do not lead there (`isSome_scale_of_le`).
-/

namespace MockProvider

namespace Binary64

theorem isSome_ofRatio? (negative : Bool) {num den : Nat} (hden : 0 < den)
    (h : (num / den : ℚ) < overflow) : (ofRatio? negative num den).isSome = true := by
  rw [ofRatio?, dif_pos (nearestRank_lt_rankCount hden h)]
  rfl

theorem magnitude_lt_overflow (x : Binary64) : magnitude x.rank < overflow := by
  have hle := magnitude_le x.rank 0 (by decide) x.rank_lt
  have hunit : (0 : ℚ) < 2 ^ (970 : Int) := by positivity
  rw [two_zpow_971] at hle
  rw [overflow]
  generalize (2 : ℚ) ^ (970 : Int) = unit at hle hunit ⊢
  push_cast at hle
  linarith

theorem mul?_eq (x y : Binary64) :
    x.mul? y = ofRatio? (x.negative != y.negative) (x.ratio.1 * y.ratio.1)
      (x.ratio.2 * y.ratio.2) := rfl

theorem div?_eq (x y : Binary64) :
    x.div? y = ofRatio? (x.negative != y.negative) (x.ratio.1 * y.ratio.2)
      (x.ratio.2 * y.ratio.1) := rfl

theorem isSome_mul? {x y : Binary64} (h : magnitude x.rank * magnitude y.rank < overflow) :
    (x.mul? y).isSome = true := by
  rw [mul?_eq]
  refine isSome_ofRatio? _ (Nat.mul_pos x.ratio_den_pos y.ratio_den_pos) ?_
  rw [Nat.cast_mul, Nat.cast_mul, ← div_mul_div_comm, x.ratio_div, y.ratio_div]
  exact h

theorem isSome_div? (x : Binary64) {y : Binary64} (h : 1 ≤ magnitude y.rank) :
    (x.div? y).isSome = true := by
  have hy : (0 : ℚ) < y.ratio.1 / y.ratio.2 := by
    rw [y.ratio_div]
    exact lt_of_lt_of_le one_pos h
  have hnum : 0 < y.ratio.1 := by
    rw [div_pos_iff_of_pos_right (Nat.cast_pos.2 y.ratio_den_pos)] at hy
    exact_mod_cast hy
  rw [div?_eq]
  refine isSome_ofRatio? _ (Nat.mul_pos x.ratio_den_pos hnum) ?_
  rw [Nat.cast_mul, Nat.cast_mul, ← div_mul_div_comm, x.ratio_div, ← inv_div (y.ratio.1 : ℚ),
    y.ratio_div]
  calc magnitude x.rank * (magnitude y.rank)⁻¹ ≤ magnitude x.rank * 1 :=
        mul_le_mul_of_nonneg_left (inv_le_one_of_one_le₀ h) (magnitude_nonneg _)
    _ < overflow := by
        rw [mul_one]
        exact x.magnitude_lt_overflow

theorem magnitude_zero : magnitude 0 = 0 := by
  rw [magnitude, parts, if_pos (by decide)]
  simp

end Binary64

namespace Json

open Binary64 (magnitude overflow)

/-- The powers of ten up to the largest are below the overflow. -/
theorem ten_pow_lt : ∀ k ≤ maxPower, 10 ^ k < 0x3FFFFFFFFFFFFF * 2 ^ 970 := by
  decide +kernel

theorem lt_ten_pow {k : Nat} (h : maxPower < k) : 0x3FFFFFFFFFFFFF * 2 ^ 970 < 10 ^ k := by
  obtain ⟨next, hnext⟩ : ∃ next, next = maxPower + 1 := ⟨_, rfl⟩
  have hlt : 0x3FFFFFFFFFFFFF * 2 ^ 970 < 10 ^ next := by
    rw [hnext]
    decide +kernel
  exact Nat.lt_of_lt_of_le hlt (Nat.pow_le_pow_right (by decide) (hnext ▸ h))

theorem cast_overflow (n : Nat) :
    ((0x3FFFFFFFFFFFFF * 2 ^ n : Nat) : ℚ) = (2 ^ 54 - 1) * 2 ^ (n : Int) := by
  rw [Nat.cast_mul, Nat.cast_pow, zpow_natCast]
  norm_num

/-- The powers of ten that numbers are scaled by at once are finite and, once rounded, too great by
    one part in `2 ^ 53` at most. -/
theorem exists_power {k : Nat} (hk : k ≤ maxPower) :
    ∃ power, Binary64.ofNat? (Nat.pow 10 k) = some power ∧ 1 ≤ magnitude power.rank ∧
      magnitude power.rank ≤ (1 + 1 / 2 ^ 53) * 10 ^ k := by
  have hone : 1 ≤ 10 ^ k := Nat.one_le_pow _ _ (by decide)
  have hcast : ((10 ^ k : Nat) / (1 : Nat) : ℚ) = 10 ^ k := by
    rw [Nat.cast_one, div_one, Nat.cast_pow, Nat.cast_ofNat]
  have hlt : ((10 ^ k : Nat) / (1 : Nat) : ℚ) < overflow := by
    rw [Nat.cast_one, div_one]
    exact (Nat.cast_lt.2 (ten_pow_lt k hk)).trans_eq (cast_overflow 970)
  have hrank := Binary64.nearestRank_lt_rankCount one_pos hlt
  have hupper := Binary64.magnitude_nearestRank_le one_pos hone
  rw [hcast] at hupper
  refine ⟨⟨false, _, hrank⟩, ?_, Binary64.one_le_magnitude_nearestRank one_pos hone, hupper⟩
  exact dif_pos hrank

/-! ## Steps -/

section

-- the powers would be computed when the match on them is opened
attribute [local irreducible] Binary64.ofNat?

theorem scale_succ (x : Binary64) (fuel : Nat) (exponent : Int) :
    scale x (fuel + 1) exponent =
      if exponent.natAbs ≤ maxPower then
        match Binary64.ofNat? (Nat.pow 10 exponent.natAbs) with
        | some power => if 0 ≤ exponent then x.mul? power else x.div? power
        | none => none
      else if x.isZero then some x
      else if 0 ≤ exponent then none
      else
        match Binary64.ofNat? (Nat.pow 10 maxPower) with
        | some power => (x.div? power).bind fun y => scale y fuel (exponent + maxPower)
        | none => none := rfl

variable {x : Binary64} {fuel : Nat} {exponent : Int}

theorem scale_small (hsmall : exponent.natAbs ≤ maxPower) {power : Binary64}
    (hpower : Binary64.ofNat? (Nat.pow 10 exponent.natAbs) = some power) :
    scale x (fuel + 1) exponent = if 0 ≤ exponent then x.mul? power else x.div? power := by
  rw [scale_succ, if_pos hsmall, hpower]

theorem scale_isZero (hlarge : ¬ exponent.natAbs ≤ maxPower) (hzero : x.isZero = true) :
    scale x (fuel + 1) exponent = some x := by
  rw [scale_succ, if_neg hlarge, if_pos hzero]

theorem scale_down (hlarge : ¬ exponent.natAbs ≤ maxPower) (hzero : ¬ x.isZero = true)
    (hdown : ¬ 0 ≤ exponent) {power : Binary64}
    (hpower : Binary64.ofNat? (Nat.pow 10 maxPower) = some power) :
    scale x (fuel + 1) exponent =
      (x.div? power).bind fun y => scale y fuel (exponent + maxPower) := by
  rw [scale_succ, if_neg hlarge, if_neg hzero, if_neg hdown, hpower]

end

/-- Scaling by the power zero leaves the magnitude. -/
theorem isSome_mul?_one (x : Binary64) :
    ∃ power, Binary64.ofNat? (Nat.pow 10 (0 : Int).natAbs) = some power ∧
      (x.mul? power).isSome = true := by
  refine ⟨⟨false, 0x3FF0000000000000, by decide⟩, by decide +kernel, Binary64.isSome_mul? ?_⟩
  have hparts : Binary64.parts 0x3FF0000000000000 = (2 ^ 52, -52) := by decide
  have hone : magnitude 0x3FF0000000000000 = 1 := by
    rw [magnitude, hparts]
    norm_num
  rw [hone, mul_one]
  exact x.magnitude_lt_overflow

theorem isSome_scale_of_nonpos (x : Binary64) (fuel : Nat) {exponent : Int} (h : exponent ≤ 0) :
    (scale x fuel exponent).isSome = true := by
  induction fuel generalizing x exponent with
  | zero => rfl
  | succ fuel ih =>
    by_cases hexp : exponent = 0
    · obtain ⟨power, hpower, hmul⟩ := isSome_mul?_one x
      have hsmall : (0 : Int).natAbs ≤ maxPower := Nat.zero_le maxPower
      rw [hexp, scale_small hsmall hpower, if_pos (le_refl _), hmul]
    have hdown : ¬ 0 ≤ exponent := by omega
    by_cases hsmall : exponent.natAbs ≤ maxPower
    · obtain ⟨power, hpower, hone, -⟩ := exists_power hsmall
      rw [scale_small hsmall hpower, if_neg hdown, x.isSome_div? hone]
    by_cases hzero : x.isZero = true
    · rw [scale_isZero hsmall hzero, Option.isSome_some]
    · obtain ⟨power, hpower, hone, -⟩ := exists_power (Nat.le_refl maxPower)
      obtain ⟨y, hy⟩ := Option.isSome_iff_exists.1 (x.isSome_div? hone)
      rw [scale_down hsmall hzero hdown hpower, hy, Option.bind_some]
      exact ih y (by omega)

/-- The significand and the power of ten can each be rounded up by one part in `2 ^ 53`. -/
theorem two_errors_lt_overflow {a b exact : ℚ} {sig : ℚ} (hb : 0 ≤ b) (hsig : 0 ≤ sig)
    (ha : a ≤ (1 + 1 / 2 ^ 53) * sig) (hb' : b ≤ (1 + 1 / 2 ^ 53) * exact)
    (h : sig * exact ≤ (2 ^ 54 - 5) * 2 ^ (970 : Int)) : a * b < overflow := by
  have hunit : (0 : ℚ) < 2 ^ (970 : Int) := by positivity
  calc a * b ≤ ((1 + 1 / 2 ^ 53) * sig) * ((1 + 1 / 2 ^ 53) * exact) :=
        mul_le_mul ha hb' hb (by positivity)
    _ = (1 + 1 / 2 ^ 53) ^ 2 * (sig * exact) := by ring
    _ ≤ (1 + 1 / 2 ^ 53) ^ 2 * ((2 ^ 54 - 5) * 2 ^ (970 : Int)) :=
        mul_le_mul_of_nonneg_left h (by positivity)
    _ = ((1 + 1 / 2 ^ 53) ^ 2 * (2 ^ 54 - 5)) * 2 ^ (970 : Int) := by ring
    _ < overflow := mul_lt_mul_of_pos_right (by norm_num) hunit

theorem ofSignificand_zero (negative : Bool) :
    ofSignificand negative 0 = Binary64.zero negative := by
  cases negative <;> decide

theorem isSome_scale_zero (negative : Bool) (fuel : Nat) (exponent : Int) :
    (scale (Binary64.zero negative) fuel exponent).isSome = true := by
  by_cases hdown : exponent ≤ 0
  · exact isSome_scale_of_nonpos _ fuel hdown
  cases fuel with
  | zero => rfl
  | succ fuel =>
    by_cases hsmall : exponent.natAbs ≤ maxPower
    · obtain ⟨power, hpower, -⟩ := exists_power hsmall
      rw [scale_small hsmall hpower, if_pos (by omega)]
      apply Binary64.isSome_mul?
      rw [Binary64.zero, Binary64.magnitude_zero, zero_mul, overflow]
      exact mul_pos (by norm_num) (by positivity)
    · rw [scale_isZero hsmall rfl, Option.isSome_some]

/-- A significand can be scaled up when the exact result is far enough below the overflow. -/
theorem isSome_scale_of_le (negative : Bool) {significand k : Nat}
    (h : (significand * 10 ^ k : ℚ) ≤ (2 ^ 54 - 5) * 2 ^ (970 : Int)) (fuel : Nat) :
    (scale (ofSignificand negative significand) fuel k).isSome = true := by
  by_cases hzero : significand = 0
  · rw [hzero, ofSignificand_zero]
    exact isSome_scale_zero negative fuel k
  cases fuel with
  | zero => rfl
  | succ fuel =>
    have hone : 1 ≤ significand := Nat.one_le_iff_ne_zero.2 hzero
    have hone' : (1 : ℚ) ≤ significand := by exact_mod_cast hone
    have hten : (1 : ℚ) ≤ 10 ^ k := one_le_pow₀ (by norm_num)
    have hunit : (0 : ℚ) < 2 ^ (970 : Int) := by positivity
    have hover : ((2 ^ 54 - 5) * 2 ^ (970 : Int) : ℚ) < overflow :=
      mul_lt_mul_of_pos_right (by norm_num) hunit
    have hpower : (k : Int).natAbs ≤ maxPower := by
      by_contra hgreat
      have hlt : overflow < (10 ^ k : Nat) :=
        (cast_overflow 970).symm.trans_lt (Nat.cast_lt.2 (lt_ten_pow (Nat.lt_of_not_le hgreat)))
      rw [Nat.cast_pow, Nat.cast_ofNat] at hlt
      have hmul : (10 ^ k : ℚ) ≤ significand * 10 ^ k :=
        le_mul_of_one_le_left (by positivity) hone'
      exact absurd (hlt.trans_le (hmul.trans h)) (not_lt.2 hover.le)
    have hsig : (significand / (1 : Nat) : ℚ) < overflow := by
      rw [Nat.cast_one, div_one]
      calc (significand : ℚ) ≤ significand * 10 ^ k := le_mul_of_one_le_right (by positivity) hten
        _ < overflow := lt_of_le_of_lt h hover
    have hrank := Binary64.nearestRank_lt_rankCount one_pos hsig
    have hupper := Binary64.magnitude_nearestRank_le one_pos hone
    have hnumber : ofSignificand negative significand = ⟨negative, _, hrank⟩ := by
      rw [ofSignificand, Binary64.ofRatio?, dif_pos hrank]
      rfl
    obtain ⟨power, hfound, -, hpowerUpper⟩ := exists_power hpower
    rw [Nat.cast_one, div_one] at hupper
    rw [scale_small hpower hfound, if_pos (Int.natCast_nonneg k), hnumber]
    exact Binary64.isSome_mul? (two_errors_lt_overflow (Binary64.magnitude_nonneg _)
      (by positivity) hupper hpowerUpper h)

end Json

end MockProvider
