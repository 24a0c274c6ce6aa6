import MockProvider.Decimal.Shortest
import MockProvider.Proofs.Decimal.Rounding

/-!
# Bounds of shortest decimals

The shortest decimal of a number is not above the number or the upper end of its interval
(`value_digits_le`), and it has no zero for its digits where it is a whole number
(`digits_ne_zero`).
-/

namespace MockProvider.Shortest

open Binary64 (magnitude)

/-- The value of a decimal. -/
def Decimal.value (d : Decimal) : ℚ :=
  d.digits * 10 ^ d.exponent

/-! ## Grids -/

theorem onGrid_div (num den : Nat) (e : Int) :
    ((onGrid num den e).1 : ℚ) / (onGrid num den e).2 = num / den * 10 ^ (-e) := by
  cases e with
  | ofNat k =>
    simp only [onGrid, Nat.pow_eq, Nat.cast_mul, Nat.cast_pow, Nat.cast_ofNat,
      Int.ofNat_eq_natCast, zpow_neg, zpow_natCast]
    rw [div_mul_eq_div_div, div_eq_mul_inv (_ / _)]
  | negSucc k =>
    simp only [onGrid, Nat.pow_eq, Nat.cast_mul, Nat.cast_pow, Nat.cast_ofNat, Int.neg_negSucc,
      zpow_natCast]
    rw [mul_div_right_comm]

/-- The unit of a grid is the same for all numerators. -/
theorem onGrid_unit (num num' den : Nat) (e : Int) :
    (onGrid num den e).2 = (onGrid num' den e).2 := by
  cases e <;> rfl

theorem onGrid_unit_pos {den : Nat} (hden : 0 < den) (num : Nat) (e : Int) :
    0 < (onGrid num den e).2 := by
  cases e with
  | ofNat k => exact Nat.mul_pos hden (Nat.pow_pos (by decide))
  | negSucc k => exact hden

theorem onGrid_pos {num : Nat} (hnum : 0 < num) (den : Nat) (e : Int) :
    0 < (onGrid num den e).1 := by
  cases e with
  | ofNat k => exact hnum
  | negSucc k => exact Nat.mul_pos hnum (Nat.pow_pos (by decide))

/-- Digits that are not above a numerator on the grid are a decimal that is not above the
    fraction. -/
theorem value_le_of_onGrid {num den digits : Nat} (hden : 0 < den) {e : Int}
    (h : digits * (onGrid num den e).2 ≤ (onGrid num den e).1) :
    Decimal.value ⟨digits, e⟩ ≤ num / den := by
  have hunit : (0 : ℚ) < (onGrid num den e).2 := Nat.cast_pos.2 (onGrid_unit_pos hden num e)
  have hpow : (0 : ℚ) < 10 ^ e := by positivity
  have hdigits : (digits : ℚ) ≤ num / den * 10 ^ (-e) := by
    rw [← onGrid_div, le_div_iff₀ hunit]
    exact_mod_cast h
  rw [zpow_neg, ← div_eq_mul_inv, le_div_iff₀ hpow] at hdigits
  exact hdigits

/-! ## The search -/

section

variable {num low high den : Nat} {closed : Bool} {place : Int}

/-- A decimal inside the interval is between its ends, whether these belong to it or not. -/
theorem between_of_inside {lo hi x : Nat}
    (h : (if closed = true then decide (lo ≤ x) && decide (x ≤ hi)
      else decide (lo < x) && decide (x < hi)) = true) : lo ≤ x ∧ x ≤ hi := by
  split at h
  · simpa using h
  · have hstrict : lo < x ∧ x < hi := by simpa using h
    omega

/-- What is found is not above the number or the upper end of the interval. -/
theorem value_search_le (hden : 0 < den) {bound : ℚ} (hnum : (num / den : ℚ) ≤ bound)
    (hhigh : (high / den : ℚ) ≤ bound) (fuel count : Nat) :
    (search num low high den closed place fuel count).value ≤ bound := by
  induction fuel generalizing count with
  | zero => exact (value_le_of_onGrid hden (Nat.div_mul_le_self _ _)).trans hnum
  | succ fuel ih =>
    -- the neighbour below is not above the number, and that above is inside the interval
    have hbelow : Decimal.value ⟨(onGrid num den (place - count)).1 /
        (onGrid num den (place - count)).2, place - count⟩ ≤ bound :=
      (value_le_of_onGrid hden (Nat.div_mul_le_self _ _)).trans hnum
    have habove {digits : Nat} (h : digits * (onGrid num den (place - count)).2 ≤
        (onGrid high den (place - count)).1) : Decimal.value ⟨digits, place - count⟩ ≤ bound := by
      rw [onGrid_unit num high] at h
      exact (value_le_of_onGrid hden h).trans hhigh
    simp only [search]
    split
    · next _ hinside =>
      split
      · exact hbelow
      · exact habove (between_of_inside hinside).2
    · exact hbelow
    · next _ hinside => exact habove (between_of_inside hinside).2
    · exact ih (count + 1)

/-- What is found is zero only where no grid had a neighbour inside the interval, and the number is
    below one unit of the last grid. -/
theorem search_of_digits_eq_zero (hlow : 0 < low) {fuel count : Nat}
    (h : (search num low high den closed place fuel count).digits = 0) :
    let e := place - ((count + fuel : Nat) : Int)
    (search num low high den closed place fuel count).exponent = e ∧
      (onGrid num den e).1 / (onGrid num den e).2 = 0 := by
  induction fuel generalizing count with
  | zero => exact ⟨rfl, h⟩
  | succ fuel ih =>
    have hpos := onGrid_pos hlow den (place - count)
    have hbelow {digits unit : Nat} (h : (onGrid low den (place - count)).1 ≤ digits * unit) :
        digits ≠ 0 := by
      rintro rfl
      omega
    simp only [search] at h ⊢
    split at h
    · next hinside _ =>
      split at h
      · exact absurd h (hbelow (between_of_inside hinside).1)
      · exact absurd h (Nat.succ_ne_zero _)
    · next hinside _ =>
      exact absurd h (hbelow (between_of_inside hinside).1)
    · exact absurd h (Nat.succ_ne_zero _)
    · next hbelow' habove' =>
      have hfound := ih h
      rw [Nat.add_assoc, Nat.add_comm 1] at hfound
      simpa only [hbelow', habove'] using hfound

end

/-! ## Zeros at the end -/

theorem value_dropZeros (fuel : Nat) (d : Decimal) : (dropZeros fuel d).value = d.value := by
  induction fuel generalizing d with
  | zero => rfl
  | succ fuel ih =>
    rw [dropZeros]
    split
    · next hzero =>
      have hdigits : d.digits = d.digits / 10 * 10 := by omega
      rw [ih, Decimal.value, Decimal.value, hdigits, zpow_add_one₀ (by norm_num)]
      push_cast
      rw [Nat.mul_div_cancel _ (by decide)]
      ring
    · rfl

theorem dropZeros_of_digits_eq_zero {fuel : Nat} {d : Decimal}
    (h : (dropZeros fuel d).digits = 0) : dropZeros fuel d = d := by
  induction fuel generalizing d with
  | zero => rfl
  | succ fuel ih =>
    rw [dropZeros] at h ⊢
    split
    · next hzero =>
      rw [if_pos hzero] at h
      have hsame := ih h
      rw [hsame] at h
      have : d.digits / 10 = 0 := h
      omega
    · rfl

/-! ## Numbers -/

/-- The magnitude of a rank in units of `2 ^ (-1074)`. -/
def units (rank : Nat) : Nat :=
  (Binary64.parts rank).1 <<< ((Binary64.parts rank).2 + 1074).toNat

theorem units_pos {rank : Nat} (h : rank ≠ 0) : 0 < units rank := by
  have hsig : 0 < (Binary64.parts rank).1 := by
    rw [Binary64.parts]
    split <;> simp only <;> omega
  rw [units, Nat.shiftLeft_eq]
  positivity

theorem units_div (rank : Nat) : (units rank : ℚ) / 2 ^ (1074 : Int) = magnitude rank := by
  have hleast : -1074 ≤ (Binary64.parts rank).2 := by
    rw [Binary64.parts]
    split
    · exact Int.le_refl _
    · next hlarge =>
      simp only [Nat.shiftRight_eq_div_pow]
      omega
  have hexp : (((Binary64.parts rank).2 + 1074).toNat : Int) = (Binary64.parts rank).2 + 1074 :=
    Int.toNat_of_nonneg (by omega)
  have hpow : ((2 ^ ((Binary64.parts rank).2 + 1074).toNat : Nat) : ℚ) =
      2 ^ (Binary64.parts rank).2 * 2 ^ (1074 : Int) := by
    rw [Nat.cast_pow, Nat.cast_ofNat, ← zpow_natCast, hexp, zpow_add₀ two_ne_zero]
  rw [units, Nat.shiftLeft_eq, Nat.cast_mul, hpow, ← mul_assoc, mul_div_assoc,
    div_self (by positivity), mul_one, magnitude]

theorem digits_eq (rank : Nat) :
    digits rank = dropZeros 20 (search (2 * units rank) (units (rank - 1) + units rank)
      (units rank + units (rank + 1)) (1 <<< 1075) (rank % 2 == 0)
      (places (2 * units rank) (1 <<< 1075)) 17 1) := rfl

theorem den_pos : 0 < 1 <<< 1075 := by
  rw [Nat.shiftLeft_eq]
  positivity

theorem cast_one_shiftLeft (n : Nat) : ((1 <<< n : Nat) : ℚ) = 2 ^ (n : Int) := by
  rw [Nat.shiftLeft_eq, one_mul, Nat.cast_pow, Nat.cast_ofNat, zpow_natCast]

theorem den_eq : ((1 <<< 1075 : Nat) : ℚ) = 2 ^ (1074 : Int) * 2 :=
  (cast_one_shiftLeft 1075).trans (zpow_add_one₀ two_ne_zero 1074)

theorem add_units_div (a b : Nat) :
    ((units a + units b : Nat) : ℚ) / (1 <<< 1075 : Nat) = (magnitude a + magnitude b) / 2 := by
  rw [← units_div, ← units_div, den_eq, Nat.cast_add, ← add_div, div_div]

theorem two_mul_units_div (rank : Nat) :
    ((2 * units rank : Nat) : ℚ) / (1 <<< 1075 : Nat) = magnitude rank := by
  rw [Nat.two_mul, add_units_div]
  ring

/-- But for the last two ranks, the shortest decimal is so far below the overflow that two errors of
    rounding do not lead there. -/
theorem value_digits_le {rank : Nat} (h : rank + 2 < Binary64.rankCount) :
    (digits rank).value ≤ (2 ^ 54 - 5) * 2 ^ (970 : Int) := by
  have hrank := Binary64.magnitude_le rank 2 (by decide) h
  have hnext := Binary64.magnitude_le (rank + 1) 1 (by decide) h
  have hunit : (0 : ℚ) < 2 ^ (970 : Int) := by positivity
  rw [Binary64.two_zpow_971] at hrank hnext
  rw [digits_eq, value_dropZeros]
  generalize (2 : ℚ) ^ (970 : Int) = unit at hrank hnext hunit ⊢
  push_cast at hrank hnext
  refine value_search_le den_pos ?_ ?_ 17 1
  · rw [two_mul_units_div]
    linarith
  · rw [add_units_div]
    linarith

theorem places_le (num den : Nat) :
    places num den ≤ ((num.log2 : Int) - den.log2 - 1) * 30103 / 100000 + 3 := by
  simp only [places]
  split_ifs <;> omega

/-- Three decimal places are less than ten binary ones. -/
theorem ten_pow_le_two_pow {k m : Nat} (h : 10 * k ≤ 3 * m) : 10 ^ k ≤ 2 ^ m := by
  refine le_of_pow_le_pow_left₀ three_ne_zero (Nat.zero_le _) ?_
  calc (10 ^ k) ^ 3 = (10 ^ 3) ^ k := by rw [← pow_mul, ← pow_mul, Nat.mul_comm]
    _ ≤ (2 ^ 10) ^ k := Nat.pow_le_pow_left (by decide) k
    _ = 2 ^ (10 * k) := (pow_mul 2 10 k).symm
    _ ≤ 2 ^ (3 * m) := Nat.pow_le_pow_right (by decide) h
    _ = (2 ^ m) ^ 3 := by rw [← pow_mul, Nat.mul_comm]

/-- The last grid of the search is finer than the number if its units are whole numbers. -/
theorem digits_ne_zero {rank : Nat} (hrank : rank < Binary64.rankCount) (hne : rank ≠ 0)
    (h : 0 ≤ (digits rank).exponent) : (digits rank).digits ≠ 0 := by
  intro hzero
  have hpos := units_pos hne
  have hden := den_pos
  have hvalue := two_mul_units_div rank
  rw [digits_eq] at h hzero
  generalize 1 <<< 1075 = den at h hzero hden hvalue
  rw [dropZeros_of_digits_eq_zero hzero] at h hzero
  obtain ⟨hexp, hnone⟩ := search_of_digits_eq_zero (by omega) hzero
  have hnum : 2 * units rank ≠ 0 := by omega
  obtain ⟨hlog, -⟩ := Binary64.log2_sub_bounds hnum hden
  have hplaces := places_le (2 * units rank) den
  rw [hvalue] at hlog
  generalize ((2 * units rank).log2 : Int) - den.log2 - 1 = m at hlog hplaces
  -- the estimate of the places is at least fifteen, and the number is no greater than finite ones
  obtain ⟨k, hk⟩ := Int.eq_ofNat_of_zero_le (hexp ▸ h)
  obtain ⟨m, rfl⟩ := Int.eq_ofNat_of_zero_le (a := m) (by omega)
  have hmost : (2 : ℚ) ^ (m : Int) < 2 ^ (1024 : Int) := by
    calc (2 : ℚ) ^ (m : Int) ≤ magnitude rank := hlog
      _ ≤ (2 ^ 53 - 1 - (0 : Nat)) * 2 ^ (971 : Int) :=
        Binary64.magnitude_le rank 0 (by decide) hrank
      _ < 2 ^ (53 : Int) * 2 ^ (971 : Int) :=
        mul_lt_mul_of_pos_right (by norm_num) (by positivity)
      _ = 2 ^ (1024 : Int) := (zpow_add₀ two_ne_zero 53 971).symm
  have hm : (m : Int) < 1024 := (zpow_lt_zpow_iff_right₀ one_lt_two).1 hmost
  have hten : (10 : ℚ) ^ k ≤ 2 ^ m := by
    exact_mod_cast ten_pow_le_two_pow (k := k) (m := m) (by omega)
  rw [hk] at hnone
  have hlt : 2 * units rank < den * 10 ^ k :=
    (Nat.div_eq_zero_iff.1 hnone).resolve_left (Nat.ne_of_gt (Nat.mul_pos hden (Nat.pow_pos (by decide))))
  have hlt' : magnitude rank < 10 ^ k := by
    rw [← hvalue, div_lt_iff₀ (Nat.cast_pos.2 hden), mul_comm ((10 : ℚ) ^ k)]
    exact_mod_cast hlt
  rw [zpow_natCast] at hlog
  linarith

end MockProvider.Shortest
