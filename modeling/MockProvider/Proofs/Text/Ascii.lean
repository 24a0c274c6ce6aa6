import MockProvider.Text.Basic

/-!
# Changing case

A text in one case stays as it is when it is put into that case again, and the case that a text had
before does not show in upper case. So texts that differ in case only are told apart neither by
`sameIgnoringCase` nor in upper case.
-/

namespace MockProvider.Ascii

/-! ## Characters -/

theorem toNat_toLower (c : Char) :
    c.toLower.toNat = if 65 ≤ c.toNat ∧ c.toNat ≤ 90 then c.toNat + 32 else c.toNat := by
  have hiff : c.val ≥ 'A'.val ∧ c.val ≤ 'Z'.val ↔ 65 ≤ c.toNat ∧ c.toNat ≤ 90 := Iff.rfl
  by_cases h : c.val ≥ 'A'.val ∧ c.val ≤ 'Z'.val
  · have hval : c.toLower.val = c.val + ('a'.val - 'A'.val) := by
      delta Char.toLower
      rw [dif_pos h]
    have hbounds := hiff.1 h
    rw [if_pos hbounds]
    show c.toLower.val.toNat = c.toNat + 32
    rw [hval, UInt32.toNat_add]
    show (c.toNat + 32) % 2 ^ 32 = c.toNat + 32
    omega
  · have hsame : c.toLower = c := dif_neg h
    rw [if_neg (mt hiff.2 h), hsame]

theorem toNat_toUpper (c : Char) :
    c.toUpper.toNat = if 97 ≤ c.toNat ∧ c.toNat ≤ 122 then c.toNat - 32 else c.toNat := by
  have hiff : c.val ≥ 'a'.val ∧ c.val ≤ 'z'.val ↔ 97 ≤ c.toNat ∧ c.toNat ≤ 122 := Iff.rfl
  by_cases h : c.val ≥ 'a'.val ∧ c.val ≤ 'z'.val
  · have hval : c.toUpper.val = c.val + ('A'.val - 'a'.val) := by
      delta Char.toUpper
      rw [dif_pos h]
    have hbounds := hiff.1 h
    rw [if_pos hbounds]
    show c.toUpper.val.toNat = c.toNat - 32
    -- the difference of the letters is negative, so it is added as its complement
    rw [hval, UInt32.toNat_add]
    show (c.toNat + 4294967264) % 2 ^ 32 = c.toNat - 32
    omega
  · have hsame : c.toUpper = c := dif_neg h
    rw [if_neg (mt hiff.2 h), hsame]

theorem toLower_toLower (c : Char) : c.toLower.toLower = c.toLower := by
  apply Char.toNat_inj.1
  simp only [toNat_toLower]
  grind

theorem toUpper_toUpper (c : Char) : c.toUpper.toUpper = c.toUpper := by
  apply Char.toNat_inj.1
  simp only [toNat_toUpper]
  grind

theorem toUpper_toLower (c : Char) : c.toLower.toUpper = c.toUpper := by
  apply Char.toNat_inj.1
  simp only [toNat_toUpper, toNat_toLower]
  grind

/-! ## Texts -/

theorem lower_lower (s : String) : lower (lower s) = lower s := by
  simp only [lower, String.toList_ofList, List.map_map]
  exact congrArg String.ofList (List.map_congr_left fun c _ => toLower_toLower c)

theorem upper_upper (s : String) : upper (upper s) = upper s := by
  simp only [upper, String.toList_ofList, List.map_map]
  exact congrArg String.ofList (List.map_congr_left fun c _ => toUpper_toUpper c)

theorem upper_lower (s : String) : upper (lower s) = upper s := by
  simp only [upper, lower, String.toList_ofList, List.map_map]
  exact congrArg String.ofList (List.map_congr_left fun c _ => toUpper_toLower c)

/-! ## Texts that differ in case only -/

theorem sameIgnoringCase_self (s : String) : sameIgnoringCase s s = true :=
  beq_self_eq_true _

theorem sameIgnoringCase_congr {a b : String} (h : sameIgnoringCase a b = true) (s : String) :
    sameIgnoringCase s a = sameIgnoringCase s b := by
  have hlower : lower a = lower b := beq_iff_eq.1 h
  rw [sameIgnoringCase, sameIgnoringCase, hlower]

theorem upper_eq {a b : String} (h : sameIgnoringCase a b = true) : upper a = upper b := by
  have hlower : lower a = lower b := beq_iff_eq.1 h
  rw [← upper_lower a, hlower, upper_lower]

end MockProvider.Ascii
