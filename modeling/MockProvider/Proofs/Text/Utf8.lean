import MockProvider.Text.Utf8

/-!
# Reading back what was written as UTF-8

`unitsFrom_encodeChar` follows the reader through the octets of one character, whatever comes after
them; by induction a whole text is read back from its octets, both by the reader that refuses bad
octets and by the one that replaces them.
-/

namespace MockProvider

namespace Utf8

/-! ## One octet -/

theorem toNat_octet {n : Nat} (h : n < 0x100) : (UInt8.ofNat n).toNat = n := by
  rw [UInt8.toNat_ofNat']
  exact Nat.mod_eq_of_lt h

theorem unitsFrom_cons (p : Pending) (b : UInt8) (rest : Bytes) :
    unitsFrom p (b :: rest) = (step p b.toNat).1 ++ unitsFrom (step p b.toNat).2 rest := by
  cases p <;> rfl

/-- The last octet of a character completes it. -/
theorem unitsFrom_last {low high bits d : Nat} (hd : d < 64) (hlow : low ≤ 0x80 + d)
    (hhigh : 0x80 + d ≤ high) (rest : Bytes) :
    unitsFrom (.within 1 low high bits) (UInt8.ofNat (0x80 + d) :: rest) =
      some (Char.ofNat (bits * 64 + d)) :: unitsFrom .idle rest := by
  have hoctet : (UInt8.ofNat (0x80 + d)).toNat = 0x80 + d := toNat_octet (by omega)
  have hstep : step (.within 1 low high bits) (0x80 + d) =
      ([some (Char.ofNat (bits * 64 + d))], .idle) := by
    rw [step, if_pos ⟨hlow, hhigh⟩, Nat.add_sub_cancel_left]
    rfl
  rw [unitsFrom_cons, hoctet, hstep]
  rfl

/-- Any other octet after the first adds six bits. -/
theorem unitsFrom_more {more low high bits d : Nat} (hd : d < 64) (hlow : low ≤ 0x80 + d)
    (hhigh : 0x80 + d ≤ high) (rest : Bytes) :
    unitsFrom (.within (more + 2) low high bits) (UInt8.ofNat (0x80 + d) :: rest) =
      unitsFrom (.within (more + 1) 0x80 0xBF (bits * 64 + d)) rest := by
  have hoctet : (UInt8.ofNat (0x80 + d)).toNat = 0x80 + d := toNat_octet (by omega)
  have hstep : step (.within (more + 2) low high bits) (0x80 + d) =
      ([], .within (more + 1) 0x80 0xBF (bits * 64 + d)) := by
    have hmore : ¬ more + 2 ≤ 1 := by omega
    rw [step, if_pos ⟨hlow, hhigh⟩, Nat.add_sub_cancel_left]
    exact if_neg hmore
  rw [unitsFrom_cons, hoctet, hstep]
  rfl

/-! ## One character -/

theorem valid_toNat (c : Char) :
    c.toNat < 0xD800 ∨ (0xDFFF < c.toNat ∧ c.toNat < 0x110000) :=
  c.valid

/-- A character is read back from its octets, whatever comes after them. -/
theorem unitsFrom_encodeChar (c : Char) (rest : Bytes) :
    unitsFrom .idle (encodeChar c ++ rest) = some c :: unitsFrom .idle rest := by
  have hvalid := valid_toNat c
  have hback : Char.ofNat c.toNat = c := Char.ofNat_toNat c
  generalize hn : c.toNat = n at hvalid hback
  simp only [encodeChar, hn]
  -- characters of one, two, three and four octets; the ranges keep out surrogates
  by_cases h1 : n < 0x80
  · have hoctet : (UInt8.ofNat n).toNat = n := toNat_octet (by omega)
    simp [h1, unitsFrom_cons, step, start, hoctet, hback]
  by_cases h2 : n < 0x800
  · have hoctet : (UInt8.ofNat (0xC0 + n / 64)).toNat = 0xC0 + n / 64 := toNat_octet (by omega)
    have hstart : start (0xC0 + n / 64) = ([], .within 1 0x80 0xBF (n / 64)) := by
      rw [start, if_neg (by omega), if_neg (by omega), if_pos (by omega), Nat.add_sub_cancel_left]
    simp only [h1, h2, if_true, if_false, List.cons_append, List.nil_append]
    rw [unitsFrom_cons, step, hoctet, hstart, List.nil_append,
      unitsFrom_last (by omega) (by omega) (by omega), Nat.div_add_mod', hback]
  by_cases h3 : n < 0x10000
  · have hoctet : (UInt8.ofNat (0xE0 + n / 4096)).toNat = 0xE0 + n / 4096 := toNat_octet (by omega)
    have hstart : start (0xE0 + n / 4096) =
        ([], .within 2 (if 0xE0 + n / 4096 = 0xE0 then 0xA0 else 0x80)
          (if 0xE0 + n / 4096 = 0xED then 0x9F else 0xBF) (n / 4096)) := by
      rw [start, if_neg (by omega), if_neg (by omega), if_neg (by omega), if_pos (by omega),
        Nat.add_sub_cancel_left]
    have hbits : (n / 4096 * 64 + n / 64 % 64) * 64 + n % 64 = n := by omega
    simp only [h1, h2, h3, if_true, if_false, List.cons_append, List.nil_append]
    rw [unitsFrom_cons, step, hoctet, hstart, List.nil_append,
      unitsFrom_more (by omega) (by split <;> omega) (by split <;> omega),
      unitsFrom_last (by omega) (by omega) (by omega), hbits, hback]
  · have hoctet : (UInt8.ofNat (0xF0 + n / 262144)).toNat = 0xF0 + n / 262144 :=
      toNat_octet (by omega)
    have hstart : start (0xF0 + n / 262144) =
        ([], .within 3 (if 0xF0 + n / 262144 = 0xF0 then 0x90 else 0x80)
          (if 0xF0 + n / 262144 = 0xF4 then 0x8F else 0xBF) (n / 262144)) := by
      rw [start, if_neg (by omega), if_neg (by omega), if_neg (by omega), if_neg (by omega),
        if_pos (by omega), Nat.add_sub_cancel_left]
    have hbits : ((n / 262144 * 64 + n / 4096 % 64) * 64 + n / 64 % 64) * 64 + n % 64 = n := by
      omega
    simp only [h1, h2, h3, if_false, List.cons_append, List.nil_append]
    rw [unitsFrom_cons, step, hoctet, hstart, List.nil_append,
      unitsFrom_more (by omega) (by split <;> omega) (by split <;> omega),
      unitsFrom_more (by omega) (by omega) (by omega),
      unitsFrom_last (by omega) (by omega) (by omega), hbits, hback]

/-! ## Texts -/

@[simp] theorem encode_nil : encode [] = [] := rfl

@[simp] theorem encode_cons (c : Char) (text : List Char) :
    encode (c :: text) = encodeChar c ++ encode text := rfl

@[simp] theorem encode_append (a b : List Char) : encode (a ++ b) = encode a ++ encode b :=
  List.flatMap_append

theorem units_encode (text : List Char) : units (encode text) = text.map some := by
  induction text with
  | nil => rfl
  | cons c text ih =>
    rw [units, encode_cons, unitsFrom_encodeChar, List.map_cons]
    exact congrArg _ ih

theorem decode?_encode (text : List Char) : decode? (encode text) = some text := by
  rw [decode?, units_encode]
  induction text with
  | nil => rfl
  | cons c text ih => simp [List.mapM_cons, ih]

theorem lossy_encode (text : List Char) : lossy (encode text) = text := by
  rw [lossy, units_encode, List.map_map]
  exact List.map_id text

/-- An ASCII character is its own octet. -/
theorem encodeChar_ascii {c : Char} (h : c.toNat < 0x80) : encodeChar c = [UInt8.ofNat c.toNat] :=
  if_pos h

/-- The octets of all other characters are none of ASCII. -/
theorem le_of_mem_encodeChar {c : Char} (h : 0x80 ≤ c.toNat) {b : UInt8} (hb : b ∈ encodeChar c) :
    0x80 ≤ b.toNat := by
  have hvalid := valid_toNat c
  -- octets after the first begin with the bits 10
  have hcontinued : ∀ d, 0x80 ≤ (UInt8.ofNat (0x80 + d % 64)).toNat := fun d => by
    rw [toNat_octet (by omega)]
    omega
  simp only [encodeChar, if_neg (Nat.not_lt.2 h)] at hb
  split at hb
  · simp only [List.mem_cons, List.not_mem_nil, or_false] at hb
    rcases hb with rfl | rfl
    · rw [toNat_octet (by omega)]
      omega
    · exact hcontinued _
  · split at hb
    · simp only [List.mem_cons, List.not_mem_nil, or_false] at hb
      rcases hb with rfl | rfl | rfl
      · rw [toNat_octet (by omega)]
        omega
      · exact hcontinued _
      · exact hcontinued _
    · simp only [List.mem_cons, List.not_mem_nil, or_false] at hb
      rcases hb with rfl | rfl | rfl | rfl
      · rw [toNat_octet (by omega)]
        omega
      · exact hcontinued _
      · exact hcontinued _
      · exact hcontinued _

end Utf8

/-! ## Strings -/

theorem Bytes.toString?_ofString (s : String) : (Bytes.ofString s).toString? = some s := by
  rw [toString?, ofString, Utf8.decode?_encode, Option.map_some, String.ofList_toList]

theorem Bytes.toStringLossy_ofString (s : String) : (Bytes.ofString s).toStringLossy = s := by
  rw [toStringLossy, ofString, Utf8.lossy_encode, String.ofList_toList]

end MockProvider
