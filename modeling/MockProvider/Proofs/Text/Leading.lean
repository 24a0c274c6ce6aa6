import MockProvider.Proofs.Text.Utf8

/-!
# Counting characters by their octets

Each character has one octet that does not begin with the bits 10, the first one. A text has as many
of these as it has characters, and octets cannot be read as more characters than there are such
octets among them: `length_le_of_decode?`.
-/

namespace MockProvider.Utf8

/-- Whether an octet can be the first one of a character. -/
def isLeading (b : UInt8) : Bool :=
  b.toNat < 0x80 || 0xC0 ≤ b.toNat

/-- How many octets can be the first one of a character. -/
def leading (bytes : Bytes) : Nat :=
  bytes.countP isLeading

@[simp] theorem leading_nil : leading [] = 0 := rfl

theorem leading_cons (b : UInt8) (bytes : Bytes) :
    leading (b :: bytes) = leading bytes + if isLeading b then 1 else 0 :=
  List.countP_cons

@[simp] theorem leading_append (front back : Bytes) :
    leading (front ++ back) = leading front + leading back :=
  List.countP_append

theorem leading_le_of_suffix {back bytes : Bytes} (h : back <:+ bytes) :
    leading back ≤ leading bytes :=
  h.sublist.countP_le

/-! ## Writing -/

theorem isLeading_continued (n : Nat) : isLeading (UInt8.ofNat (0x80 + n % 64)) = false := by
  rw [isLeading, toNat_octet (by omega)]
  simp
  omega

theorem isLeading_octet {n : Nat} (h : n < 0x80 ∨ 0xC0 ≤ n) (hn : n < 0x100) :
    isLeading (UInt8.ofNat n) = true := by
  rw [isLeading, toNat_octet hn]
  simpa using h

/-- A character has one leading octet. -/
theorem leading_encodeChar (c : Char) : leading (encodeChar c) = 1 := by
  have hvalid := valid_toNat c
  simp only [encodeChar]
  split
  · have hfirst : isLeading (UInt8.ofNat c.toNat) = true :=
      isLeading_octet (by omega) (by omega)
    simp only [leading_cons, hfirst, leading_nil, if_true]
  · split
    · have hfirst : isLeading (UInt8.ofNat (0xC0 + c.toNat / 64)) = true :=
        isLeading_octet (by omega) (by omega)
      simp only [leading_cons, hfirst, isLeading_continued, leading_nil, if_true,
        Bool.false_eq_true, if_false]
    · split
      · have hfirst : isLeading (UInt8.ofNat (0xE0 + c.toNat / 4096)) = true :=
          isLeading_octet (by omega) (by omega)
        simp only [leading_cons, hfirst, isLeading_continued, leading_nil, if_true,
        Bool.false_eq_true, if_false]
      · have hfirst : isLeading (UInt8.ofNat (0xF0 + c.toNat / 262144)) = true :=
          isLeading_octet (by omega) (by omega)
        simp only [leading_cons, hfirst, isLeading_continued, leading_nil, if_true,
        Bool.false_eq_true, if_false]

theorem leading_encode (text : List Char) : leading (encode text) = text.length := by
  induction text with
  | nil => rfl
  | cons c text ih =>
    rw [encode_cons, leading_append, leading_encodeChar, ih, List.length_cons, Nat.add_comm]

/-! ## Reading -/

/-- The characters that a state still owes: one, when its leading octet has been read. -/
def Pending.owed : Pending → Nat
  | .idle => 0
  | .within .. => 1

theorem start_characters (b : UInt8) :
    (start b.toNat).1.countP Option.isSome + (start b.toNat).2.owed ≤
      if isLeading b then 1 else 0 := by
  have hbound := b.toNat_lt
  rw [isLeading]
  unfold start
  repeat' split
  all_goals simp_all [Pending.owed]
  all_goals omega

theorem step_characters (p : Pending) (b : UInt8) :
    (step p b.toNat).1.countP Option.isSome + (step p b.toNat).2.owed ≤
      p.owed + if isLeading b then 1 else 0 := by
  cases p with
  | idle => simpa [Pending.owed, step] using start_characters b
  | within more low high bits =>
    have hstart := start_characters b
    rw [step]
    split
    · split <;> simp [Pending.owed]
    · change ((none :: (start b.toNat).1).countP Option.isSome) + (start b.toNat).2.owed ≤ 1 + _
      rw [List.countP_cons]
      simp only [Option.isSome_none, Bool.false_eq_true, if_false]
      omega

theorem unitsFrom_characters (p : Pending) (bytes : Bytes) :
    (unitsFrom p bytes).countP Option.isSome ≤ p.owed + leading bytes := by
  induction bytes generalizing p with
  | nil => cases p <;> simp [unitsFrom]
  | cons b bytes ih =>
    have hstep := step_characters p b
    have hrest := ih (step p b.toNat).2
    rw [unitsFrom_cons, List.countP_append, leading_cons]
    omega

theorem units_of_decode? {bytes : Bytes} {text : List Char} (h : decode? bytes = some text) :
    units bytes = text.map some := by
  rw [decode?] at h
  generalize units bytes = found at h
  induction found generalizing text with
  | nil =>
    cases h
    rfl
  | cons u found ih =>
    simp only [List.mapM_cons, Option.bind_eq_bind, Option.bind_eq_some_iff] at h
    obtain ⟨c, hc, rest, hrest, htext⟩ := h
    obtain rfl : u = some c := hc
    cases htext
    rw [ih hrest, List.map_cons]

/-- Octets are not read as more characters than there are leading octets. -/
theorem length_le_of_decode? {bytes : Bytes} {text : List Char} (h : decode? bytes = some text) :
    text.length ≤ leading bytes := by
  have hcount := unitsFrom_characters .idle bytes
  rw [← units, units_of_decode? h, List.countP_map] at hcount
  simpa [Pending.owed, Function.comp_def] using hcount

end MockProvider.Utf8
