import MockProvider.Proofs.Matching.SelfMatch

/-!
# Bodies without rules

Where no rules are declared for bodies, a JSON body has no mismatches exactly when it is equal to
the expected one: `matchJson_eq_nil_iff`. The comparison looks up each expected member by its key
and then looks for further ones; equality goes through both lists of members at once. As keys
ascend, the two agree: `sameMembers_iff`.

What equality means, key by key and position by position, is said by `Json.Equal`; in these terms
the comparison is decided by `matchJson_without_rules`.
-/

namespace MockProvider

/-! ## Members by their keys -/

namespace Json

/-- Members with ascending keys are equal when each of one side is found on the other with an equal
    value, and no key of the other side is missing. -/
theorem sameMembers_iff {as bs : List (String × Json)} (ha : Assoc.Ascending as)
    (hb : Assoc.Ascending bs) :
    sameMembers as bs = true ↔
      (∀ a ∈ as, ∃ value, Assoc.get? bs a.1 = some value ∧ a.2.same value = true) ∧
        ∀ b ∈ bs, Assoc.contains as b.1 = true := by
  induction as generalizing bs with
  | nil =>
    cases bs with
    | nil => simp [sameMembers]
    | cons first bs =>
      refine iff_of_false (by simp [sameMembers]) fun hfound => ?_
      have hfirst := hfound.2 first List.mem_cons_self
      cases hfirst
  | cons first as ih =>
    obtain ⟨key, a⟩ := first
    cases bs with
    | nil =>
      refine iff_of_false (by simp [sameMembers]) fun hfound => ?_
      obtain ⟨value, hvalue, -⟩ := hfound.1 _ List.mem_cons_self
      cases hvalue
    | cons first bs =>
      obtain ⟨other, b⟩ := first
      obtain ⟨hlow, has⟩ := List.pairwise_cons.1 ha
      obtain ⟨hlow', hbs⟩ := List.pairwise_cons.1 hb
      by_cases hkeys : key = other
      · subst hkeys
        have hfound : ∀ m ∈ as, Assoc.get? ((key, b) :: bs) m.1 = Assoc.get? bs m.1 :=
          fun m hm => if_neg (String.ne_of_lt (hlow m hm))
        have hfound' : ∀ m ∈ bs, Assoc.get? ((key, a) :: as) m.1 = Assoc.get? as m.1 :=
          fun m hm => if_neg (String.ne_of_lt (hlow' m hm))
        have hleft : (∀ m ∈ as, ∃ value, Assoc.get? ((key, b) :: bs) m.1 = some value ∧
              m.2.same value = true) ↔
            ∀ m ∈ as, ∃ value, Assoc.get? bs m.1 = some value ∧ m.2.same value = true :=
          forall₂_congr fun m hm => by rw [hfound m hm]
        have hright : (∀ m ∈ bs, Assoc.contains ((key, a) :: as) m.1 = true) ↔
            ∀ m ∈ bs, Assoc.contains as m.1 = true :=
          forall₂_congr fun m hm => by rw [Assoc.contains, Assoc.contains, hfound' m hm]
        rw [List.forall_mem_cons, List.forall_mem_cons, hleft, hright, sameMembers,
          beq_self_eq_true, Bool.true_and, Bool.and_eq_true_iff, ih has hbs]
        simp [Assoc.get?_cons, Assoc.contains, and_assoc]
      -- each of two first keys that differ would have to stand behind the other
      · refine iff_of_false (by simp [sameMembers, hkeys]) fun ⟨hleft, hright⟩ => ?_
        obtain ⟨value, hvalue, -⟩ := hleft _ List.mem_cons_self
        rw [Assoc.get?_cons, if_neg (Ne.symm hkeys)] at hvalue
        obtain ⟨value', hvalue'⟩ := Option.isSome_iff_exists.1 (hright _ List.mem_cons_self)
        rw [Assoc.get?_cons, if_neg hkeys] at hvalue'
        have habove := hlow' _ (Assoc.mem_of_get? hvalue)
        have hbelow := hlow _ (Assoc.mem_of_get? hvalue')
        exact String.lt_irrefl _ (String.lt_trans habove hbelow)

/-! ## Equality, part by part -/

/-- Two values are equal: scalars of one type are the same, arrays have equal items at the same
    positions, and objects have the same keys with equal values. An integer never equals a floating
    point number, and the two floating point zeros are equal. -/
inductive Equal : Json → Json → Prop
  | null : Equal .null .null
  | bool (b : Bool) : Equal (.bool b) (.bool b)
  | integer (value : Int) {h h'} : Equal (.number (.integer value h)) (.number (.integer value h'))
  | float {x y : Binary64} (same : x = y ∨ x.isZero = true ∧ y.isZero = true) :
      Equal (.number (.float x)) (.number (.float y))
  | string (s : String) : Equal (.string s) (.string s)
  | array {as bs : List Json} (length : as.length = bs.length)
      (items : ∀ (position : Nat) (x y : Json), as[position]? = some x → bs[position]? = some y →
        Equal x y) :
      Equal (.array as) (.array bs)
  | object {as bs : List (String × Json)}
      (keys : ∀ key, Assoc.contains as key = Assoc.contains bs key)
      (values : ∀ key x y, Assoc.get? as key = some x → Assoc.get? bs key = some y → Equal x y) :
      Equal (.object as) (.object bs)

/-- Apart from the two zeros, equal values are the same number. -/
theorem sameValue_iff {x y : Binary64} :
    x.sameValue y = true ↔ x = y ∨ x.isZero = true ∧ y.isZero = true := by
  obtain ⟨negative, rank, hrank⟩ := x
  obtain ⟨negative', rank', hrank'⟩ := y
  simp only [Binary64.sameValue, Binary64.isZero, Bool.and_eq_true, Bool.or_eq_true, beq_iff_eq,
    Binary64.mk.injEq]
  constructor
  · rintro ⟨rfl, rfl | hsign⟩
    · exact Or.inr ⟨rfl, rfl⟩
    · exact Or.inl ⟨hsign, rfl⟩
  · rintro (⟨hsign, hsame⟩ | ⟨hzero, hzero'⟩)
    · exact ⟨hsame, Or.inr hsign⟩
    · exact ⟨hzero.trans hzero'.symm, Or.inl hzero⟩

theorem number_same_iff_equal (m n : Number) : m.same n = true ↔ Equal (.number m) (.number n) := by
  cases m with
  | integer a ha =>
    cases n with
    | integer b hb =>
      rw [Number.same, beq_iff_eq]
      constructor
      · rintro rfl
        exact .integer a
      · rintro ⟨⟩
        rfl
    | float y =>
      apply iff_of_false Bool.false_ne_true
      rintro ⟨⟩
  | float x =>
    cases n with
    | integer b hb =>
      apply iff_of_false Bool.false_ne_true
      rintro ⟨⟩
    | float y =>
      rw [Number.same, sameValue_iff]
      constructor
      · exact .float
      · rintro (_ | _)
        assumption

theorem sameItems_iff {as bs : List Json} :
    sameItems as bs = true ↔ as.length = bs.length ∧ ∀ (position : Nat) (x y : Json),
      as[position]? = some x → bs[position]? = some y → x.same y = true := by
  induction as generalizing bs with
  | nil => cases bs <;> simp [sameItems]
  | cons a as ih =>
    cases bs with
    | nil => simp [sameItems]
    | cons b bs =>
      rw [sameItems, Bool.and_eq_true_iff, ih, List.length_cons, List.length_cons,
        Nat.add_right_cancel_iff]
      constructor
      · rintro ⟨hfirst, hlength, hrest⟩
        refine ⟨hlength, fun position x y hx hy => ?_⟩
        cases position with
        | zero =>
          cases hx
          cases hy
          exact hfirst
        | succ position => exact hrest position x y hx hy
      · rintro ⟨hlength, hitems⟩
        exact ⟨hitems 0 a b rfl rfl, hlength, fun position => hitems (position + 1)⟩

/-- Members with ascending keys are equal when the same keys are found on both sides, with equal
    values. -/
theorem sameMembers_iff_get? {as bs : List (String × Json)} (ha : Assoc.Ascending as)
    (hb : Assoc.Ascending bs) :
    sameMembers as bs = true ↔ (∀ key, Assoc.contains as key = Assoc.contains bs key) ∧
      ∀ key x y, Assoc.get? as key = some x → Assoc.get? bs key = some y → x.same y = true := by
  rw [sameMembers_iff ha hb]
  constructor
  · rintro ⟨hleft, hright⟩
    refine ⟨fun key => Bool.eq_iff_iff.2 ⟨fun h => ?_, fun h => ?_⟩, fun key x y hx hy => ?_⟩
    · obtain ⟨x, hx⟩ := Option.isSome_iff_exists.1 h
      obtain ⟨y, hy, -⟩ := hleft _ (Assoc.mem_of_get? hx)
      exact Option.isSome_iff_exists.2 ⟨y, hy⟩
    · obtain ⟨y, hy⟩ := Option.isSome_iff_exists.1 h
      exact hright _ (Assoc.mem_of_get? hy)
    · obtain ⟨value, hvalue, hsame⟩ := hleft _ (Assoc.mem_of_get? hx)
      obtain rfl := Option.some.inj (hvalue.symm.trans hy)
      exact hsame
  · rintro ⟨hkeys, hvalues⟩
    refine ⟨fun (key, x) hm => ?_, fun (key, y) hm => ?_⟩
    · have hx := ha.get?_of_mem hm
      have hfound : Assoc.contains bs key = true := (hkeys key).symm.trans (by simp [Assoc.contains, hx])
      obtain ⟨y, hy⟩ := Option.isSome_iff_exists.1 hfound
      exact ⟨y, hy, hvalues key x y hx hy⟩
    · rw [hkeys, Assoc.contains, hb.get?_of_mem hm]
      rfl

mutual

/-- The comparison of values that are ordered tells whether they are equal. -/
theorem same_iff_equal : ∀ {a : Json} (b : Json), a.Ordered → b.Ordered →
    (a.same b = true ↔ a.Equal b)
  | .null, b, _, _ => by
    cases b with
    | null => exact iff_of_true rfl .null
    | _ => exact iff_of_false Bool.false_ne_true nofun
  | .bool a, b, _, _ => by
    cases b with
    | bool b =>
      rw [same, beq_iff_eq]
      constructor
      · rintro rfl
        exact .bool a
      · rintro ⟨⟩
        rfl
    | _ => exact iff_of_false Bool.false_ne_true nofun
  | .number m, b, _, _ => by
    cases b with
    | number n => exact number_same_iff_equal m n
    | _ => exact iff_of_false Bool.false_ne_true nofun
  | .string s, b, _, _ => by
    cases b with
    | string t =>
      rw [same, beq_iff_eq]
      constructor
      · rintro rfl
        exact .string s
      · rintro ⟨⟩
        rfl
    | _ => exact iff_of_false Bool.false_ne_true nofun
  | .array as, b, ha, hb => by
    cases b with
    | array bs =>
      have hparts : ∀ (position : Nat) (x y : Json), as[position]? = some x →
          bs[position]? = some y → (x.same y = true ↔ x.Equal y) := fun _ x y hx hy =>
        same_iff_equal_of_item ha x (List.mem_of_getElem? hx) y
          (hb.of_item (List.mem_of_getElem? hy))
      rw [same, sameItems_iff]
      constructor
      · rintro ⟨hlength, hitems⟩
        exact .array hlength fun position x y hx hy =>
          (hparts position x y hx hy).1 (hitems position x y hx hy)
      · rintro (_ | _ | _ | _ | _ | ⟨hlength, hitems⟩)
        exact ⟨hlength, fun position x y hx hy =>
          (hparts position x y hx hy).2 (hitems position x y hx hy)⟩
    | _ => exact iff_of_false Bool.false_ne_true nofun
  | .object as, b, ha, hb => by
    cases b with
    | object bs =>
      have hparts : ∀ key x y, Assoc.get? as key = some x → Assoc.get? bs key = some y →
          (x.same y = true ↔ x.Equal y) := fun key x y hx hy =>
        same_iff_equal_of_member ha.2 (key, x) (Assoc.mem_of_get? hx) y
          (orderedMembers_iff.1 hb.2 _ (Assoc.mem_of_get? hy))
      rw [same, sameMembers_iff_get? ha.1 hb.1]
      constructor
      · rintro ⟨hkeys, hvalues⟩
        exact .object hkeys fun key x y hx hy =>
          (hparts key x y hx hy).1 (hvalues key x y hx hy)
      · rintro (_ | _ | _ | _ | _ | _ | ⟨hkeys, hvalues⟩)
        exact ⟨hkeys, fun key x y hx hy => (hparts key x y hx hy).2 (hvalues key x y hx hy)⟩
    | _ => exact iff_of_false Bool.false_ne_true nofun

theorem same_iff_equal_of_item : ∀ {items : List Json}, OrderedItems items → ∀ x ∈ items,
    ∀ b : Json, b.Ordered → (x.same b = true ↔ x.Equal b)
  | [], _, _, hx, _, _ => nomatch hx
  | item :: items, ha, x, hx, b, hb => by
    rcases List.mem_cons.1 hx with h | h
    · rw [h]
      exact same_iff_equal b ha.1 hb
    · exact same_iff_equal_of_item ha.2 x h b hb

theorem same_iff_equal_of_member : ∀ {members : List (String × Json)}, OrderedMembers members →
    ∀ member ∈ members, ∀ b : Json, b.Ordered → (member.2.same b = true ↔ member.2.Equal b)
  | [], _, _, hx, _, _ => nomatch hx
  | (key, value) :: members, ha, member, hm, b, hb => by
    rcases List.mem_cons.1 hm with h | h
    · rw [h]
      exact same_iff_equal b ha.1 hb
    · exact same_iff_equal_of_member ha.2 member h b hb

end

end Json

namespace Matching

variable {rules : RuleTable}

/-! ## Values -/

theorem resolve_eq_none (h : rules.entries .body = []) (place : DocPath) :
    rules.resolve .body place = none := by
  rw [RuleTable.resolve, h]
  rfl

theorem compareLeaf_eq_nil_iff (h : rules.entries .body = []) (place : DocPath)
    (expected actual : Json) :
    compareLeaf rules place expected actual = [] ↔ expected.same actual = true := by
  rw [compareLeaf, resolve_eq_none h, outcome]
  change failuresAt place expected actual (if expected.same actual = true then [] else _) = [] ↔ _
  split
  · next hsame => simp [failuresAt, hsame]
  · next hdiffers => simp [failuresAt, hdiffers]

theorem checkMember_eq_nil_iff {place : DocPath} {actual : List (String × Json)} {key : String}
    {expected : Json} {check : Check} :
    checkMember place actual key expected check = [] ↔
      ∃ value, Assoc.get? actual key = some value ∧ check (place.field key) value = [] := by
  rw [checkMember]
  split
  · next value hvalue => simp [hvalue]
  · next hnone => simp [hnone]

theorem unexpectedMembers_eq_nil_iff {place : DocPath} {expected actual : List (String × Json)} :
    unexpectedMembers place expected actual = [] ↔
      ∀ member ∈ actual, Assoc.contains expected member.1 = true := by
  rw [unexpectedMembers, List.filterMap_eq_nil_iff]
  refine forall₂_congr fun member _ => ?_
  by_cases hfound : Assoc.contains expected member.1 = true <;> simp [hfound]

mutual

/-- Without rules for bodies a value is as expected when it is equal. -/
theorem checkOf_eq_nil_iff (h : rules.entries .body = []) : ∀ (expected : Json) (place : DocPath)
    (actual : Json), expected.Ordered → actual.Ordered →
      (checkOf rules expected place actual = [] ↔ expected.same actual = true)
  | .object expected, place, actual, he, ha => by
    cases actual with
    | object members =>
      have hmembers := membersCheck_eq_nil_iff h expected place members he.2 ha.2
      rw [checkOf, resolve_eq_none h]
      change membersCheck rules expected place members ++ unexpectedMembers place expected members =
        [] ↔ Json.sameMembers expected members = true
      rw [List.append_eq_nil_iff, hmembers, unexpectedMembers_eq_nil_iff,
        Json.sameMembers_iff he.1 ha.1]
    | _ =>
      rw [checkOf, resolve_eq_none h]
      · exact compareLeaf_eq_nil_iff h place _ _
      · simp
  | .array expected, place, actual, he, ha => by
    cases actual with
    | array items =>
      have hitems := itemChecks_eq_nil_iff h expected place 0 items he ha
      rw [checkOf, resolve_eq_none h]
      change checkItems none place expected (itemChecks rules expected) items = [] ↔
        Json.sameItems expected items = true
      rw [← hitems, checkItems]
      by_cases hlength : expected.length = items.length <;> simp [typeOnly, hlength]
    | _ =>
      rw [checkOf, resolve_eq_none h]
      · exact compareLeaf_eq_nil_iff h place _ _
      · simp
  | .null, place, actual, _, _ => by
    rw [checkOf]; exact compareLeaf_eq_nil_iff h place _ _; all_goals simp
  | .bool _, place, actual, _, _ => by
    rw [checkOf]; exact compareLeaf_eq_nil_iff h place _ _; all_goals simp
  | .number _, place, actual, _, _ => by
    rw [checkOf]; exact compareLeaf_eq_nil_iff h place _ _; all_goals simp
  | .string _, place, actual, _, _ => by
    rw [checkOf]; exact compareLeaf_eq_nil_iff h place _ _; all_goals simp

theorem itemChecks_eq_nil_iff (h : rules.entries .body = []) : ∀ (expected : List Json)
    (place : DocPath) (index : Nat) (actual : List Json), Json.OrderedItems expected →
      Json.OrderedItems actual →
      (expected.length = actual.length ∧
          checkPaired place index (itemChecks rules expected) actual = [] ↔
        Json.sameItems expected actual = true)
  | [], _, _, [], _, _ => by simp [itemChecks, checkPaired, Json.sameItems]
  | [], _, _, _ :: _, _, _ => by simp [Json.sameItems]
  | _ :: _, _, _, [], _, _ => by simp [Json.sameItems]
  | item :: expected, place, index, first :: actual, he, ha => by
    have hfirst := checkOf_eq_nil_iff h item (place.index index) first he.1 ha.1
    have hrest := itemChecks_eq_nil_iff h expected place (index + 1) actual he.2 ha.2
    rw [itemChecks, checkPaired, List.append_eq_nil_iff, hfirst, Json.sameItems,
      Bool.and_eq_true_iff, ← hrest, List.length_cons, List.length_cons, Nat.add_right_cancel_iff]
    exact and_left_comm

theorem membersCheck_eq_nil_iff (h : rules.entries .body = []) :
    ∀ (expected : List (String × Json)) (place : DocPath) (actual : List (String × Json)),
      Json.OrderedMembers expected → Json.OrderedMembers actual →
      (membersCheck rules expected place actual = [] ↔ ∀ member ∈ expected,
        ∃ value, Assoc.get? actual member.1 = some value ∧ member.2.same value = true)
  | [], _, _, _, _ => by simp [membersCheck]
  | (key, value) :: expected, place, actual, he, ha => by
    rw [membersCheck, List.append_eq_nil_iff, checkMember_eq_nil_iff,
      membersCheck_eq_nil_iff h expected place actual he.2 ha, List.forall_mem_cons]
    refine and_congr_left' (exists_congr fun found => and_congr_right fun hfound => ?_)
    have hordered := Json.orderedMembers_iff.1 ha _ (Assoc.mem_of_get? hfound)
    exact checkOf_eq_nil_iff h value _ found he.1 hordered

end

/-! ## Documents -/

/-- Without rules for bodies, octets are as expected when they are read as an equal document. -/
theorem matchJson_eq_nil_iff (h : rules.entries .body = []) (expected actual : Bytes) :
    matchJson rules expected actual = [] ↔
      ∃ e a, Json.parse expected = .ok e ∧ Json.parse actual = .ok a ∧ e.same a = true := by
  rw [matchJson]
  split
  · next hexpected => simp [hexpected]
  · next e hexpected =>
    split
    · next hactual => simp [hactual]
    · next a hactual =>
      have he := (Json.parse_shape hexpected).1
      have ha := (Json.parse_shape hactual).1
      rw [checkOf_eq_nil_iff h e .root a he ha]
      simp [hexpected, hactual]

/-- Without rules for bodies, two documents have no mismatches exactly when they are equal, and
    octets that are no document have one mismatch, for the whole body. -/
theorem matchJson_without_rules (h : rules.entries .body = []) (expected actual : Bytes) :
    (∀ e a, Json.parse expected = .ok e → Json.parse actual = .ok a →
      (matchJson rules expected actual = [] ↔ e.Equal a)) ∧
    ((∀ e, Json.parse expected ≠ .ok e) ∨ (∀ a, Json.parse actual ≠ .ok a) →
      ∃ m, matchJson rules expected actual = [m] ∧ m.kind = .body ∧ m.path = DocPath.root.render) := by
  constructor
  · intro e a he ha
    rw [matchJson_eq_nil_iff h, ← Json.same_iff_equal a (Json.parse_shape he).1 (Json.parse_shape ha).1]
    simp [he, ha]
  · intro hunreadable
    rw [matchJson]
    split
    · exact ⟨_, rfl, rfl, rfl⟩
    · next e he =>
      split
      · exact ⟨_, rfl, rfl, rfl⟩
      · next a ha =>
        rcases hunreadable with hnone | hnone
        · exact absurd he (hnone e)
        · exact absurd ha (hnone a)

/-- The two zeros are equal, and an open bracket is no document. -/
theorem matchJson_without_rules_zeros :
    let zero := Bytes.ofString "[0.0]"
    let bracket := Bytes.ofString "["
    let e : Json := .array [.number (.float (.zero false))]
    let a : Json := .array [.number (.float (.zero true))]
    RuleTable.empty.entries .body = [] ∧ Json.parse zero = .ok e ∧
      Json.parse (Bytes.ofString "[-0.0]") = .ok a ∧ e.Equal a ∧
      (∀ v, Json.parse bracket ≠ .ok v) ∧
      ∃ m, matchJson .empty zero bracket = [m] ∧ m.kind = .body ∧ m.path = DocPath.root.render := by
  intro zero bracket e a
  have hrules : RuleTable.empty.entries .body = [] := rfl
  have he : Json.parse zero = .ok e := by decide +kernel
  have ha : Json.parse (Bytes.ofString "[-0.0]") = .ok a := by decide +kernel
  have hpasses : matchJson .empty zero (Bytes.ofString "[-0.0]") = [] := by decide +kernel
  have hbracket : ∀ v, Json.parse bracket ≠ .ok v := by
    intro v hv
    have hfails : (Json.parse bracket).toBool = false := by decide +kernel
    rw [hv] at hfails
    cases hfails
  exact ⟨hrules, he, ha, ((matchJson_without_rules hrules _ _).1 e a he ha).1 hpasses, hbracket,
    (matchJson_without_rules hrules _ _).2 (Or.inr hbracket)⟩

end Matching

end MockProvider
