import MockProvider.Proofs.Matching.Equality

/-!
# One rule for a whole body

A rule at the root that cascades is in force at every place of a body. The comparison of a JSON body
goes down both documents at once; `Json.Compared` lists the places that it gets to, with the two
values that meet there. Under such a rule a body has no mismatches exactly when nowhere the received
value fails the rule or lacks an expected member: `checkOf_eq_nil_iff_compared`.

Where the rule asks for the type, this is the recursive relation `Json.Conforms`:
`matchJson_type_eq_nil_iff`.
-/

namespace MockProvider

/-! ## Places that are compared -/

namespace Json

/-- The expected item for a received one: the one at its position, or the first one past their
    end. -/
def templateAt (expected : List Json) (position : Nat) : Option Json :=
  expected[position]?.or expected.head?

/-- A step down into both documents at once, and the values that meet below it. -/
inductive Inside : Json → Json → DocPath.Step → Json → Json → Prop
  | member {expected actual : List (String × Json)} {key : String} {x y : Json}
      (hx : (key, x) ∈ expected) (hy : Assoc.get? actual key = some y) :
      Inside (.object expected) (.object actual) (.field key) x y
  | item {expected actual : List Json} {position : Nat} {x y : Json}
      (hx : templateAt expected position = some x) (hy : actual[position]? = some y) :
      Inside (.array expected) (.array actual) (.index position) x y

/-- The places that a comparison gets to from the root, and the values that are compared there. -/
inductive Compared (expected actual : Json) : DocPath → Json → Json → Prop
  | root : Compared expected actual .root expected actual
  | step {place : DocPath} {step : DocPath.Step} {x y x' y' : Json}
      (hplace : Compared expected actual place x y) (hinside : Inside x y step x' y') :
      Compared expected actual (place.push step) x' y'

/-- Of two objects the second has all keys of the first. -/
def HasKeys : Json → Json → Prop
  | .object expected, .object actual => ∀ member ∈ expected, Assoc.contains actual member.1 = true
  | _, _ => True

theorem mem_of_templateAt {expected : List Json} {position : Nat} {template : Json}
    (h : templateAt expected position = some template) : template ∈ expected := by
  rcases Option.or_eq_some_iff.1 h with hat | ⟨-, hfirst⟩
  · exact List.mem_of_getElem? hat
  · exact List.mem_of_head? hfirst

/-- A comparison goes down in the expected document, so it comes to an end. -/
theorem Inside.depth_lt {expected actual x y : Json} {step : DocPath.Step}
    (h : Inside expected actual step x y) : x.depth < expected.depth := by
  cases h with
  | member hx hy => exact Nat.lt_succ_of_le (depthMembers_le_iff.1 (Nat.le_refl _) _ hx)
  | item hx hy => exact depth_lt_of_item (mem_of_templateAt hx)

/-- What holds for a value when it holds for all expected values inside of it holds for all values. -/
theorem inside_induction {motive : Json → Prop}
    (down : ∀ expected, (∀ actual step x y, Inside expected actual step x y → motive x) →
      motive expected) (expected : Json) : motive expected :=
  down expected fun _ _ x _ _ => inside_induction down x
termination_by expected.depth
decreasing_by exact Inside.depth_lt ‹_›

end Json

/-! ## Tables with one rule -/

/-- The only rule for bodies stands at the root and cascades. -/
structure RuleTable.Throughout (t : RuleTable) (rule : Rule) : Prop where
  entries : ∃ logic, t.entries .body = [⟨.root, ⟨[rule], logic⟩⟩]
  cascades : rule.cascades = true

namespace RuleTable

variable {t : RuleTable} {rule : Rule} {r : Resolved}

/-- The rule is in force at every place, declared there or above. -/
theorem Throughout.resolve (h : t.Throughout rule) (place : DocPath) :
    ∃ r, t.resolve .body place = some r ∧ r.rules = [rule] := by
  obtain ⟨logic, hentries⟩ := h.entries
  have hlist : RuleList.cascades ⟨[rule], logic⟩ = true := by simp [RuleList.cascades, h.cascades]
  have hcandidate : candidate? place ⟨.root, ⟨[rule], logic⟩⟩ =
      some ⟨1, 2, ⟨⟨[rule], logic⟩, decide (1 < place.length)⟩⟩ := by
    simp [candidate?, DocPath.weightAgainst, DocPath.root, DocPath.stepsWeight, DocPath.length, hlist]
  refine ⟨⟨⟨[rule], logic⟩, decide (1 < place.length)⟩, ?_, ?_⟩
  · rw [RuleTable.resolve, hentries, List.filterMap_cons, hcandidate]
    rfl
  · simp [Resolved.rules, h.cascades]

theorem Resolved.failures_of_rules (hr : r.rules = [rule]) (expected actual : Json) :
    r.failures expected actual = (rule.failure expected actual).toList := by
  rw [Resolved.failures, hr]
  -- of one rule all hold when one of them holds
  cases r.list.logic <;> cases hfailure : rule.failure expected actual <;> simp [hfailure]

/-- For two arrays a rule that cascades asks for its bounds and nothing else. -/
theorem Resolved.bounds_of_rules (hr : r.rules = [rule]) (hcascades : rule.cascades = true)
    (expected actual : List Json) :
    (r.bounds?.bind fun (least, most) => boundsFailure actual.length least most) =
      rule.failure (.array expected) (.array actual) := by
  rw [Resolved.bounds?, hr]
  cases rule with
  | type => rfl
  | minMax least most => rfl
  | equality | regex | contains => cases hcascades

end RuleTable

namespace Matching

variable {rules : RuleTable} {rule : Rule}

theorem wholeRules?_of_rules {r : RuleTable.Resolved} (hr : r.rules = [rule])
    (hcascades : rule.cascades = true) : wholeRules? (some r) = none := by
  have hjudges : judgesValue rule = false := by
    cases rule with
    | type | minMax => rfl
    | equality | regex | contains => cases hcascades
  simp [wholeRules?, hr, hjudges]

theorem typeOnly_of_rules {r : RuleTable.Resolved} (hr : r.rules = [rule])
    (hcascades : rule.cascades = true) : typeOnly (some r) = true := by
  simp [typeOnly, RuleTable.Resolved.hasType, hr, hcascades]

/-! ## Checks of lists -/

theorem itemChecks_eq_map (rules : RuleTable) (expected : List Json) :
    itemChecks rules expected = expected.map (checkOf rules) := by
  induction expected with
  | nil => rfl
  | cons item expected ih => rw [itemChecks, ih, List.map_cons]

theorem checkPaired_eq_nil_iff {place : DocPath} {index : Nat} {checks : List Check}
    {items : List Json} :
    checkPaired place index checks items = [] ↔
      ∀ (position : Nat) (check : Check) (item : Json), checks[position]? = some check →
        items[position]? = some item → check (place.index (index + position)) item = [] := by
  induction checks generalizing index items with
  | nil => simp [checkPaired]
  | cons first checks ih =>
    cases items with
    | nil => simp [checkPaired]
    | cons item items =>
      rw [checkPaired, List.append_eq_nil_iff, ih]
      constructor
      · rintro ⟨hfirst, hrest⟩ (_ | position) check other hcheck hother
        · cases hcheck
          cases hother
          exact hfirst
        · rw [← Nat.add_assoc, Nat.add_right_comm]
          exact hrest position check other hcheck hother
      · intro h
        refine ⟨h 0 first item rfl rfl, fun position check other hcheck hother => ?_⟩
        rw [Nat.add_right_comm]
        exact h (position + 1) check other hcheck hother

theorem checkEach_eq_nil_iff {place : DocPath} {check : Check} {index : Nat} {items : List Json} :
    checkEach place check index items = [] ↔
      ∀ (position : Nat) (item : Json), items[position]? = some item →
        check (place.index (index + position)) item = [] := by
  induction items generalizing index with
  | nil => simp [checkEach]
  | cons first items ih =>
    rw [checkEach, List.append_eq_nil_iff, ih]
    constructor
    · rintro ⟨hfirst, hrest⟩ (_ | position) item hitem
      · cases hitem
        exact hfirst
      · rw [← Nat.add_assoc, Nat.add_right_comm]
        exact hrest position item hitem
    · intro h
      refine ⟨h 0 first rfl, fun position item hitem => ?_⟩
      rw [Nat.add_right_comm]
      exact h (position + 1) item hitem

/-- Every item that has a template passes its check. -/
theorem checkTemplates_eq_nil_iff {place : DocPath} {expected actual : List Json} :
    checkTemplates place (itemChecks rules expected) actual = [] ↔
      ∀ position x y, Json.templateAt expected position = some x → actual[position]? = some y →
        checkOf rules x (place.index position) y = [] := by
  cases expected with
  | nil => simp [itemChecks, checkTemplates, Json.templateAt]
  | cons first expected =>
    rw [itemChecks_eq_map, List.map_cons, checkTemplates, List.append_eq_nil_iff,
      ← List.map_cons, checkPaired_eq_nil_iff, checkEach_eq_nil_iff, List.length_map]
    constructor
    · rintro ⟨hpaired, hpast⟩ position x y hx hy
      cases hat : (first :: expected)[position]? with
      | some template =>
        rw [Json.templateAt, hat, Option.some_or] at hx
        obtain rfl := Option.some.inj hx
        have hcheck : ((first :: expected).map (checkOf rules))[position]? =
            some (checkOf rules template) := by
          rw [List.getElem?_map, hat]
          rfl
        have hholds := hpaired position _ y hcheck hy
        rwa [Nat.zero_add] at hholds
      | none =>
        rw [Json.templateAt, hat, Option.none_or] at hx
        cases hx
        obtain ⟨past, rfl⟩ := Nat.exists_eq_add_of_le (List.getElem?_eq_none_iff.1 hat)
        exact hpast past y (by rw [List.getElem?_drop, hy])
    · intro h
      constructor
      · intro position check y hcheck hy
        rw [List.getElem?_map] at hcheck
        obtain ⟨x, hx, rfl⟩ := Option.map_eq_some_iff.1 hcheck
        rw [Nat.zero_add]
        exact h position x y (by rw [Json.templateAt, hx, Option.some_or]) hy
      · intro past y hy
        rw [List.getElem?_drop] at hy
        have hnone : (first :: expected)[(first :: expected).length + past]? = none :=
          List.getElem?_eq_none (Nat.le_add_right _ _)
        exact h _ first y (by rw [Json.templateAt, hnone]; rfl) hy

theorem membersCheck_eq_nil_iff_forall {expected actual : List (String × Json)} {place : DocPath} :
    membersCheck rules expected place actual = [] ↔
      ∀ member ∈ expected, ∃ value, Assoc.get? actual member.1 = some value ∧
        checkOf rules member.2 (place.field member.1) value = [] := by
  induction expected with
  | nil => simp [membersCheck]
  | cons member expected ih =>
    obtain ⟨key, value⟩ := member
    rw [membersCheck, List.append_eq_nil_iff, checkMember_eq_nil_iff, ih, List.forall_mem_cons]

/-! ## Checks of values -/

theorem failure_objects (hcascades : rule.cascades = true) (expected actual : List (String × Json)) :
    rule.failure (.object expected) (.object actual) = none := by
  cases rule with
  | type | minMax => rfl
  | equality | regex | contains => cases hcascades

/-- What members ask for is that their keys are there and that the values under them pass. -/
theorem members_iff_inside {expected actual : List (String × Json)} {place : DocPath} :
    (∀ member ∈ expected, ∃ value, Assoc.get? actual member.1 = some value ∧
        checkOf rules member.2 (place.field member.1) value = []) ↔
      (Json.object expected).HasKeys (.object actual) ∧
        ∀ step x y, Json.Inside (.object expected) (.object actual) step x y →
          checkOf rules x (place.push step) y = [] := by
  constructor
  · intro h
    refine ⟨fun member hmember => ?_, fun step x y hinside => ?_⟩
    · obtain ⟨value, hvalue, -⟩ := h member hmember
      rw [Assoc.contains, hvalue]
      rfl
    · cases hinside with
      | member hx hy =>
        obtain ⟨value, hvalue, hpasses⟩ := h _ hx
        obtain rfl := Option.some.inj (hvalue.symm.trans hy)
        exact hpasses
  · rintro ⟨hkeys, hinside⟩ member hmember
    obtain ⟨value, hvalue⟩ := Option.isSome_iff_exists.1 (hkeys member hmember)
    exact ⟨value, hvalue, hinside _ _ _ (.member hmember hvalue)⟩

theorem items_iff_inside {expected actual : List Json} {place : DocPath} :
    (∀ position x y, Json.templateAt expected position = some x → actual[position]? = some y →
        checkOf rules x (place.index position) y = []) ↔
      ∀ step x y, Json.Inside (.array expected) (.array actual) step x y →
        checkOf rules x (place.push step) y = [] := by
  constructor
  · intro h step x y hinside
    cases hinside with
    | item hx hy => exact h _ x y hx hy
  · intro h position x y hx hy
    exact h (.index position) x y (.item hx hy)

theorem compareLeaf_throughout (h : rules.Throughout rule) (place : DocPath)
    (expected actual : Json) :
    compareLeaf rules place expected actual = [] ↔ rule.failure expected actual = none := by
  obtain ⟨r, hresolve, hr⟩ := h.resolve place
  rw [compareLeaf, hresolve, outcome, RuleTable.Resolved.failures_of_rules hr]
  cases rule.failure expected actual <;> simp [failuresAt]

/-- What one step of the comparison asks for: the value does not fail the rule and has the expected
    keys, and what is inside of it passes. -/
theorem checkOf_throughout (h : rules.Throughout rule) (expected : Json) (place : DocPath)
    (actual : Json) :
    checkOf rules expected place actual = [] ↔
      rule.failure expected actual = none ∧ expected.HasKeys actual ∧
        ∀ step x y, Json.Inside expected actual step x y →
          checkOf rules x (place.push step) y = [] := by
  obtain ⟨r, hresolve, hr⟩ := h.resolve place
  have hwhole := wholeRules?_of_rules hr h.cascades
  have htype := typeOnly_of_rules hr h.cascades
  -- values without common parts are compared as a whole
  have hleaf : expected.HasKeys actual → (∀ step x y, ¬ Json.Inside expected actual step x y) →
      (compareLeaf rules place expected actual = [] ↔
        rule.failure expected actual = none ∧ expected.HasKeys actual ∧
          ∀ step x y, Json.Inside expected actual step x y →
            checkOf rules x (place.push step) y = []) := fun hkeys hapart => by
    rw [compareLeaf_throughout h]
    exact ⟨fun hpasses => ⟨hpasses, hkeys, fun _ _ _ hin => absurd hin (hapart _ _ _)⟩, And.left⟩
  cases expected with
  | object es =>
    cases actual with
    | object as =>
      rw [checkOf, hresolve]
      simp only [hwhole, htype, if_true, List.append_nil]
      rw [membersCheck_eq_nil_iff_forall, members_iff_inside, failure_objects h.cascades es as]
      exact (and_iff_right rfl).symm
    | _ =>
      rw [checkOf, hresolve]
      · simp only [hwhole]
        exact hleaf trivial nofun
      · simp
  | array es =>
    cases actual with
    | array as =>
      rw [checkOf, hresolve]
      simp only [hwhole, checkItems, htype, if_true, Option.bind_some]
      rw [List.append_eq_nil_iff, RuleTable.Resolved.bounds_of_rules hr h.cascades es as,
        checkTemplates_eq_nil_iff, items_iff_inside]
      cases rule.failure (.array es) (.array as) <;> simp [Json.HasKeys]
    | _ =>
      rw [checkOf, hresolve]
      · simp only [hwhole]
        exact hleaf trivial nofun
      · simp
  | _ =>
    rw [checkOf]
    · exact hleaf trivial nofun
    · simp
    · simp

/-! ## The whole comparison -/

/-- Under a rule at the root a value passes when at every place that is compared the value there does
    not fail the rule and has the expected keys. -/
theorem checkOf_eq_nil_iff_compared (h : rules.Throughout rule) (expected actual : Json) :
    checkOf rules expected .root actual = [] ↔
      ∀ place x y, Json.Compared expected actual place x y →
        rule.failure x y = none ∧ x.HasKeys y := by
  constructor
  · intro hpasses place x y hcompared
    -- what passes at a place passes at all places inside of it
    have hthere : checkOf rules x place y = [] := by
      induction hcompared with
      | root => exact hpasses
      | step _ hinside ih => exact ((checkOf_throughout h _ _ _).1 ih).2.2 _ _ _ hinside
    obtain ⟨hfailure, hkeys, -⟩ := (checkOf_throughout h _ _ _).1 hthere
    exact ⟨hfailure, hkeys⟩
  · intro hall
    have hpasses : ∀ x place y, Json.Compared expected actual place x y →
        checkOf rules x place y = [] := by
      intro x
      induction x using Json.inside_induction with
      | down x ih =>
        intro place y hcompared
        obtain ⟨hfailure, hkeys⟩ := hall place x y hcompared
        refine (checkOf_throughout h x place y).2 ⟨hfailure, hkeys, fun step x' y' hinside => ?_⟩
        exact ih y step x' y' hinside _ y' (hcompared.step hinside)
    exact hpasses expected .root actual .root

end Matching

/-! ## The rule for the type -/

namespace Json

/-- A value conforms to an expected one when it has its type, as far down as the expected one goes.
    Further members of objects are allowed, and further items of arrays conform to the first
    expected one. -/
inductive Conforms : Json → Json → Prop
  | null : Conforms .null .null
  | bool (b c : Bool) : Conforms (.bool b) (.bool c)
  | number (m n : Number) : Conforms (.number m) (.number n)
  | string (s t : String) : Conforms (.string s) (.string t)
  | object {expected actual : List (String × Json)}
      (present : ∀ member ∈ expected, Assoc.contains actual member.1 = true)
      (members : ∀ key x y, (key, x) ∈ expected → Assoc.get? actual key = some y → Conforms x y) :
      Conforms (.object expected) (.object actual)
  | array {expected actual : List Json}
      (items : ∀ position x y, templateAt expected position = some x →
        actual[position]? = some y → Conforms x y) :
      Conforms (.array expected) (.array actual)

/-- What one step of the relation asks for. -/
theorem conforms_iff {expected actual : Json} :
    Conforms expected actual ↔ expected.sameType actual = true ∧ expected.HasKeys actual ∧
      ∀ step x y, Inside expected actual step x y → Conforms x y := by
  constructor
  · intro h
    cases h with
    | null | bool | number | string => exact ⟨rfl, trivial, nofun⟩
    | object present members =>
      refine ⟨rfl, present, fun step x y hinside => ?_⟩
      cases hinside with
      | member hx hy => exact members _ x y hx hy
    | array items =>
      refine ⟨rfl, trivial, fun step x y hinside => ?_⟩
      cases hinside with
      | item hx hy => exact items _ x y hx hy
  · rintro ⟨htype, hkeys, hinside⟩
    -- values of two types are out of the question, so one case is left for each type
    cases expected <;> cases actual <;> cases htype
    · exact .null
    · exact .bool _ _
    · exact .number _ _
    · exact .string _ _
    · exact .array fun position x y hx hy => hinside _ x y (.item hx hy)
    · exact .object hkeys fun key x y hx hy => hinside _ x y (.member hx hy)

end Json

namespace Matching

theorem typeFailure_eq_none_iff {expected actual : Json} :
    typeFailure expected actual = none ↔ expected.sameType actual = true := by
  rw [typeFailure]
  split
  · next hsame => simp [hsame]
  · next hdiffers => simp [hdiffers]

theorem checkOf_type_eq_nil_iff {rules : RuleTable} (h : rules.Throughout .type) (expected : Json) :
    ∀ place actual, checkOf rules expected place actual = [] ↔ expected.Conforms actual := by
  induction expected using Json.inside_induction with
  | down expected ih =>
    intro place actual
    rw [checkOf_throughout h, Json.conforms_iff, Rule.failure, typeFailure_eq_none_iff]
    refine and_congr_right' (and_congr_right' ?_)
    refine forall₃_congr fun step x y => forall_congr' fun hinside => ?_
    exact ih actual step x y hinside _ y

/-- Where the only rule for bodies asks for the type, at the root, a document has no mismatches
    exactly when it conforms to the expected one. -/
theorem matchJson_type_eq_nil_iff {rules : RuleTable} {logic : RuleLogic}
    (hrules : rules.entries .body = [⟨.root, ⟨[.type], logic⟩⟩]) {expected actual : Bytes}
    {e a : Json} (he : Json.parse expected = .ok e) (ha : Json.parse actual = .ok a) :
    matchJson rules expected actual = [] ↔ e.Conforms a := by
  have hthroughout : rules.Throughout .type := ⟨⟨logic, hrules⟩, rfl⟩
  rw [matchJson, he, ha]
  exact checkOf_type_eq_nil_iff hthroughout e .root a

def typeTable : RuleTable :=
  RuleTable.empty.add .body .root .type

/-- Further members and further items of the type of the first one are allowed. -/
theorem matchJson_type_furtherParts :
    let e : Json := .object [("a", .array [.ofNat 1])]
    let a : Json := .object [("a", .array [.ofNat 2, .ofNat 3]), ("b", .null)]
    typeTable.entries .body = [⟨.root, ⟨[.type], .all⟩⟩] ∧ Json.parse e.toBytes = .ok e ∧
      Json.parse a.toBytes = .ok a ∧ e.Conforms a := by
  intro e a
  have hrules : typeTable.entries .body = [⟨.root, ⟨[.type], .all⟩⟩] := rfl
  have he : Json.parse e.toBytes = .ok e := by decide +kernel
  have ha : Json.parse a.toBytes = .ok a := by decide +kernel
  have hpasses : matchJson typeTable e.toBytes a.toBytes = [] := by decide +kernel
  exact ⟨hrules, he, ha, (matchJson_type_eq_nil_iff hrules he ha).1 hpasses⟩

end Matching

end MockProvider
