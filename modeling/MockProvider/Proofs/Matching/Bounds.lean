import MockProvider.Proofs.Matching.Cascading

/-!
# Bounds for a whole body

Where the only rule for bodies gives bounds at the root, it is in force at every place, like a rule
for the type. Every received array has to keep the bounds, and every other value has to have the type
of the expected one. What is expected in the place of an array does not matter, so an array passes
for a number or an object too: `matchJson_bounds_eq_nil_iff`, `matchJson_bounds_arrayForNumber`.
-/

namespace MockProvider

/-- A number of items keeps the bounds that there are. -/
def Within (least most : Option UInt64) (count : Nat) : Prop :=
  (∀ n ∈ least, n.toNat ≤ count) ∧ ∀ n ∈ most, count ≤ n.toNat

/-- What bounds ask for where two values meet. -/
structure Json.MeetsBounds (least most : Option UInt64) (expected actual : Json) : Prop where
  /-- The value has the type of the expected one, unless it is an array. -/
  type : expected.sameType actual = true ∨ ∃ items, actual = .array items
  /-- An array keeps the bounds, whatever is expected. -/
  size : ∀ items, actual = .array items → Within least most items.length
  /-- An object has the keys of an expected object. -/
  keys : expected.HasKeys actual

namespace Matching

variable {least most : Option UInt64}

theorem boundsFailure_eq_none_iff {count : Nat} :
    boundsFailure count least most = none ↔ Within least most count := by
  rw [boundsFailure, Option.or_eq_none_iff, Within]
  refine and_congr ?_ ?_
  · cases least <;> simp
  · cases most <;> simp

/-- The rule looks at the bounds of arrays and at the type of all else. -/
theorem minMax_failure_eq_none_iff {expected actual : Json} :
    (Rule.minMax least most).failure expected actual = none ↔
      (expected.sameType actual = true ∨ ∃ items, actual = .array items) ∧
        ∀ items, actual = .array items → Within least most items.length := by
  cases actual with
  | array items => simp [Rule.failure, boundsFailure_eq_none_iff]
  | _ => simp [Rule.failure, typeFailure_eq_none_iff]

/-- Where the only rule for bodies gives bounds, at the root, a document has no mismatches exactly
    when at every place that is compared an array keeps the bounds, any other value has the type of
    the expected one, and no expected key is missing. -/
theorem matchJson_bounds_eq_nil_iff {rules : RuleTable} {logic : RuleLogic}
    (hrules : rules.entries .body = [⟨.root, ⟨[.minMax least most], logic⟩⟩])
    {expected actual : Bytes} {e a : Json} (he : Json.parse expected = .ok e)
    (ha : Json.parse actual = .ok a) :
    matchJson rules expected actual = [] ↔
      ∀ place x y, Json.Compared e a place x y → Json.MeetsBounds least most x y := by
  have hthroughout : rules.Throughout (.minMax least most) := ⟨⟨logic, hrules⟩, rfl⟩
  rw [matchJson, he, ha]
  refine (checkOf_eq_nil_iff_compared hthroughout e a).trans ?_
  refine forall₃_congr fun place x y => forall_congr' fun _ => ?_
  rw [minMax_failure_eq_none_iff]
  constructor
  · rintro ⟨⟨htype, hsize⟩, hkeys⟩
    exact ⟨htype, hsize, hkeys⟩
  · intro h
    exact ⟨⟨h.type, h.size⟩, h.keys⟩

/-- At least one item in every array of a body. -/
def boundsTable : RuleTable :=
  RuleTable.empty.add .body .root (.minMax (some 1) none)

/-- An array of one item is received for a number. -/
theorem matchJson_bounds_sample :
    let e : Json := .object [("a", .ofNat 1)]
    let a : Json := .object [("a", .array [.ofNat 1])]
    boundsTable.entries .body = [⟨.root, ⟨[.minMax (some 1) none], .all⟩⟩] ∧
      Json.parse e.toBytes = .ok e ∧ Json.parse a.toBytes = .ok a ∧
      ∀ place x y, Json.Compared e a place x y → Json.MeetsBounds (some 1) none x y := by
  intro e a
  have hrules : boundsTable.entries .body = [⟨.root, ⟨[.minMax (some 1) none], .all⟩⟩] := rfl
  have he : Json.parse e.toBytes = .ok e := by decide +kernel
  have ha : Json.parse a.toBytes = .ok a := by decide +kernel
  have hpasses : matchJson boundsTable e.toBytes a.toBytes = [] := by decide +kernel
  exact ⟨hrules, he, ha, (matchJson_bounds_eq_nil_iff hrules he ha).1 hpasses⟩

/-- So bounds do not see to it that a value has the type of the expected one: an array passes for a
    number. -/
theorem matchJson_bounds_arrayForNumber :
    ¬ ∀ (rules : RuleTable) (logic : RuleLogic) (least most : Option UInt64)
      (expected actual : Bytes) (e a : Json),
      rules.entries .body = [⟨.root, ⟨[.minMax least most], logic⟩⟩] →
      Json.parse expected = .ok e → Json.parse actual = .ok a →
      matchJson rules expected actual = [] →
      ∀ place x y, Json.Compared e a place x y → x.sameType y = true := by
  intro hclaim
  let e : Json := .object [("a", .ofNat 1)]
  let a : Json := .object [("a", .array [.ofNat 1])]
  have hcompared : Json.Compared e a (DocPath.root.push (.field "a")) (.ofNat 1)
      (.array [.ofNat 1]) :=
    Json.Compared.root.step (.member List.mem_cons_self rfl)
  have htype := hclaim boundsTable .all (some 1) none e.toBytes a.toBytes e a rfl
    (by decide +kernel) (by decide +kernel) (by decide +kernel) _ _ _ hcompared
  cases htype

end Matching

end MockProvider
