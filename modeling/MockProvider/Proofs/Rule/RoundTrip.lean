import MockProvider.Proofs.Dict.Lookup
import MockProvider.Proofs.Json.Reading
import MockProvider.Rule.RuleList

/-!
# Reading back rules

A rule is read back from the definition that is written for it, and a list of rules from the
document that is written for it. Bounds have to bound something, as those of a rule that was read
do: `Rule.Bounded`.
-/

namespace MockProvider

/-! ## Values of definitions -/

namespace Json

theorem members?_ofMembers (members : List (String × Json)) :
    (ofMembers members).members? = some (Assoc.ofList members) := rfl

theorem get?_ofMembers (members : List (String × Json)) (key : String) :
    (ofMembers members).get? key = Assoc.get? members.reverse key :=
  Assoc.get?_ofList members key

/-- A number of 64 bits is read back. -/
theorem uint64?_ofNat (n : UInt64) : (ofNat n.toNat).uint64? = some n := by
  have hfits : n.toNat < 0x10000000000000000 := n.toNat_lt
  have hnumber : Number.ofNat n.toNat = .integer n.toNat ⟨by omega, by omega⟩ := dif_pos hfits
  rw [ofNat, uint64?, hnumber, Number.toUInt64?, if_pos (Int.natCast_nonneg _), Int.toNat_natCast,
    UInt64.ofNat_toNat]

end Json

namespace Pattern.Anchored

/-- A pattern is read back from its text. -/
theorem ofText?_text (a : Anchored) : ofText? a.text = some a := by
  have hcompiled := a.compiled
  unfold ofText?
  split
  · exact congrArg some (eq_of_text rfl)
  · next hnone =>
    rw [hcompiled] at hnone
    cases hnone

end Pattern.Anchored

/-! ## Rules -/

namespace Rule

/-- Bounds are not both missing. -/
def Bounded : Rule → Prop
  | .minMax least most => (least.isSome || most.isSome) = true
  | _ => True

theorem regexOf_bounded {location : Location} {definition : List (String × Json)} {r : Rule}
    (h : regexOf location definition = .ok r) : r.Bounded := by
  unfold regexOf at h
  split at h
  · cases h
  · split at h
    · cases h
      trivial
    · cases h

theorem containsOf_bounded {location : Location} {definition : List (String × Json)} {r : Rule}
    (h : containsOf location definition = .ok r) : r.Bounded := by
  unfold containsOf at h
  split at h
  · cases h
    trivial
  · cases h

/-- Rules that were read have a bound if they are bounds. -/
theorem bounded_of_ofJson {location : Location} {value : Json} {r : Rule}
    (h : ofJson location value = .ok r) : r.Bounded := by
  unfold ofJson at h
  split at h
  · cases h
  · obtain ⟨least, _, h⟩ := bind_eq_ok.1 h
    obtain ⟨most, _, h⟩ := bind_eq_ok.1 h
    simp only at h
    split at h
    · cases h
      trivial
    · exact regexOf_bounded h
    · exact containsOf_bounded h
    · split at h
      · next hbounded =>
        cases h
        exact hbounded.1
      · split at h
        · cases h
          trivial
        · cases h
    · split at h
      · exact regexOf_bounded h
      · split at h
        · next hbounded =>
          cases h
          exact hbounded
        · cases h

/-- A bound is read back from its member. -/
theorem boundOf_ofNat (location : Location) {definition : List (String × Json)} {key : String}
    {bound : Option UInt64}
    (h : Assoc.get? definition key = bound.map fun n => Json.ofNat n.toNat) :
    boundOf location definition key = .ok bound := by
  rw [boundOf, h]
  cases bound with
  | none => rfl
  | some n =>
    have hread := Json.uint64?_ofNat n
    rw [Json.ofNat] at hread
    simp only [Option.map_some, Json.ofNat, hread]

theorem ofJson_minMax (location : Location) {least most : Option UInt64}
    (h : (minMax least most).Bounded) :
    ofJson location (minMax least most).toJson = .ok (minMax least most) := by
  obtain ⟨definition, hdefinition⟩ : ∃ definition, definition = Assoc.ofList
      (("match", .string "type") :: (boundMember "min" least ++ boundMember "max" most)) := ⟨_, rfl⟩
  -- with or without either bound the three members are found under their own keys
  have hmatch : Assoc.get? definition "match" = some (.string "type") := by
    rw [hdefinition, Assoc.get?_ofList]
    cases least <;> cases most <;> simp [boundMember, Assoc.get?_cons]
  have hleast : Assoc.get? definition "min" = least.map fun n => Json.ofNat n.toNat := by
    rw [hdefinition, Assoc.get?_ofList]
    cases least <;> cases most <;> simp [boundMember, Assoc.get?_cons]
  have hmost : Assoc.get? definition "max" = most.map fun n => Json.ofNat n.toNat := by
    rw [hdefinition, Assoc.get?_ofList]
    cases least <;> cases most <;> simp [boundMember, Assoc.get?_cons]
  have hmembers : (minMax least most).toJson.members? = some definition := by
    rw [hdefinition, toJson, Json.members?_ofMembers]
  have hbounded : (least.isSome || most.isSome) = true := h
  simp [ofJson, hmembers, boundOf_ofNat location hleast, boundOf_ofNat location hmost, hmatch,
    Json.string?, hbounded, bind, Except.bind]

/-- A rule is read back from its definition. -/
theorem ofJson_toJson (location : Location) {r : Rule} (h : r.Bounded) :
    ofJson location r.toJson = .ok r := by
  cases r with
  | equality => rfl
  | type => rfl
  | regex pattern =>
    simp [toJson, ofJson, Json.members?_ofMembers, boundOf, regexOf, Assoc.get?_ofList,
      Assoc.get?_cons, Json.string?, Pattern.Anchored.ofText?_text, bind, Except.bind]
  | contains text =>
    simp [toJson, ofJson, Json.members?_ofMembers, boundOf, containsOf, Assoc.get?_ofList,
      Assoc.get?_cons, Json.string?, bind, Except.bind]
  | minMax least most => exact ofJson_minMax location h

end Rule

/-! ## Lists -/

namespace RuleList

/-- Bounds among the rules bound something. -/
def Bounded (list : RuleList) : Prop :=
  ∀ rule ∈ list.rules, rule.Bounded

theorem bounded_of_rulesOf {location : Location} {position : Nat} {values : List Json}
    {rules : List Rule} (h : rulesOf location position values = .ok rules) :
    ∀ rule ∈ rules, rule.Bounded := by
  induction values generalizing position rules with
  | nil =>
    cases h
    simp
  | cons value values ih =>
    obtain ⟨rule, hrule, h⟩ := bind_eq_ok.1 h
    obtain ⟨rules, hrules, h⟩ := bind_eq_ok.1 h
    cases h
    exact List.forall_mem_cons.2 ⟨Rule.bounded_of_ofJson hrule, ih hrules⟩

theorem bounded_of_ofJson {location : Location} {value : Json} {list : RuleList}
    (h : ofJson location value = .ok list) : list.Bounded := by
  unfold ofJson at h
  split at h
  · obtain ⟨rule, hrule, rfl⟩ := map_eq_ok.1 h
    intro other hother
    rw [List.mem_singleton.1 hother]
    exact Rule.bounded_of_ofJson hrule
  · split at h
    · cases h
    · obtain ⟨logic, _, h⟩ := bind_eq_ok.1 h
      obtain ⟨rules, hrules, h⟩ := bind_eq_ok.1 h
      cases h
      exact bounded_of_rulesOf hrules

theorem Bounded.append {list other : RuleList} (h : list.Bounded) (hother : other.Bounded) :
    (list.append other.rules).Bounded := by
  intro rule hrule
  rcases List.mem_append.1 hrule with hrule | hrule
  · exact h rule hrule
  · exact hother rule hrule

theorem rulesOf_toJson (location : Location) (position : Nat) {rules : List Rule}
    (h : ∀ rule ∈ rules, rule.Bounded) :
    rulesOf location position (rules.map Rule.toJson) = .ok rules := by
  induction rules generalizing position with
  | nil => rfl
  | cons rule rules ih =>
    obtain ⟨hfirst, hrest⟩ := List.forall_mem_cons.1 h
    simp only [List.map_cons, rulesOf, Rule.ofJson_toJson _ hfirst, ih (position + 1) hrest, bind,
      Except.bind]
    rfl

theorem get?_matchers (list : RuleList) :
    list.toJson.get? "matchers" = some (.array (list.rules.map Rule.toJson)) := by
  rw [toJson, Json.get?_ofMembers]
  rfl

/-- A list of rules is read back. -/
theorem ofJson_toJson (location : Location) {list : RuleList} (h : list.Bounded) :
    ofJson location list.toJson = .ok list := by
  have hcombine : list.toJson.get? "combine" = some (.string list.logic.word) := by
    rw [toJson, Json.get?_ofMembers]
    rfl
  have hlogic : logicOf location list.toJson = .ok list.logic := by
    rw [logicOf, hcombine]
    cases list.logic with
    | all => rfl
    | any => rfl
  simp only [ofJson, get?_matchers, Json.items?, hlogic, rulesOf_toJson location 0 h, bind, Except.bind]
  rfl

end RuleList

end MockProvider
