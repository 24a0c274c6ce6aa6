import MockProvider.Proofs.Contract.Defects
import MockProvider.Rule.RuleList

/-!
# Definitions and where they stand

The location of a definition is part of the error when it cannot be read, and of nothing else:
readers of rules and of lists of rules are located. So at all locations the same definitions can be
read, and as the same rules.
-/

namespace MockProvider

theorem toOption_bind {ε α β : Type} (x : Except ε α) (f : α → Except ε β) :
    (x >>= f).toOption = x.toOption.bind fun a => (f a).toOption := by
  cases x <;> rfl

theorem toOption_map {ε α β : Type} (f : α → β) (x : Except ε α) :
    (x.map f).toOption = x.toOption.map f := by
  cases x <;> rfl

theorem exists_error_of_toOption {ε α : Type} {x : Except ε α} (h : x.toOption = none) :
    ∃ e, x = .error e := by
  cases x with
  | error e => exact ⟨e, rfl⟩
  | ok a => cases h

theorem eq_ok_of_toOption {ε α : Type} {x : Except ε α} {a : α} (h : x.toOption = some a) :
    x = .ok a := by
  cases x with
  | error e => cases h
  | ok b => rw [Option.some.inj h]

namespace Rule

theorem located_boundOf (definition : List (String × Json)) (key : String) :
    Located Defect.Anywhere fun location => boundOf location definition key := by
  simp only [boundOf]
  split
  · exact .ok none
  · exact .ok none
  · split
    · exact .ok _
    · exact .invalid _ trivial

theorem located_regexOf (definition : List (String × Json)) :
    Located Defect.Anywhere fun location => regexOf location definition := by
  simp only [regexOf]
  split
  · exact .invalid _ trivial
  · split
    · exact .ok _
    · exact .invalid _ trivial

theorem located_containsOf (definition : List (String × Json)) :
    Located Defect.Anywhere fun location => containsOf location definition := by
  simp only [containsOf]
  split
  · exact .ok _
  · exact .invalid _ trivial

theorem located_ofJson (value : Json) :
    Located Defect.Anywhere fun location => ofJson location value := by
  simp only [ofJson]
  split
  · exact .invalid _ trivial
  · next definition _ =>
    refine (located_boundOf definition "min").bind fun least => ?_
    refine (located_boundOf definition "max").bind fun most => ?_
    -- by the type that the definition gives, or by what else it has without one
    split
    · exact .ok _
    · exact located_regexOf definition
    · exact located_containsOf definition
    · split
      · exact .ok _
      · split
        · exact .ok _
        · exact .invalid _ trivial
    · split
      · exact located_regexOf definition
      · split
        · exact .ok _
        · exact .invalid _ trivial

end Rule

namespace RuleList

theorem located_rulesOf (position : Nat) (values : List Json) :
    Located Defect.Anywhere fun location => rulesOf location position values := by
  induction values generalizing position with
  | nil => exact .ok []
  | cons value values ih =>
    have hfirst : Located Defect.Anywhere fun location =>
        Rule.ofJson ((location.field "matchers").item position) value :=
      ((Rule.located_ofJson value).item position).below "matchers"
    refine hfirst.bind fun rule => ?_
    exact (ih (position + 1)).bind fun rules => .ok (rule :: rules)

theorem located_logicOf (value : Json) :
    Located Defect.Anywhere fun location => logicOf location value := by
  simp only [logicOf]
  split
  · exact .ok _
  · split
    · exact .ok _
    · split
      · exact .ok _
      · exact .invalid _ trivial

theorem located_ofJson (value : Json) :
    Located Defect.Anywhere fun location => ofJson location value := by
  simp only [ofJson]
  split
  · exact (Rule.located_ofJson value).map single
  · split
    · exact .invalid _ trivial
    · next items _ =>
      refine (located_logicOf value).bind fun logic => ?_
      exact (located_rulesOf 0 items).bind fun rules => .ok (RuleList.mk rules logic)

/-- What the definition of a list is read as does not depend on where it stands. -/
theorem toOption_ofJson (location location' : Location) (value : Json) :
    (ofJson location value).toOption = (ofJson location' value).toOption :=
  (located_ofJson value).toOption_eq location location'

end RuleList

end MockProvider
