import MockProvider.Rule.Basic
import MockProvider.Text.Basic

/-!
# Lists of rules

The rules that stand at one place, and whether all of them or one of them have to hold.
-/

namespace MockProvider

/-- How the rules of a list combine. -/
inductive RuleLogic where
  | all
  | any
deriving DecidableEq, Repr

def RuleLogic.word : RuleLogic → String
  | .all => "AND"
  | .any => "OR"

structure RuleList where
  rules : List Rule
  logic : RuleLogic := .all
deriving DecidableEq

namespace RuleList

def single (rule : Rule) : RuleList := ⟨[rule], .all⟩

/-- Whether some rule also holds below. -/
def cascades (list : RuleList) : Bool :=
  list.rules.any Rule.cascades

/-- The list with further rules; its logic stays. -/
def append (list : RuleList) (rules : List Rule) : RuleList :=
  { list with rules := list.rules ++ rules }

/-- Reads the definitions of a list, each at its location. -/
def rulesOf (location : Location) : (position : Nat) → List Json → Except ContractError (List Rule)
  | _, [] => .ok []
  | position, value :: values => do
    let rule ← Rule.ofJson ((location.field "matchers").item position) value
    let rules ← rulesOf location (position + 1) values
    return rule :: rules

def logicOf (location : Location) (value : Json) : Except ContractError RuleLogic :=
  match (value.get? "combine").bind Json.string? with
  | none => .ok .all
  | some word =>
    if Ascii.sameIgnoringCase word "and" then .ok .all
    else if Ascii.sameIgnoringCase word "or" then .ok .any
    else .error (.invalidField location (.unknownLogic word))

/-- Reads a list: an object with matchers, or a single definition. -/
def ofJson (location : Location) (value : Json) : Except ContractError RuleList :=
  match value.get? "matchers" with
  | none => (Rule.ofJson location value).map single
  | some matchers =>
    match matchers.items? with
    | none => .error (.invalidField location .rulesNotArray)
    | some items => do
      let logic ← logicOf location value
      let rules ← rulesOf location 0 items
      return ⟨rules, logic⟩

def toJson (list : RuleList) : Json :=
  .ofMembers
    [("combine", .string list.logic.word), ("matchers", .array (list.rules.map Rule.toJson))]

end RuleList

end MockProvider
