import MockProvider.Contract.Error
import MockProvider.Json.Basic
import MockProvider.Pattern.Anchored

/-!
# Matching rules

A rule relaxes or redirects the comparison of a value: it may ask for the same value, for the same
type, for a text that a pattern matches or that contains another, or for a number of items. Rules
on types and on numbers of items also hold for everything below the place that they stand at: they
cascade.

`Rule.ofJson` reads a definition and `Rule.toJson` writes one.
-/

namespace MockProvider

/-- A matching rule. Bounds on the number of items also ask for the same type. -/
inductive Rule where
  | equality
  | type
  | regex (pattern : Pattern.Anchored)
  | contains (text : String)
  | minMax (least most : Option UInt64)
deriving DecidableEq

namespace Rule

/-- Whether the rule also holds below the place that it stands at. -/
def cascades : Rule → Bool
  | .type => true
  | .minMax _ _ => true
  | _ => false

def boundOf (location : Location) (definition : List (String × Json)) (key : String) :
    Except ContractError (Option UInt64) :=
  match Assoc.get? definition key with
  | none | some .null => .ok none
  | some value =>
    match value.uint64? with
    | some n => .ok (some n)
    | none => .error (.invalidField location (.badBound key))

def regexOf (location : Location) (definition : List (String × Json)) :
    Except ContractError Rule :=
  match (Assoc.get? definition "regex").bind Json.string? with
  | none => .error (.invalidField location .noRegex)
  | some text =>
    match Pattern.Anchored.ofText? text with
    | some pattern => .ok (.regex pattern)
    | none => .error (.invalidField location .badRegex)

def containsOf (location : Location) (definition : List (String × Json)) :
    Except ContractError Rule :=
  match (Assoc.get? definition "value").bind Json.string? with
  | some text => .ok (.contains text)
  | none => .error (.invalidField location .noIncluded)

/-- Reads a definition. Without a type it is a pattern if it has one, and else its bounds. -/
def ofJson (location : Location) (value : Json) : Except ContractError Rule :=
  match value.members? with
  | none => .error (.invalidField location .ruleNotObject)
  | some definition => do
    let least ← boundOf location definition "min"
    let most ← boundOf location definition "max"
    let bounded := least.isSome || most.isSome
    match (Assoc.get? definition "match").bind Json.string? with
    | some "equality" => .ok .equality
    | some "regex" => regexOf location definition
    | some "include" => containsOf location definition
    | some name =>
      if bounded ∧ (name = "type" ∨ name = "min" ∨ name = "max") then .ok (.minMax least most)
      else if name = "type" then .ok .type
      else .error (.invalidField location (.unknownRule name))
    | none =>
      if Assoc.contains definition "regex" then regexOf location definition
      else if bounded then .ok (.minMax least most)
      else .error (.invalidField location .noRuleType)

def boundMember (key : String) (bound : Option UInt64) : List (String × Json) :=
  match bound with
  | some n => [(key, .ofNat n.toNat)]
  | none => []

def toJson : Rule → Json
  | .equality => .ofMembers [("match", .string "equality")]
  | .type => .ofMembers [("match", .string "type")]
  | .regex pattern => .ofMembers [("match", .string "regex"), ("regex", .string pattern.text)]
  | .contains text => .ofMembers [("match", .string "include"), ("value", .string text)]
  | .minMax least most =>
    .ofMembers (("match", .string "type") :: (boundMember "min" least ++ boundMember "max" most))

def displayBound (key : String) (bound : Option UInt64) : String :=
  match bound with
  | some n => " " ++ key ++ "=" ++ toString n.toNat
  | none => ""

def display : Rule → String
  | .equality => "equality"
  | .type => "type"
  | .regex pattern => "regex /" ++ pattern.text ++ "/"
  | .contains text => "include '" ++ text ++ "'"
  | .minMax least most => "type" ++ displayBound "min" least ++ displayBound "max" most

end Rule

end MockProvider
