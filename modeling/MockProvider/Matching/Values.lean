import MockProvider.Json.Printer
import MockProvider.Rule.Table
import MockProvider.Text.Basic

/-!
# Rules applied to values

A rule compares a received value with the expected one and tells in words how it fails, if it does.
`Resolved.failures` puts the rules in force together: all of them have to hold, or one of them; where
none is in force the values have to be equal.
-/

namespace MockProvider

/-! ## Values in words -/

def Json.typeName : Json → String
  | .null => "Null"
  | .bool _ => "Boolean"
  | .number _ => "Number"
  | .string _ => "String"
  | .array _ => "Array"
  | .object _ => "Object"

def Json.sameType : Json → Json → Bool
  | .null, .null => true
  | .bool _, .bool _ => true
  | .number _, .number _ => true
  | .string _, .string _ => true
  | .array _, .array _ => true
  | .object _, .object _ => true
  | _, _ => false

/-- A value in a description: a string in quotes, anything else as it is written. -/
def Json.describe : Json → String
  | .string s => "'" ++ s ++ "'"
  | value => value.toText

/-- The text that patterns look at; containers have none. -/
def Json.scalarText? : Json → Option String
  | .string s => some s
  | .number n => some n.toText
  | .bool true => some "true"
  | .bool false => some "false"
  | .null => some ""
  | .array _ => none
  | .object _ => none

def Text.occursIn (part : List Char) : List Char → Bool
  | [] => part.isEmpty
  | c :: rest => part.isPrefixOf (c :: rest) || Text.occursIn part rest

def unequal (expected actual : Json) : String :=
  "Expected " ++ expected.describe ++ " but received " ++ actual.describe

/-! ## Single rules -/

def boundsFailure (count : Nat) (least most : Option UInt64) : Option String :=
  let tooFew := least.bind fun n =>
    if count < n.toNat then
      some ("Expected at least " ++ toString n.toNat ++ " item(s) but received " ++ toString count)
    else none
  let tooMany := most.bind fun n =>
    if n.toNat < count then
      some ("Expected at most " ++ toString n.toNat ++ " item(s) but received " ++ toString count)
    else none
  tooFew.or tooMany

/-- How a value fails to have the type of the expected one. -/
def typeFailure (expected actual : Json) : Option String :=
  if expected.sameType actual then none
  else
    some ("Expected " ++ actual.describe ++ " (" ++ actual.typeName ++
      ") to be the same type as " ++ expected.describe ++ " (" ++ expected.typeName ++ ")")

/-- How a value fails a rule. -/
def Rule.failure (rule : Rule) (expected actual : Json) : Option String :=
  match rule with
  | .equality =>
    if expected == actual then none
    else some ("Expected " ++ actual.describe ++ " to be equal to " ++ expected.describe)
  | .type => typeFailure expected actual
  | .regex pattern =>
    match actual.scalarText? with
    | some s =>
      if pattern.accepts s then none
      else some ("Expected '" ++ s ++ "' to match '" ++ pattern.text ++ "'")
    | none =>
      some ("Expected " ++ actual.typeName ++ " to match '" ++ pattern.text ++
        "' but regexes only apply to scalar values")
  | .contains text =>
    match actual.scalarText? with
    | some s =>
      if Text.occursIn text.toList s.toList then none
      else some ("Expected '" ++ s ++ "' to include '" ++ text ++ "'")
    | none =>
      some ("Expected " ++ actual.typeName ++ " to include '" ++ text ++
        "' but includes only apply to scalar values")
  | .minMax least most =>
    match actual with
    | .array items => boundsFailure items.length least most
    | _ => typeFailure expected actual

/-! ## Rules in force -/

/-- How a value fails the rules in force; it fails none of them when the list is empty. -/
def RuleTable.Resolved.failures (r : RuleTable.Resolved) (expected actual : Json) : List String :=
  match r.rules with
  | [] => if expected == actual then [] else [unequal expected actual]
  | rules =>
    let failures := rules.filterMap fun rule => rule.failure expected actual
    match r.list.logic with
    | .all => failures
    | .any => if failures.length < rules.length then [] else failures

/-- How a value fails the rules in force, if there are any; otherwise `default` tells how it fails to
    be equal. -/
def outcome (resolved : Option RuleTable.Resolved) (expected actual : Json)
    (default : List String) : List String :=
  match resolved with
  | some r => r.failures expected actual
  | none => default

def describeAll (failures : List String) : String :=
  Text.join "; " failures

end MockProvider
