import MockProvider.Json.Parser

/-!
# Errors of contracts

Why a text is no contract, and why two contracts cannot be merged. A bad field is named by its
location, which spells the way to it from the root of the document.
-/

namespace MockProvider

/-- The way to a part of a document, as it is spelled in errors. -/
structure Location where
  text : String
deriving DecidableEq, Repr

namespace Location

def field (l : Location) (name : String) : Location :=
  ⟨l.text ++ "." ++ name⟩

def item (l : Location) (position : Nat) : Location :=
  ⟨l.text ++ "[" ++ toString position ++ "]"⟩

/-- The location of a field whose name is quoted. -/
def key (l : Location) (name : String) : Location :=
  ⟨l.text ++ "['" ++ name ++ "']"⟩

end Location

/-- What is wrong with a field. -/
inductive Problem where
  | notContract
  | notObject
  | notArray
  | notString
  | notStrings
  | notQuery
  | notStatus
  | ruleNotObject
  | badBound (key : String)
  | noRegex
  | badRegex
  | noIncluded
  | unknownRule (name : String)
  | noRuleType
  | rulesNotArray
  | unknownLogic (name : String)
deriving DecidableEq, Repr

def Problem.message : Problem → String
  | .notContract => "contract must be a JSON object"
  | .notObject => "expected a JSON object"
  | .notArray => "expected an array"
  | .notString => "expected a string"
  | .notStrings => "expected a string or an array of strings"
  | .notQuery => "expected a query string or an object"
  | .notStatus => "expected an HTTP status code"
  | .ruleNotObject => "matcher must be a JSON object"
  | .badBound key => "'" ++ key ++ "' must be a non-negative integer"
  | .noRegex => "regex matcher needs a 'regex' string"
  | .badRegex => "invalid regex: not a regular expression"
  | .noIncluded => "include matcher needs a 'value' string"
  | .unknownRule name => "unknown matcher '" ++ name ++ "'"
  | .noRuleType => "matcher has no 'match' type"
  | .rulesNotArray => "'matchers' must be an array"
  | .unknownLogic name => "unknown combine logic '" ++ name ++ "'"

/-- Why contracts cannot be merged: they are between other parties, or an interaction of one
    description and state is there already and is another one. -/
inductive Conflict where
  | parties (theirConsumer theirProvider ourConsumer ourProvider : String)
  | interaction (description : String)
deriving DecidableEq, Repr

def Conflict.message : Conflict → String
  | .parties theirConsumer theirProvider ourConsumer ourProvider =>
    "pact for " ++ theirConsumer ++ " -> " ++ theirProvider ++
      " can not be merged into pact for " ++ ourConsumer ++ " -> " ++ ourProvider
  | .interaction description =>
    "interaction '" ++ description ++ "' differs from the one already in the pact file"

/-- Why there is no contract. -/
inductive ContractError where
  | notJson (error : Json.ParseError)
  | missingField (location : Location)
  | invalidField (location : Location) (problem : Problem)
  | mergeConflict (conflict : Conflict)
deriving DecidableEq, Repr

def ContractError.message : ContractError → String
  | .notJson error => "Contract is not valid JSON: " ++ error.message
  | .missingField location => "Contract is missing required field '" ++ location.text ++ "'"
  | .invalidField location problem =>
    "Contract field '" ++ location.text ++ "' is invalid: " ++ problem.message
  | .mergeConflict conflict => "Cannot merge contracts: " ++ conflict.message

end MockProvider
