import MockProvider.Matching.Values
import MockProvider.Mismatch
import MockProvider.Query
import MockProvider.Text.Quoted

/-!
# Comparing queries

Every expected key has to be there; further ones do not matter. The values of a key are compared in
their order. With rules for the key each received value is compared with the expected one at its
place, or with the first one past their end.
-/

namespace MockProvider.Matching

def queryMismatch (key : String) (expected actual : List String) (description : String) :
    Mismatch :=
  ⟨.query, key, .ofStrings expected, .ofStrings actual, description⟩

/-- How the received values of a key fail the rules for it. -/
def ruledValues (resolved : RuleTable.Resolved) (key : String) (templates : List String)
    (first : String) : (index : Nat) → List String → List String
  | _, [] => []
  | index, value :: values =>
    let template := templates.head?.getD first
    let rest := ruledValues resolved key (templates.drop 1) first (index + 1) values
    match resolved.failures (.string template) (.string value) with
    | [] => rest
    | failures =>
      ("Query parameter '" ++ key ++ "' value " ++ toString index ++ ": " ++
        describeAll failures) :: rest

/-- How the received values of a key fail the bounds and rules for it. -/
def ruledFailures (resolved : RuleTable.Resolved) (key : String) (expected actual : List String) :
    List String :=
  let outOfBounds :=
    match resolved.bounds? with
    | some (least, most) =>
      (boundsFailure actual.length least most).toList.map fun description =>
        "Query parameter '" ++ key ++ "': " ++ description
    | none => []
  let values :=
    match expected with
    | [] => []
    | first :: _ => ruledValues resolved key expected first 0 actual
  outOfBounds ++ values

/-- How as many received values of a key differ from the expected ones. -/
def plainValues (key : String) : (index : Nat) → List String → List String → List String
  | index, e :: es, a :: as =>
    let rest := plainValues key (index + 1) es as
    if e = a then rest
    else
      ("Expected '" ++ e ++ "' but received '" ++ a ++ "' for query parameter '" ++ key ++
        "' at index " ++ toString index) :: rest
  | _, _, _ => []

/-- How the received values of a key differ from the expected ones. -/
def plainFailures (key : String) (expected actual : List String) : List String :=
  if expected.length = actual.length then plainValues key 0 expected actual
  else
    ["Expected query parameter '" ++ key ++ "' with " ++ toString expected.length ++
      " value(s) " ++ Quoted.quoteList expected ++ " but received " ++ toString actual.length ++
      " value(s) " ++ Quoted.quoteList actual]

def keyMismatches (rules : RuleTable) (actual : Query) (key : String) (expected : List String) :
    List Mismatch :=
  match actual.get? key with
  | none =>
    [⟨.query, key, .ofStrings expected, .null,
      "Expected query parameter '" ++ key ++ "' but was missing"⟩]
  | some received =>
    let failures :=
      match rules.resolveNamed .query key with
      | some resolved => ruledFailures resolved key expected received
      | none => plainFailures key expected received
    failures.map (queryMismatch key expected received)

/-- The mismatches of a query; a missing one has no keys. -/
def matchQuery (rules : RuleTable) (expected actual : Option Query) : List Mismatch :=
  match expected with
  | none => []
  | some expected =>
    expected.toList.flatMap fun (key, values) =>
      keyMismatches rules (actual.getD .empty) key values

end MockProvider.Matching
