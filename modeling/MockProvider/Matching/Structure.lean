import MockProvider.Json.Parser
import MockProvider.Matching.Values
import MockProvider.Mismatch

/-!
# Comparing documents

JSON bodies are compared place by place. An expected value is turned into a check, a function that
takes the place and the received value and gives the mismatches there and below; the check of a
container is made from those of its parts.

* Objects need every expected key, and have no further ones unless a rule asks for the type only.
* Arrays have as many items as expected, each compared with the one at its place. Where a rule asks
  for the type only, their number is free within its bounds, and items past the expected ones are
  compared with the first.
* A rule on values, declared for a container itself, judges the container as a whole.
-/

namespace MockProvider.Matching

/-- Takes a place and what was received there to what is found at and below it. -/
abbrev Walk (α β : Type) := DocPath → α → List β

/-- Finds the mismatches of a value. -/
abbrev Check := Walk Json Mismatch

def bodyMismatch (place : DocPath) (expected actual : Json) (description : String) : Mismatch :=
  ⟨.body, place.render, expected, actual, description⟩

/-- At most one mismatch at a place, with all failures. -/
def failuresAt (place : DocPath) (expected actual : Json) (failures : List String) :
    List Mismatch :=
  match failures with
  | [] => []
  | failures => [bodyMismatch place expected actual (describeAll failures)]

/-- Compares values as a whole, by the rules in force or else for equality. -/
def compareLeaf (rules : RuleTable) (place : DocPath) (expected actual : Json) : List Mismatch :=
  failuresAt place expected actual
    (outcome (rules.resolve .body place) expected actual
      (if expected == actual then [] else [unequal expected actual]))

/-- Whether a rule looks at the value and not only at its type. -/
def judgesValue : Rule → Bool
  | .equality => true
  | .regex _ => true
  | .contains _ => true
  | _ => false

/-- Rules that judge a container as a whole: declared for it, with one on values among them. -/
def wholeRules? (resolved : Option RuleTable.Resolved) : Option RuleTable.Resolved :=
  resolved.filter fun r => !r.inherited && r.rules.any judgesValue

def typeOnly (resolved : Option RuleTable.Resolved) : Bool :=
  resolved.any RuleTable.Resolved.hasType

/-! ## Parts of containers -/

def checkMember (place : DocPath) (actual : List (String × Json)) (key : String)
    (expected : Json) (check : Check) : List Mismatch :=
  match Assoc.get? actual key with
  | some value => check (place.field key) value
  | none =>
    [bodyMismatch (place.field key) expected .null ("Expected key '" ++ key ++ "' but was missing")]

/-- The mismatches of received keys that are not expected. -/
def unexpectedMembers (place : DocPath) (expected actual : List (String × Json)) : List Mismatch :=
  actual.filterMap fun (key, value) =>
    if Assoc.contains expected key then none
    else some (bodyMismatch (place.field key) .null value ("Unexpected key '" ++ key ++ "'"))

section

variable {α β : Type}

/-- Walks the items at their places, up to the end of the shorter list. -/
def checkPaired (place : DocPath) : (index : Nat) → List (Walk α β) → List α → List β
  | index, check :: checks, item :: items =>
    check (place.index index) item ++ checkPaired place (index + 1) checks items
  | _, _, _ => []

def checkEach (place : DocPath) (check : Walk α β) : (index : Nat) → List α → List β
  | _, [] => []
  | index, item :: items =>
    check (place.index index) item ++ checkEach place check (index + 1) items

/-- Walks the items at their places, with the first walk for the items past the end of the list. -/
def checkTemplates (place : DocPath) (checks : List (Walk α β)) (items : List α) : List β :=
  match checks with
  | [] => []
  | first :: _ =>
    checkPaired place 0 checks items ++
      checkEach place first checks.length (items.drop checks.length)

end

/-- Compares arrays whose items have checks. -/
def checkItems (resolved : Option RuleTable.Resolved) (place : DocPath) (expected : List Json)
    (checks : List Check) (actual : List Json) : List Mismatch :=
  let atArray (description : Option String) : List Mismatch :=
    description.toList.map (bodyMismatch place (.array expected) (.array actual))
  if typeOnly resolved then
    let bounds := resolved.bind RuleTable.Resolved.bounds?
    atArray (bounds.bind fun (least, most) => boundsFailure actual.length least most) ++
      checkTemplates place checks actual
  else
    atArray
      (if expected.length = actual.length then none
        else some ("Expected an array of " ++ toString expected.length ++
          " item(s) but received " ++ toString actual.length)) ++
      checkPaired place 0 checks actual

/-! ## Whole values -/

mutual

/-- The check that an expected value makes. -/
def checkOf (rules : RuleTable) : Json → Check
  | .object expected, place, actual =>
    let resolved := rules.resolve .body place
    match wholeRules? resolved with
    | some whole =>
      failuresAt place (.object expected) actual (whole.failures (.object expected) actual)
    | none =>
      match actual with
      | .object members =>
        membersCheck rules expected place members ++
          (if typeOnly resolved then [] else unexpectedMembers place expected members)
      | _ => compareLeaf rules place (.object expected) actual
  | .array expected, place, actual =>
    let resolved := rules.resolve .body place
    match wholeRules? resolved with
    | some whole =>
      failuresAt place (.array expected) actual (whole.failures (.array expected) actual)
    | none =>
      match actual with
      | .array items => checkItems resolved place expected (itemChecks rules expected) items
      | _ => compareLeaf rules place (.array expected) actual
  | expected, place, actual => compareLeaf rules place expected actual

def itemChecks (rules : RuleTable) : List Json → List Check
  | [] => []
  | item :: items => checkOf rules item :: itemChecks rules items

def membersCheck (rules : RuleTable) :
    List (String × Json) → DocPath → List (String × Json) → List Mismatch
  | [], _, _ => []
  | (key, value) :: members, place, actual =>
    checkMember place actual key value (checkOf rules value) ++
      membersCheck rules members place actual

end

/-! ## Bodies -/

/-- The mismatch of a body that cannot be read. -/
def unreadable (format which detail : String) (expected actual : Json) : Mismatch :=
  bodyMismatch .root expected actual
    ("Failed to parse the " ++ which ++ " body as " ++ format ++ ": " ++ detail)

def matchJson (rules : RuleTable) (expected actual : Bytes) : List Mismatch :=
  match Json.parse expected with
  | .error e => [unreadable "JSON" "expected" e.message (.string expected.toStringLossy) .null]
  | .ok e =>
    match Json.parse actual with
    | .error a => [unreadable "JSON" "actual" a.message .null (.string actual.toStringLossy)]
    | .ok a => checkOf rules e .root a

end MockProvider.Matching
