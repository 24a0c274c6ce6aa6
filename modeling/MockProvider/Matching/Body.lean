import MockProvider.Matching.Xml
import MockProvider.Message.Basic

/-!
# Comparing bodies

Bodies of one kind are compared by their structure, if they have one, and otherwise octet by octet,
unless a rule for the whole body says how to compare their texts. Bodies of different kinds have
one mismatch in their types.
-/

namespace MockProvider.Matching

def wholeMismatch (expected actual : Body) (description : String) : Mismatch :=
  bodyMismatch .root expected.toJson actual.toJson description

def typeMismatch (expected actual : ContentType) : Mismatch :=
  ⟨.bodyType, DocPath.root.render, .string expected.essence, .string actual.essence,
    "Expected a body of type '" ++ expected.essence ++ "' but received '" ++ actual.essence ++ "'"⟩

/-- How bodies without structure differ. -/
def rawFailures (rules : RuleTable) (expected actual : Body) : List String :=
  outcome (rules.resolve .body .root) (.string expected.text) (.string actual.text)
    (if expected.bytes = actual.bytes then []
      else ["Expected body '" ++ expected.text ++ "' but received '" ++ actual.text ++ "'"])

/-- The mismatches of bodies without structure. -/
def matchRaw (rules : RuleTable) (expected actual : Body) : List Mismatch :=
  match rawFailures rules expected actual with
  | [] => []
  | failures => [wholeMismatch expected actual (describeAll failures)]

def matchKind (rules : RuleTable) (kind : BodyKind) (expected actual : Body) : List Mismatch :=
  match kind with
  | .json => matchJson rules expected.bytes actual.bytes
  | .xml => matchXml rules expected.bytes actual.bytes
  | .text => matchRaw rules expected actual
  | .binary => matchRaw rules expected actual

/-- The mismatches of the body. Nothing is asked of it where none is expected. -/
def matchBody (expected actual : Message) : List Mismatch :=
  match expected.body, actual.body with
  | .absent, _ => []
  | .empty, .present bytes type =>
    [wholeMismatch .empty (.present bytes type)
      ("Expected an empty body but received " ++ toString bytes.length ++ " byte(s)")]
  | .empty, _ => []
  | .present bytes type, .present received receivedType =>
    if type.kind = receivedType.kind then
      matchKind expected.rules type.kind (.present bytes type) (.present received receivedType)
    else [typeMismatch type receivedType]
  | .present bytes type, other =>
    [wholeMismatch (.present bytes type) other "Expected a body but received none"]

end MockProvider.Matching
