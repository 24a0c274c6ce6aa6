import MockProvider.Matching.Values
import MockProvider.Message.Basic
import MockProvider.Mismatch

/-!
# Comparing headers

Every expected header has to be there, under a name of any case; further ones do not matter. The
values of a header are compared as one list of elements, cut at commas. Content types are compared
without regard to case and blanks.
-/

namespace MockProvider.Matching

/-- The elements of header values: the parts between commas, trimmed. -/
def headerElements (values : List String) : List String :=
  values.flatMap fun value => (Text.split ',' value).map Text.trim

def normalHeader (values : List String) : String :=
  Text.join ", " (headerElements values)

/-- The parts of a content type in lower case and without blanks; empty ones are dropped. -/
def contentTypeParts (value : String) : List String :=
  ((Text.split ';' value).map fun part =>
      String.ofList ((Ascii.lower (Text.trim part)).toList.filter (· != ' '))).filter (!·.isEmpty)

def normalContentType (value : String) : String :=
  Text.join ";" (contentTypeParts value)

def sameHeader (name expected actual : String) : Bool :=
  if Ascii.sameIgnoringCase name "content-type" then
    normalContentType expected == normalContentType actual
  else expected == actual

/-- How the received values of a header differ from the expected ones. -/
def headerFailures (rules : RuleTable) (name expected actual : String) : List String :=
  outcome (rules.resolveNamed .header name) (.string expected) (.string actual)
    (if sameHeader name expected actual then []
      else ["Expected header '" ++ name ++ "' to have value '" ++ expected ++ "' but was '" ++
        actual ++ "'"])

/-- The mismatch of one expected header, if there is one. -/
def headerMismatch (rules : RuleTable) (actual : Message) (name : String)
    (values : List String) : Option Mismatch :=
  let expected := normalHeader values
  match actual.header? name with
  | none =>
    some ⟨.header, name, .string expected, .null, "Expected header '" ++ name ++ "' but was missing"⟩
  | some received =>
    let actual := normalHeader received
    match headerFailures rules name expected actual with
    | [] => none
    | failures =>
      some ⟨.header, name, .string expected, .string actual, describeAll failures⟩

def matchHeaders (expected actual : Message) : List Mismatch :=
  match expected.headers with
  | none => []
  | some headers =>
    headers.toList.filterMap fun (name, values) =>
      headerMismatch expected.rules actual name values

end MockProvider.Matching
