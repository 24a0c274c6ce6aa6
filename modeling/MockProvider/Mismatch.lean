import MockProvider.Json.Printer
import MockProvider.Json.Record

/-!
# Mismatches

A mismatch tells how a received message differs from the expected one: in what respect, where, what
was expected and what was received, and all of it in words.
-/

namespace MockProvider

/-- In what respect messages differ. -/
inductive MismatchKind where
  | method
  | path
  | query
  | header
  | body
  | bodyType
  | status
deriving DecidableEq, Repr

namespace MismatchKind

def every : List MismatchKind := [.method, .path, .query, .header, .body, .bodyType, .status]

def word : MismatchKind → String
  | .method => "Method"
  | .path => "Path"
  | .query => "Query"
  | .header => "Header"
  | .body => "Body"
  | .bodyType => "BodyType"
  | .status => "Status"

def name (kind : MismatchKind) : String :=
  kind.word ++ "Mismatch"

def named? (name : String) : Option MismatchKind :=
  every.find? fun kind => kind.name == name

end MismatchKind

/-- A difference between a received message and the expected one. The path is that of the value in a
    body, or the name of a header or of a query parameter. -/
structure Mismatch where
  kind : MismatchKind
  path : String
  expected : Json
  actual : Json
  description : String

namespace Mismatch

def line (m : Mismatch) : String :=
  m.kind.word ++ " at " ++ m.path ++ ": " ++ m.description

def toJson (m : Mismatch) : Json :=
  .ofMembers
    [("type", .string m.kind.name), ("path", .string m.path), ("expected", m.expected),
      ("actual", m.actual), ("description", .string m.description)]

def fields : List String := ["type", "path", "expected", "actual", "description"]

/-- Reads a kind, by its name alone or as the only member of an object. -/
def kindOf : Json → Option MismatchKind
  | .string name => MismatchKind.named? name
  | .object [(name, .null)] => MismatchKind.named? name
  | _ => none

def ofText? (text : String) : Option Mismatch :=
  match Json.record? fields (Bytes.ofString text) with
  | some [some kind, some (.string path), some expected, some actual, some (.string description)] =>
    (kindOf kind).map fun kind => ⟨kind, path, expected, actual, description⟩
  | _ => none

end Mismatch

end MockProvider
