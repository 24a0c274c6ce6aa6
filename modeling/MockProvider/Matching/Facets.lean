import MockProvider.Matching.Body
import MockProvider.Matching.Headers
import MockProvider.Matching.Query

/-!
# Comparing requests and responses

A request is compared in five respects and a response in three, each for itself; the mismatches of
the whole are those of its facets in their order.
-/

namespace MockProvider

namespace Matching

/-- The mismatches of a method, whatever its case. -/
def matchMethod (expected actual : String) : List Mismatch :=
  if Ascii.sameIgnoringCase expected actual then []
  else
    [⟨.method, DocPath.root.render, .string (Ascii.upper expected), .string (Ascii.upper actual),
      "Expected method " ++ Ascii.upper expected ++ " but received " ++ Ascii.upper actual⟩]

/-- At most one mismatch of a part that is compared as a whole. -/
def wholePart (kind : MismatchKind) (expected actual : Json) (failures : List String) :
    List Mismatch :=
  match failures with
  | [] => []
  | failures => [⟨kind, DocPath.root.render, expected, actual, describeAll failures⟩]

def matchPath (rules : RuleTable) (expected actual : String) : List Mismatch :=
  wholePart .path (.string expected) (.string actual)
    (outcome (rules.resolve .path .root) (.string expected) (.string actual)
      (if expected = actual then []
        else ["Expected path '" ++ expected ++ "' but received '" ++ actual ++ "'"]))

def matchStatus (rules : RuleTable) (expected actual : UInt16) : List Mismatch :=
  wholePart .status (.ofNat expected.toNat) (.ofNat actual.toNat)
    (outcome (rules.resolve .status .root) (.ofNat expected.toNat) (.ofNat actual.toNat)
      (if expected = actual then []
        else ["Expected status " ++ toString expected.toNat ++ " but received " ++
          toString actual.toNat]))

end Matching

open Matching

/-! ## Requests -/

/-- The mismatches of a request in each respect. -/
structure RequestFacets where
  method : List Mismatch
  path : List Mismatch
  query : List Mismatch
  headers : List Mismatch
  body : List Mismatch

namespace RequestFacets

def toList (f : RequestFacets) : List (List Mismatch) :=
  [f.method, f.path, f.query, f.headers, f.body]

def mismatches (f : RequestFacets) : List Mismatch :=
  f.toList.flatten

def matching (f : RequestFacets) : Nat :=
  f.toList.countP List.isEmpty

end RequestFacets

def Request.facets (expected actual : Request) : RequestFacets where
  method := matchMethod expected.method actual.method
  path := matchPath expected.rules expected.path actual.path
  query := matchQuery expected.rules expected.query actual.query
  headers := matchHeaders expected.toMessage actual.toMessage
  body := matchBody expected.toMessage actual.toMessage

/-- The mismatches of a received request; there are none when it is as expected. -/
def Request.mismatches (expected actual : Request) : List Mismatch :=
  (expected.facets actual).mismatches

/-! ## Responses -/

/-- The mismatches of a response in each respect. -/
structure ResponseFacets where
  status : List Mismatch
  headers : List Mismatch
  body : List Mismatch

def ResponseFacets.mismatches (f : ResponseFacets) : List Mismatch :=
  f.status ++ f.headers ++ f.body

def Response.facets (expected actual : Response) : ResponseFacets where
  status := matchStatus expected.rules expected.status actual.status
  headers := matchHeaders expected.toMessage actual.toMessage
  body := matchBody expected.toMessage actual.toMessage

/-- The mismatches of a received response; there are none when it is as expected. -/
def Response.mismatches (expected actual : Response) : List Mismatch :=
  (expected.facets actual).mismatches

end MockProvider
