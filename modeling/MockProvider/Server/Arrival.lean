import MockProvider.Message.Basic
import MockProvider.Text.Percent

/-!
# Requests as they arrive

What the network gives of a request, and the request that it stands for: the path is decoded, the
query is cut into its pairs, and the values of each header are collected under its name.
-/

namespace MockProvider

/-- A request as it arrives. The names of headers are in lower case. -/
structure Arrival where
  method : String
  path : String
  query : Option String := none
  headers : List (String × Bytes) := []
  body : Bytes := []

namespace Arrival

/-- The path with its escapes decoded, or as it is where they do not stand for text. -/
def decodedPath (a : Arrival) : String :=
  (Percent.decode? a.path).getD a.path

/-- The query; an empty one counts as none. -/
def parsedQuery (a : Arrival) : Option Query :=
  (a.query.filter fun text => !text.isEmpty).map Query.parse

/-- Headers with a further value at the end of those of its name. -/
def addHeader (headers : Headers) (name : String) (value : Bytes) : Headers :=
  headers.alter name fun values => values.getD [] ++ [value.toStringLossy]

/-- The values of each header in the order in which they arrived. -/
def collected (a : Arrival) : Headers :=
  a.headers.foldl (fun headers header => addHeader headers header.1 header.2) .empty

def toRequest (a : Arrival) : Request :=
  let headers := a.collected
  let type := (headers.get? "content-type").bind List.head?
  { method := Ascii.upper a.method
    path := a.decodedPath
    query := a.parsedQuery
    headers := if headers.isEmpty then none else some headers
    body := .ofBytes a.body type }

def isShown (b : UInt8) : Bool :=
  (32 ≤ b && b < 127) || b == 9

/-- The first value of a header, when all of it is shown as text. -/
def shownHeader? (a : Arrival) (name : String) : Option String := do
  let value ← a.headers.lookup name
  if value.all isShown then value.toString? else none

end Arrival

end MockProvider
