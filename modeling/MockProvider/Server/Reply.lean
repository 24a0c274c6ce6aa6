import MockProvider.Json.Printer
import MockProvider.Message.Basic
import MockProvider.Mismatch

/-!
# Replies

What a server sends back: the response of an interaction, the mismatches of a request that matches
none, or the permission that a browser asks for. A reply whose headers cannot be sent becomes a
plain failure.
-/

namespace MockProvider

/-- A reply. The names of headers are in lower case. -/
structure Reply where
  status : UInt16
  headers : List (String × String) := []
  body : Bytes := []
deriving DecidableEq

namespace Reply

/-! ## Headers that can be sent -/

def isNameChar (c : Char) : Bool :=
  c.isAlphanum || "!#$%&'*+-.^_`|~".toList.contains c

/-- The greatest length of the name of a header. -/
def longestName : Nat := 65535

def isName (name : String) : Bool :=
  !name.isEmpty && name.length ≤ longestName && name.toList.all isNameChar

def isValueByte (b : UInt8) : Bool :=
  (32 ≤ b && b != 127) || b == 9

def isValue (value : String) : Bool :=
  (Bytes.ofString value).all isValueByte

def isHeader (header : String × String) : Bool :=
  isName header.1 && isValue header.2

/-- The reply where headers cannot be sent. -/
def plainFailure : Reply :=
  { status := 500, body := Bytes.ofString "Internal Server Error" }

/-- A reply, if its headers can be sent. -/
def build (status : UInt16) (headers : List (String × String)) (body : Bytes) : Reply :=
  if headers.all isHeader then
    { status, headers := headers.map fun header => (Ascii.lower header.1, header.2), body }
  else plainFailure

/-! ## Responses of interactions -/

def badStatus (status : UInt16) : Reply :=
  build 500 [("content-type", "text/plain")]
    (Bytes.ofString ("Invalid status " ++ toString status.toNat ++ " in contract"))

/-- The headers of a response, one for each value. -/
def declaredHeaders (r : Response) : List (String × String) :=
  match r.headers with
  | none => []
  | some headers => headers.toList.flatMap fun (name, values) => values.map fun value => (name, value)

/-- The header for the type of the body, where a response declares none. -/
def typeHeader (r : Response) : List (String × String) :=
  match r.contentType?, r.body.type? with
  | none, some type => [("content-type", type.text)]
  | _, _ => []

def ofResponse (r : Response) : Reply :=
  if 100 ≤ r.status ∧ r.status ≤ 999 then
    build r.status (declaredHeaders r ++ typeHeader r) r.body.bytes
  else badStatus r.status

/-! ## Other replies -/

/-- The header that marks replies to requests that match nothing. -/
def mismatchHeader : String := "x-pact-mismatch"

def ofMismatches (error : String) (mismatches : List Mismatch) : Reply :=
  let document : Json := .ofMembers
    [("error", .string error), ("mismatches", .array (mismatches.map Mismatch.toJson))]
  build 500 [(mismatchHeader, "true"), ("content-type", "application/json")] document.toBytes

/-- The methods that a browser may use. -/
def allowedMethods : String :=
  "GET, HEAD, POST, PUT, DELETE, CONNECT, OPTIONS, TRACE, PATCH"

/-- The reply that allows a browser what it asks for. -/
def preflight (source wantedHeaders : Option String) : Reply :=
  build 200
    [("access-control-allow-origin", source.getD "*"),
      ("access-control-allow-methods", allowedMethods),
      ("access-control-allow-headers", wantedHeaders.getD "*"),
      ("access-control-allow-credentials", "true")] []

end Reply

end MockProvider
