import MockProvider.Message.Basic

/-!
# Building requests and responses

Requests and responses can be put together step by step. A value of a header or of a query
parameter has an index among the values of its name; empty values fill the places before it.
An index at which no list has a place is refused; the name is then there all the same, with the
values it had before. At the greatest index, 2^64 - 1, the length that a list would need is no word.
The definitions are those of a build that checks for overflow and stops there; a build without the
check takes the length for zero, and empties a list that is there before it refuses the index.
-/

namespace MockProvider

/-- What a step leads to, and whether it was done. -/
structure Step (α : Type) where
  result : α
  done : Bool

namespace Message

/-- The values with `value` at an index, after as many empty ones as it needs. -/
def setAt (values : List String) (index : Nat) (value : String) : List String :=
  match values, index with
  | [], 0 => [value]
  | [], index + 1 => "" :: setAt [] index value
  | _ :: rest, 0 => value :: rest
  | first :: rest, index + 1 => first :: setAt rest index value

/-- The greatest number of values in a list: each takes 24 octets, and a list takes less than 2^63
    of them. -/
def mostValues : UInt64 := 384307168202282325

/-- The lists with `value` at an index of the list with a key. The index 2^64 - 1 leaves the list as
    it is, as in a build with overflow checks; a build without them empties a list that is there. -/
def setValue (lists : Dict (List String)) (key : String) (index : UInt64) (value : String) :
    Step (Dict (List String)) :=
  if index < mostValues then
    ⟨lists.alter key fun values => setAt (values.getD []) index.toNat value, true⟩
  else ⟨lists.alter key fun values => values.getD [], false⟩

/-- The name under which a header is there, or else the given one. -/
def headerKey (headers : Headers) (name : String) : String :=
  (headers.keys.find? fun key => Ascii.sameIgnoringCase key name).getD name

def withHeader (m : Message) (name : String) (index : UInt64) (value : String) : Step Message :=
  let headers := m.headers.getD .empty
  let set := setValue headers (headerKey headers name) index value
  ⟨{ m with headers := some set.result }, set.done⟩

/-- The message with a body. The type that the header gives wins over the given one, which is put
    into the header if there is none. -/
def withBody (m : Message) (type : Option String) (text : String) : Message :=
  if text.isEmpty then { m with body := .empty }
  else
    let bytes := Bytes.ofString text
    match m.contentType? with
    | some declared => { m with body := .present bytes (.ofHeader declared) }
    | none =>
      let type := (type.map ContentType.ofHeader).getD .plain
      { (m.withHeader "Content-Type" 0 type.text).result with body := .present bytes type }

end Message

namespace Request

def withTarget (r : Request) (method path : String) : Request :=
  { r with method := Ascii.upper method, path }

def withQuery (r : Request) (name : String) (index : UInt64) (value : String) : Step Request :=
  let set := Message.setValue (r.query.getD .empty) name index value
  ⟨{ r with query := some set.result }, set.done⟩

def withHeader (r : Request) (name : String) (index : UInt64) (value : String) : Step Request :=
  let set := r.toMessage.withHeader name index value
  ⟨{ r with toMessage := set.result }, set.done⟩

def withBody (r : Request) (type : Option String) (text : String) : Request :=
  { r with toMessage := r.toMessage.withBody type text }

end Request

namespace Response

def withStatus (r : Response) (status : UInt16) : Response :=
  { r with status }

def withHeader (r : Response) (name : String) (index : UInt64) (value : String) : Step Response :=
  let set := r.toMessage.withHeader name index value
  ⟨{ r with toMessage := set.result }, set.done⟩

def withBody (r : Response) (type : Option String) (text : String) : Response :=
  { r with toMessage := r.toMessage.withBody type text }

end Response

end MockProvider
