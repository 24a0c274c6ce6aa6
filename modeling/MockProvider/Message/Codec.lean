import MockProvider.Contract.Error
import MockProvider.Json.Printer
import MockProvider.Message.Basic
import MockProvider.Rule.Codec

/-!
# Requests and responses in documents

`Request.ofJson` and `Response.ofJson` read the parts of an interaction, and `toPactJson` writes
them. What is missing or null has a default. Values of headers and queries may be single ones or
lists, and numbers among them stand for their text.
-/

namespace MockProvider

namespace Message

/-! ## Reading -/

/-- Reads a text, when there is one. -/
def optionalString (location : Location) (members : List (String × Json)) (key : String) :
    Except ContractError (Option String) :=
  match Assoc.get? members key with
  | none | some .null => .ok none
  | some (.string s) => .ok (some s)
  | some _ => .error (.invalidField (location.field key) .notString)

/-- Reads the texts of a list, each at its location. -/
def stringItems (location : Location) :
    (position : Nat) → List Json → Except ContractError (List String)
  | _, [] => .ok []
  | position, item :: items =>
    let text : Option String :=
      match item with
      | .string s => some s
      | .number n => some n.toText
      | _ => none
    match text with
    | none => .error (.invalidField (location.item position) .notString)
    | some s => (stringItems location (position + 1) items).map (s :: ·)

/-- Reads the values of a header or a query parameter. -/
def stringValues (location : Location) (value : Json) : Except ContractError (List String) :=
  match value with
  | .string s => .ok [s]
  | .array items => stringItems location 0 items
  | .number n => .ok [n.toText]
  | .bool true => .ok ["true"]
  | .bool false => .ok ["false"]
  | _ => .error (.invalidField location .notStrings)

def valuesByName (location : Location) :
    List (String × Json) → Except ContractError (List (String × List String))
  | [] => .ok []
  | (name, value) :: members => do
    let values ← stringValues (location.field name) value
    let others ← valuesByName location members
    return (name, values) :: others

/-- Reads a query, given as a query string or by its keys. -/
def queryOf (location : Location) (value : Option Json) : Except ContractError (Option Query) :=
  match value with
  | none | some .null => .ok none
  | some (.string raw) => .ok (if raw.isEmpty then none else some (Query.parse raw))
  | some (.object members) => (valuesByName location members).map fun pairs => some (.ofList pairs)
  | some _ => .error (.invalidField location .notQuery)

def headersOf (location : Location) (value : Option Json) :
    Except ContractError (Option Headers) :=
  match value with
  | none | some .null => .ok none
  | some (.object members) => (valuesByName location members).map fun pairs => some (.ofList pairs)
  | some _ => .error (.invalidField location .notObject)

/-- Reads headers, rules and body. The type of the body is that of its header. -/
def ofMembers (location : Location) (members : List (String × Json)) :
    Except ContractError Message := do
  let headers ← headersOf (location.field "headers") (Assoc.get? members "headers")
  let rules ←
    match Assoc.get? members "matchingRules" with
    | none => .ok .empty
    | some value => RuleTable.ofJson (location.field "matchingRules") value
  let declared := (headers.bind fun h => h.lookup? "content-type").bind List.head?
  return { headers, rules, body := Body.ofContract (Assoc.get? members "body") declared }

/-! ## Writing -/

def valuesJson (values : Dict (List String)) : Json :=
  .ofDict (values.map Json.ofStrings)

/-- The members for headers and body; an absent body has none. -/
def contentMembers (m : Message) : List (String × Json) :=
  (match m.headers with
    | some headers => [("headers", valuesJson headers)]
    | none => []) ++
  (match m.body with
    | .absent => []
    | body => [("body", body.toJson)])

/-- The member for the rules, when there are any. -/
def rulesMembers (m : Message) : List (String × Json) :=
  if m.rules.isEmpty then [] else [("matchingRules", m.rules.toJson)]

end Message

namespace Request

/-- Reads the method, in upper case. -/
def methodOf (location : Location) (members : List (String × Json)) :
    Except ContractError String :=
  (Message.optionalString location members "method").map fun method =>
    Ascii.upper (method.getD "GET")

def ofJson (location : Location) (value : Json) : Except ContractError Request :=
  match value.members? with
  | none => .error (.invalidField location .notObject)
  | some members => do
    let method ← methodOf location members
    let path ← Message.optionalString location members "path"
    let query ← Message.queryOf (location.field "query") (Assoc.get? members "query")
    let content ← Message.ofMembers location members
    return { content with method, path := path.getD "/", query }

def summaryMembers (r : Request) : List (String × Json) :=
  [("method", .string r.method), ("path", .string r.path)] ++
  (match r.query with
    | some query => [("query", Message.valuesJson query)]
    | none => []) ++
  r.toMessage.contentMembers

/-- A request in reports, without its rules. -/
def toJson (r : Request) : Json :=
  .ofMembers r.summaryMembers

def toPactJson (r : Request) : Json :=
  .ofMembers (r.summaryMembers ++ r.toMessage.rulesMembers)

end Request

namespace Response

def statusOf (location : Location) (members : List (String × Json)) :
    Except ContractError UInt16 :=
  match Assoc.get? members "status" with
  | none | some .null => .ok 200
  | some value =>
    match value.uint64? with
    | some n =>
      if 100 ≤ n ∧ n ≤ 999 then .ok n.toUInt16
      else .error (.invalidField (location.field "status") .notStatus)
    | none => .error (.invalidField (location.field "status") .notStatus)

def ofJson (location : Location) (value : Json) : Except ContractError Response :=
  match value.members? with
  | none => .error (.invalidField location .notObject)
  | some members => do
    let status ← statusOf location members
    let content ← Message.ofMembers location members
    return { content with status }

def toPactJson (r : Response) : Json :=
  .ofMembers
    (("status", .ofNat r.status.toNat) :: (r.toMessage.contentMembers ++ r.toMessage.rulesMembers))

end Response

end MockProvider
