import MockProvider.Contract.Error
import MockProvider.Message.Codec

/-!
# Contracts

A contract lists the interactions that a consumer expects of a provider: the requests it makes and
the responses it needs. `Contract.ofText` reads a contract, `Contract.toJson` writes it as a pact
document, and `Contract.merge` folds the interactions of one contract into another.
-/

namespace MockProvider

/-- An expected request and the response to serve for it. -/
structure Interaction where
  description : String := ""
  providerState : Option String := none
  request : Request := {}
  response : Response := {}
deriving DecidableEq

instance : Inhabited Interaction := ⟨{}⟩

namespace Interaction

/-- What tells interactions apart. -/
def key (i : Interaction) : String × Option String :=
  (i.description, i.providerState)

/-- Reads the provider state from the first of its two spellings that is there, or else from the
    name of the first state in a list of states. -/
def stateOf (location : Location) (members : List (String × Json)) :
    Except ContractError (Option String) := do
  let snake ← Message.optionalString location members "provider_state"
  match snake with
  | some state => return some state
  | none =>
    let camel ← Message.optionalString location members "providerState"
    match camel with
    | some state => return some state
    | none =>
      return do
        let states ← (Assoc.get? members "providerStates").bind Json.items?
        let first ← states.head?
        (first.get? "name").bind Json.string?

def ofJson (location : Location) (value : Json) : Except ContractError Interaction :=
  match value.members? with
  | none => .error (.invalidField location .notObject)
  | some members => do
    let description ← Message.optionalString location members "description"
    let providerState ← stateOf location members
    let request ←
      match Assoc.get? members "request" with
      | none => .error (.missingField (location.field "request"))
      | some value => Request.ofJson (location.field "request") value
    let response ←
      match Assoc.get? members "response" with
      | none => .ok {}
      | some value => Response.ofJson (location.field "response") value
    return { description := description.getD "", providerState, request, response }

def toJson (i : Interaction) : Json :=
  .ofMembers
    ([("description", .string i.description), ("request", i.request.toPactJson),
        ("response", i.response.toPactJson)] ++
      match i.providerState with
      | some state => [("providerState", .string state)]
      | none => [])

end Interaction

/-- What a pact document says about itself. The version of the specification stands apart from all
    else. -/
structure Metadata where
  specVersion : Option String := none
  extra : Dict Json := .empty

namespace Metadata

/-- The version that is written where a contract has none. -/
def defaultVersion : String := "3.0.0"

def readMember (m : Metadata) (key : String) (value : Json) : Metadata :=
  if key = "pact-specification" ∨ key = "pactSpecification" then
    { m with specVersion := (value.get? "version").bind Json.string? }
  else if key = "pactSpecificationVersion" then { m with specVersion := value.string? }
  else { m with extra := m.extra.insert key value }

/-- Reads metadata; anything but an object stands for none. -/
def ofJson (value : Option Json) : Metadata :=
  match value.bind Json.members? with
  | none => {}
  | some members => members.foldl (fun m member => m.readMember member.1 member.2) {}

def versionJson (m : Metadata) : Json :=
  .ofMembers [("version", .string (m.specVersion.getD defaultVersion))]

def toJson (m : Metadata) : Json :=
  .ofDict (m.extra.insert "pactSpecification" m.versionJson)

def same (a b : Metadata) : Bool :=
  a.specVersion == b.specVersion && Json.sameMembers a.extra.toList b.extra.toList

end Metadata

/-- A contract between a consumer and a provider. -/
structure Contract where
  consumer : String := ""
  provider : String := ""
  interactions : List Interaction := []
  metadata : Metadata := {}

instance : Inhabited Contract := ⟨{}⟩

namespace Contract

/-! ## Reading -/

def partyOf (members : List (String × Json)) (key : String) : Except ContractError String :=
  match Assoc.get? members key with
  | none | some .null => .ok ""
  | some (.object party) =>
    (Message.optionalString ⟨key⟩ party "name").map fun name => name.getD ""
  | some _ => .error (.invalidField ⟨key⟩ .notObject)

/-- Reads interactions, each at its location. -/
def interactionsFrom : (position : Nat) → List Json → Except ContractError (List Interaction)
  | _, [] => .ok []
  | position, value :: values => do
    let interaction ← Interaction.ofJson (Location.item ⟨"interactions"⟩ position) value
    let interactions ← interactionsFrom (position + 1) values
    return interaction :: interactions

def interactionsOf (value : Option Json) : Except ContractError (List Interaction) :=
  match value with
  | none | some .null => .error (.missingField ⟨"interactions"⟩)
  | some (.array items) => interactionsFrom 0 items
  | some _ => .error (.invalidField ⟨"interactions"⟩ .notArray)

def ofJson (value : Json) : Except ContractError Contract :=
  match value.members? with
  | none => .error (.invalidField ⟨"$"⟩ .notContract)
  | some members => do
    let consumer ← partyOf members "consumer"
    let provider ← partyOf members "provider"
    let interactions ← interactionsOf (Assoc.get? members "interactions")
    let metadata := Metadata.ofJson (Assoc.get? members "metadata")
    return { consumer, provider, interactions, metadata }

def ofBytes (bytes : Bytes) : Except ContractError Contract :=
  match Json.parse bytes with
  | .error error => .error (.notJson error)
  | .ok value => ofJson value

def ofText (text : String) : Except ContractError Contract :=
  ofBytes (Bytes.ofString text)

/-! ## Writing -/

def toJson (c : Contract) : Json :=
  .ofMembers
    [("consumer", .ofMembers [("name", .string c.consumer)]),
      ("provider", .ofMembers [("name", .string c.provider)]),
      ("interactions", .array (c.interactions.map Interaction.toJson)),
      ("metadata", c.metadata.toJson)]

def fileName (c : Contract) : String :=
  c.consumer ++ "-" ++ c.provider ++ ".json"

def same (a b : Contract) : Bool :=
  a.consumer == b.consumer && a.provider == b.provider && a.interactions == b.interactions &&
    a.metadata.same b.metadata

/-! ## Merging -/

/-- The interactions with further ones at the end, up to the first that differs from the one that
    has its key already; that one is given next to them. -/
def mergeInteractions : List Interaction → List Interaction → List Interaction × Option Conflict
  | present, [] => (present, none)
  | present, incoming :: others =>
    match present.find? fun i => i.key == incoming.key with
    | some existing =>
      if existing.toJson == incoming.toJson then mergeInteractions present others
      else (present, some (.interaction incoming.description))
    | none => mergeInteractions (present ++ [incoming]) others

/-- Folds the interactions and metadata of another contract into this one. What was added before a
    conflict stays; a conflict is given next to the contract. -/
def merge (c other : Contract) : Contract × Option Conflict :=
  if c.consumer ≠ other.consumer ∨ c.provider ≠ other.provider then
    (c, some (.parties other.consumer other.provider c.consumer c.provider))
  else
    match mergeInteractions c.interactions other.interactions with
    | (interactions, some conflict) => ({ c with interactions }, some conflict)
    | (interactions, none) =>
      let extra := other.metadata.extra.toList.foldl
        (fun extra entry => extra.insert entry.1 entry.2) c.metadata.extra
      ({ c with interactions, metadata := { c.metadata with extra } }, none)

end Contract

end MockProvider
