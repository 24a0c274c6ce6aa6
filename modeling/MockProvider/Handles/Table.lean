import MockProvider.Contract.Basic
import MockProvider.Message.Builder

/-!
# Contracts behind handles

Contracts that are built call by call. A handle names a contract by its position in a table that
only grows, or an interaction by its position in its contract, both counted from one. When a server
has been started for a contract, the contract is frozen: from then on every call on it is refused.
-/

namespace MockProvider

structure PactHandle where
  pact : Nat
deriving DecidableEq, Repr

structure InteractionHandle where
  pact : Nat
  interaction : Nat
deriving DecidableEq, Repr

/-- The half of an interaction that a call is about. -/
inductive Part where
  | request
  | response
deriving DecidableEq, Repr

/-- A contract that is built, and whether a server serves it already. -/
structure Draft where
  contract : Contract := {}
  frozen : Bool := false

instance : Inhabited Draft := ⟨{}⟩

/-! ## Parts of contracts -/

namespace Metadata

/-- The members of a section; what is no section has none. -/
def sectionMembers (m : Metadata) (space : String) : List (String × Json) :=
  ((m.extra.get? space).bind Json.members?).getD []

def withText (m : Metadata) (space name value : String) : Metadata :=
  let members := Assoc.insert name (.string value) (m.sectionMembers space)
  { m with extra := m.extra.insert space (.object members) }

end Metadata

namespace Interaction

/-- The interaction with another request, when a step led to it. -/
def withRequest (i : Interaction) (step : Step Request) : Step Interaction :=
  ⟨{ i with request := step.result }, step.done⟩

/-- The interaction with another response, when a step led to it. -/
def withResponse (i : Interaction) (step : Step Response) : Step Interaction :=
  ⟨{ i with response := step.result }, step.done⟩

def withHeader (i : Interaction) (part : Part) (name : String) (index : UInt64) (value : String) :
    Step Interaction :=
  match part with
  | .request => i.withRequest (i.request.withHeader name index value)
  | .response => i.withResponse (i.response.withHeader name index value)

def withBody (i : Interaction) (part : Part) (type : Option String) (text : String) :
    Interaction :=
  match part with
  | .request => { i with request := i.request.withBody type text }
  | .response => { i with response := i.response.withBody type text }

end Interaction

/-! ## The table -/

/-- Every contract that was begun, in order. -/
structure DraftTable where
  drafts : List Draft := []

namespace DraftTable

instance : Inhabited DraftTable := ⟨{}⟩

/-- The contract behind a handle, if the handle was given out. -/
def draft? (t : DraftTable) (handle : PactHandle) : Option Draft :=
  match handle.pact with
  | 0 => none
  | position + 1 => t.drafts[position]?

/-- The table with another draft behind a handle. -/
def withDraft (t : DraftTable) (handle : PactHandle) (draft : Draft) : DraftTable :=
  ⟨t.drafts.set (handle.pact - 1) draft⟩

/-- What a call gives, and the table after it. -/
structure After (α : Type) where
  value : α
  table : DraftTable

def newPact (t : DraftTable) (consumer provider : String) : After PactHandle :=
  ⟨⟨t.drafts.length + 1⟩, ⟨t.drafts ++ [{ contract := { consumer, provider } }]⟩⟩

/-- The draft behind a handle, while it can be changed. -/
def openDraft? (t : DraftTable) (handle : PactHandle) : Option Draft :=
  (t.draft? handle).filter fun draft => !draft.frozen

/-- Adds an interaction; the handle has number zero where none is added. -/
def newInteraction (t : DraftTable) (handle : PactHandle) (description : String) :
    After InteractionHandle :=
  match t.openDraft? handle with
  | none => ⟨⟨handle.pact, 0⟩, t⟩
  | some draft =>
    let c := draft.contract
    let grown := { c with interactions := c.interactions ++ [{ description }] }
    ⟨⟨handle.pact, grown.interactions.length⟩,
      t.withDraft handle { draft with contract := grown }⟩

def interaction? (c : Contract) (number : Nat) : Option Interaction :=
  match number with
  | 0 => none
  | position + 1 => c.interactions[position]?

/-- The draft with another interaction at a number counted from one. -/
def withInteraction (draft : Draft) (number : Nat) (i : Interaction) : Draft :=
  let c := draft.contract
  { draft with contract := { c with interactions := c.interactions.set (number - 1) i } }

/-- Takes a step with an interaction, if it is there and can be changed. -/
def change (t : DraftTable) (handle : InteractionHandle) (step : Interaction → Step Interaction) :
    After Bool :=
  match t.openDraft? ⟨handle.pact⟩ with
  | none => ⟨false, t⟩
  | some draft =>
    match interaction? draft.contract handle.interaction with
    | none => ⟨false, t⟩
    | some i =>
      let stepped := step i
      ⟨stepped.done,
        t.withDraft ⟨handle.pact⟩ (withInteraction draft handle.interaction stepped.result)⟩

/-- Changes an interaction by a step that is always done. -/
def update (t : DraftTable) (handle : InteractionHandle) (f : Interaction → Interaction) :
    After Bool :=
  t.change handle fun i => ⟨f i, true⟩

/-! ## Calls -/

def uponReceiving (t : DraftTable) (handle : InteractionHandle) (description : String) :
    After Bool :=
  t.update handle fun i => { i with description }

def given (t : DraftTable) (handle : InteractionHandle) (state : String) : After Bool :=
  t.update handle fun i => { i with providerState := some state }

def withTarget (t : DraftTable) (handle : InteractionHandle) (method path : String) : After Bool :=
  t.update handle fun i => { i with request := i.request.withTarget method path }

/-- Sets a value of a query parameter. -/
def withQuery (t : DraftTable) (handle : InteractionHandle) (name : String) (index : UInt64)
    (value : String) : After Bool :=
  t.change handle fun i => i.withRequest (i.request.withQuery name index value)

def withHeader (t : DraftTable) (handle : InteractionHandle) (part : Part) (name : String)
    (index : UInt64) (value : String) : After Bool :=
  t.change handle fun i => i.withHeader part name index value

def withStatus (t : DraftTable) (handle : InteractionHandle) (status : UInt16) : After Bool :=
  t.update handle fun i => { i with response := i.response.withStatus status }

def withBody (t : DraftTable) (handle : InteractionHandle) (part : Part) (type : Option String)
    (text : String) : After Bool :=
  t.update handle fun i => i.withBody part type text

def withMetadata (t : DraftTable) (handle : PactHandle) (space name value : String) : After Bool :=
  match t.openDraft? handle with
  | none => ⟨false, t⟩
  | some draft =>
    let c := draft.contract
    let contract := { c with metadata := c.metadata.withText space name value }
    ⟨true, t.withDraft handle { draft with contract }⟩

/-! ## Serving -/

def contract? (t : DraftTable) (handle : PactHandle) : Option Contract :=
  (t.draft? handle).map Draft.contract

/-- The table with a contract frozen. -/
def freeze (t : DraftTable) (handle : PactHandle) : DraftTable :=
  match t.draft? handle with
  | some draft => t.withDraft handle { draft with frozen := true }
  | none => t

end DraftTable

end MockProvider
