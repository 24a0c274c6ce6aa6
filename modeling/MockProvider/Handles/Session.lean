import MockProvider.Handles.Table
import MockProvider.Server.Registry

/-!
# Calls with codes

The calls that programs in other languages make. Their arguments may be missing or not be text; their
results are numbers, where negative ones tell what went wrong, and truth values. A server is named by
its socket, which may be any number.
-/

namespace MockProvider

/-- An argument of a call: octets, or nothing. -/
abbrev Argument := Option Bytes

/-- The text of an argument, if it is text. -/
def Argument.text? (argument : Argument) : Option String :=
  argument.bind Bytes.toString?

def Argument.textOrEmpty (argument : Argument) : String :=
  argument.text?.getD ""

/-- What calls act on. -/
structure Session where
  registry : Registry := {}
  table : DraftTable := {}
  files : FileTree := {}
  environment : Config.Environment := fun _ => none

namespace Session

/-! ## Codes -/

/-- The code for an argument that is missing or no text. -/
def badArgument : Int := -1

/-- The code for a configuration that cannot be read. -/
def badConfig : Int := -6

def written : Int := 0

/-- The code for a document that cannot be written. -/
def notWritten : Int := 2

def noServer : Int := 3

/-- What a call gives, and the session after it. -/
structure After (α : Type) where
  value : α
  session : Session

/-- The socket with a number, if there is one. -/
def socketOf (number : Int) : Option UInt16 :=
  if 0 ≤ number ∧ number < UInt16.size then some number.toNat.toUInt16 else none

/-- A call that leads to another table. -/
def withTable (s : Session) (call : DraftTable.After α) : After α :=
  ⟨call.value, { s with table := call.table }⟩

/-! ## Starting servers -/

/-- The number of the server that was started, or a code. -/
def started (s : Session) (result : Except ServerError (Registry.After Nat)) :
    After (Except Int Nat) :=
  match result with
  | .ok launched => ⟨.ok launched.value, { s with registry := launched.registry }⟩
  | .error e => ⟨.error e.code, s⟩

def create (s : Session) (contract address : Argument) : After (Except Int Nat) :=
  match contract.text?, address.text? with
  | some contract, some address =>
    s.started (s.registry.start contract address (.ofEnvironmentOrDefault s.environment))
  | _, _ => ⟨.error badArgument, s⟩

/-- Starts a server for a contract in a text, with a configuration. -/
def createWithConfig (s : Session) (contract address config : Argument) :
    After (Except Int Nat) :=
  match contract.text?, address.text?, config.text? with
  | some contract, some address, some config =>
    match Config.ofText config with
    | .ok config => s.started (s.registry.start contract address config)
    | .error _ => ⟨.error badConfig, s⟩
  | _, _, _ => ⟨.error badArgument, s⟩

/-- Starts a server for the contract behind a handle, which is frozen then. -/
def createForPact (s : Session) (handle : PactHandle) (address : Argument) :
    After (Except Int Nat) :=
  match address.text?, s.table.contract? handle with
  | some address, some contract =>
    let config := Config.ofEnvironmentOrDefault s.environment
    let after := s.started (s.registry.startFor contract address config)
    match after.value with
    | .ok _ => { after with session.table := after.session.table.freeze handle }
    | .error _ => after
  | _, _ => ⟨.error badArgument, s⟩

/-! ## Asking and stopping servers -/

/-- The verdict of a server; false where there is none. -/
def matched (s : Session) (socket : Int) : Bool :=
  match (socketOf socket).map s.registry.matched with
  | some (.ok verdict) => verdict
  | _ => false

/-- The report of a server, if it is there. -/
def report? (s : Session) (socket : Int) : Option (List ReportEntry) :=
  match (socketOf socket).map s.registry.report with
  | some (.ok report) => some report
  | _ => none

/-- The directory that an argument names; a missing one is the present directory. -/
def directoryOf? (argument : Argument) : Option String :=
  match argument with
  | none => some "."
  | some bytes => bytes.toString?

/-- Writes the pact document of a server into a directory. -/
def writePact (s : Session) (socket : Int) (directory : Argument) (overwrite : Bool) : After Int :=
  match socketOf socket, directoryOf? directory with
  | none, _ => ⟨noServer, s⟩
  | some _, none => ⟨notWritten, s⟩
  | some socket, some directory =>
    let result := s.registry.writePact s.files socket directory overwrite
    let code :=
      match result.result with
      | .ok _ => written
      | .error (.notFound _) => noServer
      | .error _ => notWritten
    ⟨code, { s with files := result.files }⟩

/-- Shuts down a server; false where there never was one. -/
def cleanup (s : Session) (socket : Int) : After Bool :=
  match (socketOf socket).map s.registry.shutdown with
  | some (.ok after) => ⟨true, { s with registry := after.registry }⟩
  | _ => ⟨false, s⟩

/-! ## Building contracts -/

def newPact (s : Session) (consumer provider : Argument) : After PactHandle :=
  s.withTable (s.table.newPact consumer.textOrEmpty provider.textOrEmpty)

def newInteraction (s : Session) (handle : PactHandle) (description : Argument) :
    After InteractionHandle :=
  s.withTable (s.table.newInteraction handle description.textOrEmpty)

def needing (s : Session) (argument : Argument) (call : String → DraftTable.After Bool) :
    After Bool :=
  match argument.text? with
  | some text => s.withTable (call text)
  | none => ⟨false, s⟩

/-- A call that needs two arguments. -/
def needingBoth (s : Session) (first second : Argument)
    (call : String → String → DraftTable.After Bool) : After Bool :=
  match first.text?, second.text? with
  | some a, some b => s.withTable (call a b)
  | _, _ => ⟨false, s⟩

def uponReceiving (s : Session) (handle : InteractionHandle) (description : Argument) :
    After Bool :=
  s.needing description (s.table.uponReceiving handle)

def given (s : Session) (handle : InteractionHandle) (state : Argument) : After Bool :=
  s.needing state (s.table.given handle)

/-- Sets method and path of the request; both have defaults. -/
def withRequest (s : Session) (handle : InteractionHandle) (method path : Argument) : After Bool :=
  s.withTable (s.table.withTarget handle (method.text?.getD "GET") (path.text?.getD "/"))

/-- Sets a value of a query parameter. -/
def withQuery (s : Session) (handle : InteractionHandle) (name : Argument) (index : UInt64)
    (value : Argument) : After Bool :=
  s.needingBoth name value fun name value => s.table.withQuery handle name index value

def withHeader (s : Session) (handle : InteractionHandle) (part : Part) (name : Argument)
    (index : UInt64) (value : Argument) : After Bool :=
  s.needingBoth name value fun name value => s.table.withHeader handle part name index value

def withStatus (s : Session) (handle : InteractionHandle) (status : UInt16) : After Bool :=
  s.withTable (s.table.withStatus handle status)

/-- Sets a body; a missing one is empty. -/
def withBody (s : Session) (handle : InteractionHandle) (part : Part) (type body : Argument) :
    After Bool :=
  s.withTable (s.table.withBody handle part type.text? body.textOrEmpty)

def withMetadata (s : Session) (handle : PactHandle) (space name value : Argument) : After Bool :=
  match space.text?, name.text?, value.text? with
  | some space, some name, some value => s.withTable (s.table.withMetadata handle space name value)
  | _, _, _ => ⟨false, s⟩

end Session

def version : String := "0.1.0"

end MockProvider
