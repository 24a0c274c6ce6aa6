import MockProvider.Files.PactFile
import MockProvider.Server.Basic
import MockProvider.Server.Listening

/-!
# The registry

Servers are numbered in the order in which they were started. The registry knows the running ones by
their sockets, and remembers the sockets whose servers were shut down. A socket is never both, and it
is one of them from the first start at it on.

A server may also be started on its own, and told to stop on its own; the registry then does not know
about it.
-/

namespace MockProvider

/-- All servers, the registered ones by socket, and the sockets that were shut down. -/
structure Registry where
  servers : List Server := []
  registered : List (UInt16 × Nat) := []
  stopped : List UInt16 := []

/-- What shutting down a server leads to. -/
inductive Cleanup where
  | stopped
  | alreadyStopped
deriving DecidableEq, Repr

namespace Registry

instance : Inhabited Registry := ⟨{}⟩

/-- What an operation gives, and the registry after it. -/
structure After (α : Type) where
  value : α
  registry : Registry

/-! ## Servers by number -/

def server? (r : Registry) (number : Nat) : Option Server :=
  r.servers[number]?

def withServer (r : Registry) (number : Nat) (server : Server) : Registry :=
  { r with servers := r.servers.set number server }

def listening (r : Registry) : List SocketAddress :=
  (r.servers.filter Server.isRunning).map Server.address

def usedSockets (r : Registry) : List UInt16 :=
  r.servers.map fun s => s.address.socket

def deliver (r : Registry) (number : Nat) (arrival : Arrival) : Option (After Reply) :=
  (r.server? number).map fun s =>
    let answered := s.handle arrival
    ⟨answered.reply, r.withServer number answered.server⟩

/-! ## Starting -/

def bind (r : Registry) (address : SocketAddress) : Except ServerError SocketAddress :=
  (address.listen r.listening r.usedSockets).mapError (.bind address)

/-- The registry with a further server that runs, next to its number. -/
def launch (r : Registry) (contract : Contract) (address : SocketAddress) (config : Config) :
    After Nat :=
  ⟨r.servers.length, { r with servers := r.servers ++ [{ contract, config, address }] }⟩

/-- Starts a server that the registry does not know about. -/
def startAlone (r : Registry) (contract : Contract) (address : SocketAddress) (config : Config) :
    Except ServerError (After Nat) := do
  return r.launch contract (← r.bind address) config

def number? (r : Registry) (socket : UInt16) : Option Nat :=
  r.registered.lookup socket

/-- The entries with a further one, in the order of sockets. -/
def insertEntry (socket : UInt16) (number : Nat) : List (UInt16 × Nat) → List (UInt16 × Nat)
  | [] => [(socket, number)]
  | entry :: entries =>
    if entry.1 < socket then entry :: insertEntry socket number entries
    else (socket, number) :: entry :: entries

def register (r : Registry) (socket : UInt16) (number : Nat) : Registry :=
  { r with
    registered := insertEntry socket number r.registered
    stopped := r.stopped.filter (· != socket) }

/-- Starts a server for a contract and registers it with its socket. -/
def startFor (r : Registry) (contract : Contract) (address : String) (config : Config) :
    Except ServerError (After Nat) :=
  match SocketAddress.resolve address with
  | none => .error (.badAddress address)
  | some wanted => do
    let address ← r.bind wanted
    if (r.number? address.socket).isSome then .error (.socketTaken address.socket)
    else
      let launched := r.launch contract address config
      return ⟨launched.value, launched.registry.register address.socket launched.value⟩

/-- Starts a server for a contract that is given as a text. -/
def start (r : Registry) (contract address : String) (config : Config) :
    Except ServerError (After Nat) := do
  let contract ← (Contract.ofText contract).mapError .contract
  r.startFor contract address config

/-! ## Asking -/

def find? (r : Registry) (socket : UInt16) : Option Server :=
  (r.number? socket).bind r.server?

/-- The server that is registered with a socket, or an error. -/
def find (r : Registry) (socket : UInt16) : Except ServerError Server :=
  match r.find? socket with
  | some s => .ok s
  | none => .error (.notFound socket)

def matched (r : Registry) (socket : UInt16) : Except ServerError Bool :=
  (r.find socket).map Server.matched

def report (r : Registry) (socket : UInt16) : Except ServerError (List ReportEntry) :=
  (r.find socket).map Server.report

/-- Writes the pact document of the contract that a server serves. -/
def writePact (r : Registry) (files : FileTree) (socket : UInt16) (directory : String)
    (overwrite : Bool) : PactFile.Written :=
  match r.find socket with
  | .ok s => PactFile.write files s.contract directory overwrite
  | .error e => ⟨files, .error e⟩

/-- The sockets of the registered servers, ascending. -/
def sockets (r : Registry) : List UInt16 :=
  r.registered.map Prod.fst

/-! ## Stopping -/

/-- Tells a server to stop; gives whether it was running. -/
def signal (r : Registry) (number : Nat) : After Bool :=
  match r.server? number with
  | some s => ⟨s.isRunning, r.withServer number s.stop⟩
  | none => ⟨false, r⟩

/-- The registry without the entry for a socket, which counts as shut down. -/
def unregister (r : Registry) (socket : UInt16) : Registry :=
  { r with
    registered := r.registered.filter fun entry => entry.1 != socket
    stopped := socket :: r.stopped }

def shutdown (r : Registry) (socket : UInt16) : Except ServerError (After Cleanup) :=
  match r.number? socket with
  | some number => .ok ⟨.stopped, ((r.unregister socket).signal number).registry⟩
  | none =>
    if r.stopped.contains socket then .ok ⟨.alreadyStopped, r⟩
    else .error (.notFound socket)

/-- Shuts down servers one after another; gives those that were running. -/
def shutdownEach (r : Registry) : List UInt16 → After (List UInt16)
  | [] => ⟨[], r⟩
  | socket :: sockets =>
    match r.shutdown socket with
    | .ok ⟨.stopped, next⟩ =>
      let rest := next.shutdownEach sockets
      ⟨socket :: rest.value, rest.registry⟩
    | _ => r.shutdownEach sockets

def shutdownAll (r : Registry) : After (List UInt16) :=
  r.shutdownEach r.sockets

end Registry

end MockProvider
