import Mathlib.Control.Monad.Basic
import MockProvider.Server.Registry

/-!
# Calls at the same time

Several threads may call the registry at once. A call goes through sections: all that happens while
the registry is locked is one section, and waiting for the machine or for a server is outside of
them. Between two sections of a call there may be sections of others, in any order, and requests.
`Registry.Shared.run` gives what a schedule of them leads to.
-/

namespace MockProvider

namespace Registry

/-- What a call of the registry asks for. -/
inductive Call where
  | start (contract address : String) (config : Config)
  | startFor (contract : Contract) (address : String) (config : Config)
  | shutdown (socket : UInt16)
  | shutdownAll
  | matched (socket : UInt16)
  | sockets

/-- What a shutdown belongs to: it was asked for by itself, or it is part of shutting down all
    servers, where further sockets are left and some servers were stopped. -/
inductive Purpose where
  | alone
  | all (left stopped : List UInt16)

/-- What is left to do of a call, by its next section. -/
inductive Task where
  | read (contract address : String) (config : Config)
  | bind (contract : Contract) (address : String) (config : Config)
  | check (contract : Contract) (address : SocketAddress) (config : Config)
  | launch (contract : Contract) (address : SocketAddress) (config : Config)
  | enroll (socket : UInt16) (number : Nat)
  | release (socket : UInt16) (purpose : Purpose)
  | stop (number : Nat) (socket : UInt16) (purpose : Purpose)
  | drain (socket : UInt16) (purpose : Purpose)
  | collect
  | each (left stopped : List UInt16)
  | find (socket : UInt16)
  | judge (number : Nat) (socket : UInt16)
  | list
  | done

/-- What a section lets others see: that the registry changed, or what the call gives. -/
inductive Event where
  | registered (socket : UInt16)
  | refused (error : ServerError)
  | released (socket : UInt16)
  | shutDown (socket : UInt16) (result : Except ServerError Cleanup)
  | shutDownAll (stopped : List UInt16)
  | judged (socket : UInt16) (verdict : Except ServerError Bool)
  | listed (sockets : List UInt16)
deriving DecidableEq

/-- What a section leads to. -/
structure Advance where
  registry : Registry
  task : Task
  event? : Option Event := none

def Call.task : Call → Task
  | .start contract address config => .read contract address config
  | .startFor contract address config => .bind contract address config
  | .shutdown socket => .release socket .alone
  | .shutdownAll => .collect
  | .matched socket => .find socket
  | .sockets => .list

namespace Purpose

/-- What comes after the shutdown of a server. -/
def next (socket : UInt16) (result : Except ServerError Cleanup) : Purpose → Task
  | .alone => .done
  | .all left stopped =>
    .each left (if result = .ok .stopped then stopped ++ [socket] else stopped)

end Purpose

namespace Task

/-- A start that comes to nothing. -/
def refuse (r : Registry) (e : ServerError) : Advance :=
  { registry := r, task := .done, event? := some (.refused e) }

/-- A shutdown that gives a result. -/
def finish (r : Registry) (socket : UInt16) (purpose : Purpose)
    (result : Except ServerError Cleanup) : Advance :=
  { registry := r, task := purpose.next socket result, event? := some (.shutDown socket result) }

/-- A start after the text of its contract was read. -/
def afterText (r : Registry) (address : String) (config : Config) :
    Except ContractError Contract → Advance
  | .ok contract => { registry := r, task := .bind contract address config }
  | .error e => refuse r (.contract e)

/-- A start after its address was resolved, and the machine gave one in its place. -/
def afterBind (r : Registry) (contract : Contract) (address : String) (config : Config) :
    Option SocketAddress → Except ServerError SocketAddress → Advance
  | none, _ => refuse r (.badAddress address)
  | some _, .ok address => { registry := r, task := .check contract address config }
  | some _, .error e => refuse r e

/-- The next section of a call. What the machine gives is the address where a start listens, or an
    error. -/
def advance (r : Registry) (given : Except ServerError SocketAddress) : Task → Advance
  | .read contract address config => afterText r address config (Contract.ofText contract)
  | .bind contract address config =>
    afterBind r contract address config (SocketAddress.resolve address) given
  | .check contract address config =>
    if (r.number? address.socket).isSome then refuse r (.socketTaken address.socket)
    else { registry := r, task := .launch contract address config }
  | .launch contract address config =>
    match given with
    | .ok _ =>
      let launched := r.launch contract address config
      { registry := launched.registry, task := .enroll address.socket launched.value }
    | .error e => refuse r e
  -- another start may have taken the socket since it was checked
  | .enroll socket number =>
    if (r.number? socket).isSome then refuse (r.signal number).registry (.socketTaken socket)
    else
      { registry := r.register socket number, task := .done, event? := some (.registered socket) }
  | .release socket purpose =>
    match r.number? socket with
    | some number =>
      { registry := r.unregister socket, task := .stop number socket purpose,
        event? := some (.released socket) }
    | none =>
      if r.stopped.contains socket then finish r socket purpose (.ok .alreadyStopped)
      else finish r socket purpose (.error (.notFound socket))
  | .stop number socket purpose =>
    { registry := (r.signal number).registry, task := .drain socket purpose }
  | .drain socket purpose => finish r socket purpose (.ok .stopped)
  | .collect => { registry := r, task := .each r.sockets [] }
  | .each [] stopped => { registry := r, task := .done, event? := some (.shutDownAll stopped) }
  | .each (socket :: left) stopped =>
    { registry := r, task := .release socket (.all left stopped) }
  | .find socket =>
    match r.number? socket with
    | some number => { registry := r, task := .judge number socket }
    | none =>
      { registry := r, task := .done, event? := some (.judged socket (.error (.notFound socket))) }
  | .judge number socket =>
    { registry := r, task := .done,
      event? := (r.server? number).map fun s => .judged socket (.ok s.matched) }
  | .list => { registry := r, task := .done, event? := some (.listed r.sockets) }
  | .done => { registry := r, task := .done }

end Task

/-- A registry with all calls that were made, and what they let others see so far. -/
structure Shared where
  registry : Registry := {}
  tasks : List Task := []
  history : List Event := []

/-- What can happen next: another call comes, a call goes on, or a server gets a request. -/
inductive Action where
  | call (call : Call)
  | advance (index : Nat) (given : Except ServerError SocketAddress)
  | deliver (number : Nat) (arrival : Arrival)

namespace Shared

/-- The calls after a section of one of them. -/
def after (w : Shared) (index : Nat) (a : Advance) : Shared :=
  { registry := a.registry
    tasks := w.tasks.set index a.task
    history := w.history ++ a.event?.toList }

def step (w : Shared) : Action → Shared
  | .call call => { w with tasks := w.tasks ++ [call.task] }
  | .advance index given =>
    match w.tasks[index]? with
    | some task => w.after index (task.advance w.registry given)
    | none => w
  | .deliver number arrival =>
    match w.registry.deliver number arrival with
    | some answered => { w with registry := answered.registry }
    | none => w

/-- What a schedule leads to. -/
def run (w : Shared) (actions : List Action) : Shared :=
  actions.foldl step w

end Shared

end Registry

end MockProvider
