import MockProvider.Proofs.Server.Sections
import MockProvider.Proofs.Server.Verdict

/-!
# Isolation of servers

Operations of the registry, one after another, with what they give. They tell what the server at a
socket was started with and which requests reached it since, its `Life`, without a look at the
registry. The server there is then just as a server that had this life alone (`Serving`): requests
to others, starts that failed and earlier servers at the socket make no difference.
-/

namespace MockProvider

namespace Registry

/-! ## Operations -/

/-- What a machine gives when it is asked to listen at an address. -/
abbrev Machine := SocketAddress → Except ServerError SocketAddress

inductive Operation where
  | start (contract address : String) (config : Config) (machine : Machine)
  | startFor (contract : Contract) (address : String) (config : Config) (machine : Machine)
  | request (socket : UInt16) (arrival : Arrival)
  | shutdown (socket : UInt16)
  | shutdownAll
  | matched (socket : UInt16)
  | report (socket : UInt16)
  | sockets

/-- What an operation gives. -/
inductive Outcome where
  | started (result : Except ServerError UInt16)
  | replied (reply? : Option Reply)
  | shutDown (result : Except ServerError Cleanup)
  | shutDownAll (stopped : List UInt16)
  | judged (verdict : Except ServerError Bool)
  | reported (report : Except ServerError (List ReportEntry))
  | listed (sockets : List UInt16)

/-- Starts a server for a contract where a machine lets it listen. -/
def startOn (r : Registry) (machine : Machine) (contract : Contract) (address : String)
    (config : Config) : Except ServerError (After Nat) :=
  match SocketAddress.resolve address with
  | none => .error (.badAddress address)
  | some wanted => do
    let address ← machine wanted
    if (r.number? address.socket).isSome then .error (.socketTaken address.socket)
    else
      let launched := r.launch contract address config
      return ⟨launched.value, launched.registry.register address.socket launched.value⟩

/-- Starting a server is to start it where the machine that no network reaches lets it listen. -/
theorem startFor_eq_startOn (r : Registry) (contract : Contract) (address : String)
    (config : Config) :
    r.startFor contract address config = r.startOn r.bind contract address config := rfl

/-- The socket of the server with a number. -/
def socketAt (r : Registry) (number : Nat) : UInt16 :=
  ((r.server? number).map fun s => s.address.socket).getD 0

/-- A start gives the socket at which the server listens. -/
def afterStart (r : Registry) : Except ServerError (After Nat) → After Outcome
  | .ok launched => ⟨.started (.ok (launched.registry.socketAt launched.value)), launched.registry⟩
  | .error e => ⟨.started (.error e), r⟩

/-- A request gets to the server that is registered with its socket. -/
def request (r : Registry) (socket : UInt16) (arrival : Arrival) : After (Option Reply) :=
  match (r.number? socket).bind fun number => r.deliver number arrival with
  | some answered => ⟨some answered.value, answered.registry⟩
  | none => ⟨none, r⟩

def operate (r : Registry) : Operation → After Outcome
  | .start text address config machine => r.afterStart (do
    let contract ← (Contract.ofText text).mapError .contract
    r.startOn machine contract address config)
  | .startFor contract address config machine =>
    r.afterStart (r.startOn machine contract address config)
  | .request socket arrival =>
    let answered := r.request socket arrival
    ⟨.replied answered.value, answered.registry⟩
  | .shutdown socket => ⟨.shutDown ((r.shutdown socket).map After.value), r.afterShutdown socket⟩
  | .shutdownAll => ⟨.shutDownAll r.shutdownAll.value, r.shutdownAll.registry⟩
  | .matched socket => ⟨.judged (r.matched socket), r⟩
  | .report socket => ⟨.reported (r.report socket), r⟩
  | .sockets => ⟨.listed r.sockets, r⟩

/-- The registry after operations, one after another. -/
def operateAll (r : Registry) (operations : List Operation) : Registry :=
  operations.foldl (fun r operation => (r.operate operation).registry) r

/-- The operations with what they give. -/
def trace (r : Registry) : List Operation → List (Operation × Outcome)
  | [] => []
  | operation :: operations =>
    let after := r.operate operation
    (operation, after.value) :: after.registry.trace operations

/-! ## Lives -/

/-- What a server was started with, and the requests that it got since. -/
structure Life where
  contract : Contract
  config : Config
  arrivals : List Arrival := []

/-- What an operation starts a server for. -/
def Operation.life? : Operation → Option Life
  | .start text _ config _ =>
    (Contract.ofText text).toOption.map fun contract => { contract, config }
  | .startFor contract _ config _ => some { contract, config }
  | _ => none

namespace Life

/-- The life of the server at a socket after a further operation. -/
def next (socket : UInt16) (life? : Option Life) : Operation × Outcome → Option Life
  | (operation, .started (.ok found)) => if found = socket then operation.life? else life?
  | (.request asked arrival, _) =>
    if asked = socket then
      life?.map fun life => { life with arrivals := life.arrivals ++ [arrival] }
    else life?
  | (.shutdown asked, .shutDown (.ok .stopped)) => if asked = socket then none else life?
  | (.shutdownAll, _) => none
  | _ => life?

/-- The life of the server at a socket; there is none where none was started or it was shut down. -/
def ofTrace? (socket : UInt16) (trace : List (Operation × Outcome)) : Option Life :=
  trace.foldl (next socket) none

/-- The server that had this life alone. -/
def server (life : Life) (address : SocketAddress) : Server :=
  ({ contract := life.contract, config := life.config, address } : Server).run life.arrivals

end Life

/-! ## Looking up numbers and servers -/

variable {r : Registry} {socket : UInt16} {number : Nat} {life? : UInt16 → Option Life}

theorem lookup_cons (entry : UInt16 × Nat) (entries : List (UInt16 × Nat)) (other : UInt16) :
    (entry :: entries).lookup other =
      if entry.1 = other then some entry.2 else entries.lookup other := by
  rw [List.lookup_cons]
  by_cases heq : entry.1 = other
  · simp [heq]
  · simp [heq, beq_eq_false_iff_ne.2 (Ne.symm heq)]

theorem lookup_insertEntry {entries : List (UInt16 × Nat)}
    (hnew : socket ∉ entries.map Prod.fst) (number : Nat) (other : UInt16) :
    (insertEntry socket number entries).lookup other =
      if socket = other then some number else entries.lookup other := by
  induction entries with
  | nil => exact lookup_cons (socket, number) [] other
  | cons entry entries ih =>
    rw [List.map_cons, List.mem_cons, not_or] at hnew
    rw [insertEntry]
    split
    · rw [lookup_cons, ih hnew.2, lookup_cons]
      by_cases heq : socket = other
      · subst heq
        simp [Ne.symm hnew.1]
      · simp [heq]
    · exact lookup_cons (socket, number) (entry :: entries) other

theorem number?_register (hnew : socket ∉ r.sockets) (number : Nat) (other : UInt16) :
    (r.register socket number).number? other =
      if socket = other then some number else r.number? other :=
  lookup_insertEntry hnew number other

theorem number?_unregister (r : Registry) (socket other : UInt16) :
    (r.unregister socket).number? other = if socket = other then none else r.number? other := by
  rw [number?, unregister, number?]
  induction r.registered with
  | nil => simp
  | cons entry entries ih =>
    rw [List.filter_cons, lookup_cons]
    split
    · next hne =>
      rw [lookup_cons, ih]
      by_cases heq : socket = other
      · subst heq
        simpa using hne
      · simp [heq]
    · next heq =>
      rw [ih]
      by_cases hother : socket = other
      · simp [hother]
      · have hentry : entry.1 = socket := by simpa using heq
        simp [hentry, hother]

theorem server?_withServer {old : Server} (hold : r.server? number = some old) (s : Server)
    (other : Nat) :
    (r.withServer number s).server? other =
      if number = other then some s else r.server? other := by
  obtain ⟨hlt, -⟩ := List.getElem?_eq_some_iff.1 hold
  simp only [server?, withServer, List.getElem?_set, if_pos hlt]

theorem number?_signal (r : Registry) (number : Nat) (socket : UInt16) :
    (r.signal number).registry.number? socket = r.number? socket := by
  rw [signal]
  split <;> rfl

theorem server?_signal_of_ne (r : Registry) {other : Nat} (h : number ≠ other) :
    (r.signal number).registry.server? other = r.server? other := by
  rw [signal]
  split
  · next s hs => rw [server?_withServer hs, if_neg h]
  · rfl

/-! ## What one operation does -/

/-- The registered servers are the ones with a life, and are just what their lives make of them. -/
structure Serving (r : Registry) (life? : UInt16 → Option Life) : Prop where
  absent : ∀ socket, life? socket = none → r.number? socket = none
  present : ∀ socket life, life? socket = some life → ∃ number address,
    r.number? socket = some number ∧ r.server? number = some (life.server address)
  apart : ∀ socket other number, r.number? socket = some number → r.number? other = some number →
    socket = other

theorem Serving.server (h : Serving r life?) (hnumber : r.number? socket = some number) :
    ∃ life address, life? socket = some life ∧ r.server? number = some (life.server address) := by
  cases hlife : life? socket with
  | none =>
    rw [h.absent socket hlife] at hnumber
    cases hnumber
  | some life =>
    obtain ⟨number', address, hnumber', hserver⟩ := h.present socket life hlife
    rw [hnumber] at hnumber'
    cases hnumber'
    exact ⟨life, address, rfl, hserver⟩

theorem serving_empty : Serving {} fun _ => none :=
  ⟨fun _ _ => rfl, fun _ _ h => (nomatch h), fun _ _ _ h => (nomatch h)⟩

theorem Serving.life?_eq_none_iff (h : Serving r life?) :
    life? socket = none ↔ r.number? socket = none := by
  refine ⟨h.absent socket, fun hnone => ?_⟩
  cases hlife : life? socket with
  | none => rfl
  | some life =>
    obtain ⟨number, -, hnumber, -⟩ := h.present socket life hlife
    rw [hnone] at hnumber
    cases hnumber

theorem Serving.lt (h : Serving r life?) (hnumber : r.number? socket = some number) :
    number < r.servers.length := by
  obtain ⟨life, address, -, hserver⟩ := h.server hnumber
  exact (List.getElem?_eq_some_iff.1 hserver).1

/-- Different sockets have different servers. -/
theorem Serving.ne (h : Serving r life?) {other : UInt16} {number' : Nat}
    (hnumber : r.number? socket = some number) (hnumber' : r.number? other = some number')
    (hne : socket ≠ other) : number ≠ number' := by
  rintro rfl
  exact hne (h.apart socket other number hnumber hnumber')

/-- A further server gets a number that no other has. -/
theorem Serving.launch (h : Serving r life?) (contract : Contract) (config : Config)
    (found : SocketAddress) (hnew : found.socket ∉ r.sockets) :
    Serving ((r.launch contract found config).registry.register found.socket r.servers.length)
      fun other => if found.socket = other then some { contract, config } else life? other := by
  have hnumber : ∀ other, ((r.launch contract found config).registry.register found.socket
      r.servers.length).number? other =
        if found.socket = other then some r.servers.length else r.number? other :=
    number?_register hnew r.servers.length
  have hserver : ∀ number, ((r.launch contract found config).registry.register found.socket
      r.servers.length).server? number =
        (r.servers ++ [{ contract, config, address := found }])[number]? := fun _ => rfl
  constructor
  · intro other hnone
    rw [hnumber]
    split at hnone
    · cases hnone
    · next hne => rw [if_neg hne, h.absent other hnone]
  · intro other life hlife
    simp only [hnumber, hserver]
    split at hlife
    · next heq =>
      cases hlife
      exact ⟨r.servers.length, found, if_pos heq, List.getElem?_concat_length⟩
    · next hne =>
      obtain ⟨number, address, hthere, hsame⟩ := h.present other life hlife
      refine ⟨number, address, (if_neg hne).trans hthere, ?_⟩
      rw [List.getElem?_append_left (h.lt hthere)]
      exact hsame
  -- the number of the further server is greater than those of the registered ones
  · intro first second number hfirst hsecond
    rw [hnumber] at hfirst hsecond
    split at hfirst
    · next heq =>
      split at hsecond
      · next heq' => rw [← heq, heq']
      · cases hfirst
        exact absurd (h.lt hsecond) (Nat.lt_irrefl _)
    · split at hsecond
      · cases hsecond
        exact absurd (h.lt hfirst) (Nat.lt_irrefl _)
      · exact h.apart first second number hfirst hsecond

/-- A server that is shut down is no longer registered, and no other is touched. -/
theorem Serving.release (h : Serving r life?) (hthere : r.number? socket = some number) :
    Serving ((r.unregister socket).signal number).registry
      fun other => if socket = other then none else life? other := by
  have hnumber : ∀ other, ((r.unregister socket).signal number).registry.number? other =
      if socket = other then none else r.number? other := fun other => by
    rw [number?_signal, number?_unregister]
  constructor
  · intro other hnone
    rw [hnumber]
    split at hnone
    · next heq => rw [if_pos heq]
    · next hne => rw [if_neg hne, h.absent other hnone]
  · intro other life hlife
    simp only [hnumber]
    split at hlife
    · cases hlife
    · next hne =>
      obtain ⟨number', address, hnumber', hserver⟩ := h.present other life hlife
      have hother : number ≠ number' := h.ne hthere hnumber' hne
      refine ⟨number', address, (if_neg hne).trans hnumber', ?_⟩
      rw [server?_signal_of_ne _ hother]
      exact hserver
  · intro first second number' hfirst hsecond
    rw [hnumber] at hfirst hsecond
    split at hfirst
    · cases hfirst
    · split at hsecond
      · cases hsecond
      · exact h.apart first second number' hfirst hsecond

theorem Serving.afterShutdown (h : Serving r life?) (socket : UInt16) :
    Serving (r.afterShutdown socket)
      fun other => if socket = other then none else life? other := by
  -- where nothing is registered there is no life to end
  have hkept (hnone : r.number? socket = none) :
      Serving r fun other => if socket = other then none else life? other := by
    have hsame : (fun other => if socket = other then none else life? other) = life? := by
      funext other
      split
      · next heq => rw [← heq, h.life?_eq_none_iff.2 hnone]
      · rfl
    rw [hsame]
    exact h
  rw [Registry.afterShutdown]
  rcases r.shutdown_cases socket with
    ⟨number, hnumber, hshutdown⟩ | ⟨hnone, -, hshutdown⟩ | ⟨hnone, -, hshutdown⟩
  · rw [hshutdown]
    exact h.release hnumber
  · rw [hshutdown]
    exact hkept hnone
  · rw [hshutdown]
    exact hkept hnone

theorem Serving.shutdownEach (h : Serving r life?) (sockets : List UInt16) :
    Serving (r.shutdownEach sockets).registry
      fun other => if other ∈ sockets then none else life? other := by
  induction sockets generalizing r life? with
  | nil => simpa [Registry.shutdownEach] using h
  | cons socket sockets ih =>
    rw [shutdownEach_cons]
    have hrest := ih (h.afterShutdown socket)
    have hsame : (fun other => if other ∈ socket :: sockets then none else life? other) =
        fun other => if other ∈ sockets then none
          else if socket = other then none else life? other := by
      funext other
      by_cases heq : socket = other
      · simp [heq]
      · simp [heq, Ne.symm heq]
    rw [hsame]
    exact hrest

theorem Serving.shutdownAll (h : Serving r life?) :
    Serving r.shutdownAll.registry fun _ => none := by
  have hall := h.shutdownEach r.sockets
  have hnone : (fun other => if other ∈ r.sockets then none else life? other) =
      fun _ => none := by
    funext other
    split
    · rfl
    · next habsent => exact h.life?_eq_none_iff.2 (number?_eq_none_iff.2 habsent)
  rw [hnone] at hall
  exact hall

/-- A life goes on by the request. -/
theorem Life.server_concat (life : Life) (arrival : Arrival) (address : SocketAddress) :
    Life.server { life with arrivals := life.arrivals ++ [arrival] } address =
      ((life.server address).handle arrival).server :=
  List.foldl_concat ..

/-- A request gets to one server and is answered by it. -/
theorem request_eq {s : Server} (hnumber : r.number? socket = some number)
    (hserver : r.server? number = some s) (arrival : Arrival) :
    r.request socket arrival =
      ⟨some (s.handle arrival).reply, r.withServer number (s.handle arrival).server⟩ := by
  simp only [request, hnumber, Option.bind_some, deliver, hserver, Option.map_some]

theorem Serving.request (h : Serving r life?) (asked : UInt16) (arrival : Arrival) :
    Serving (r.request asked arrival).registry fun other =>
      if asked = other then
        (life? other).map fun life => { life with arrivals := life.arrivals ++ [arrival] }
      else life? other := by
  cases hasked : r.number? asked with
  | none =>
    -- the request gets to no server, and there is no life that it could be part of
    have hkept : (r.request asked arrival).registry = r := by
      simp only [Registry.request, hasked, Option.bind_none]
    have hsame : (fun other => if asked = other then (life? other).map fun life =>
        { life with arrivals := life.arrivals ++ [arrival] } else life? other) = life? := by
      funext other
      split
      · next heq => rw [← heq, h.life?_eq_none_iff.2 hasked, Option.map_none]
      · rfl
    rw [hkept, hsame]
    exact h
  | some number =>
    obtain ⟨life, address, hlife, hserver⟩ := h.server hasked
    rw [request_eq hasked hserver]
    constructor
    · intro other hnone
      refine h.absent other ?_
      split at hnone
      · exact Option.map_eq_none_iff.1 hnone
      · exact hnone
    · intro other life' hlife'
      split at hlife'
      · next heq =>
        subst heq
        rw [hlife, Option.map_some] at hlife'
        cases hlife'
        refine ⟨number, address, hasked, ?_⟩
        rw [server?_withServer hserver, if_pos rfl, Life.server_concat]
      · next hne =>
        obtain ⟨number', address', hnumber', hserver'⟩ := h.present other life' hlife'
        have hother : number ≠ number' := h.ne hasked hnumber' hne
        refine ⟨number', address', hnumber', ?_⟩
        rw [server?_withServer hserver, if_neg hother]
        exact hserver'
    · exact h.apart

/-- A start fails and changes nothing, or launches a server at a socket where none is registered. -/
theorem startOn_cases (r : Registry) (machine : Machine) (contract : Contract) (address : String)
    (config : Config) :
    (∃ e, r.startOn machine contract address config = .error e) ∨
      ∃ found, found.socket ∉ r.sockets ∧
        r.startOn machine contract address config = .ok ⟨r.servers.length,
          (r.launch contract found config).registry.register found.socket r.servers.length⟩ := by
  unfold startOn
  cases SocketAddress.resolve address with
  | none => exact Or.inl ⟨_, rfl⟩
  | some wanted =>
    simp only
    cases machine wanted with
    | error e => exact Or.inl ⟨e, rfl⟩
    | ok found =>
      by_cases hpresent : found.socket ∈ r.sockets
      · exact Or.inl ⟨_, if_pos (isSome_number?_iff.2 hpresent)⟩
      · exact Or.inr ⟨found, hpresent, if_neg (mt isSome_number?_iff.1 hpresent)⟩

theorem socketAt_launched (r : Registry) (contract : Contract) (config : Config)
    (found : SocketAddress) :
    ((r.launch contract found config).registry.register found.socket r.servers.length).socketAt
      r.servers.length = found.socket := by
  have hserver : (r.servers ++ [{ contract, config, address := found }])[r.servers.length]? =
      some { contract, config, address := found } := List.getElem?_concat_length
  exact congrArg (fun s? => (s?.map fun s : Server => s.address.socket).getD 0) hserver

theorem Serving.afterStart (h : Serving r life?) {operation : Operation} {contract : Contract}
    {config : Config} (hlife : operation.life? = some { contract, config }) (machine : Machine)
    (address : String) :
    let after := r.afterStart (r.startOn machine contract address config)
    Serving after.registry fun socket =>
      Life.next socket (life? socket) (operation, after.value) := by
  rcases r.startOn_cases machine contract address config with ⟨e, hstart⟩ | ⟨found, hnew, hstart⟩
  · rw [hstart]
    cases operation with
    | start | startFor => exact h
    | request | shutdown | shutdownAll | matched | report | sockets => cases hlife
  · rw [hstart]
    simp only [Registry.afterStart, Life.next, socketAt_launched, hlife]
    exact h.launch contract config found hnew

/-- What one operation does to all servers. -/
theorem Serving.operate (h : Serving r life?) (operation : Operation) :
    let after := r.operate operation
    Serving after.registry fun socket =>
      Life.next socket (life? socket) (operation, after.value) := by
  cases operation with
  | start text address config machine =>
    simp only [Registry.operate]
    cases hcontract : Contract.ofText text with
    | error e => exact h
    | ok contract =>
      have hlife : (Operation.start text address config machine).life? =
          some { contract, config } := by
        rw [Operation.life?, hcontract]
        rfl
      exact h.afterStart hlife machine address
  | startFor contract address config machine => exact h.afterStart rfl machine address
  | request asked arrival => exact h.request asked arrival
  | shutdown asked =>
    have hafter := h.afterShutdown asked
    simp only [Registry.operate]
    rcases r.shutdown_cases asked with
      ⟨number, -, hshutdown⟩ | ⟨hnone, -, hshutdown⟩ | ⟨hnone, -, hshutdown⟩
    · rw [hshutdown]
      exact hafter
    · rw [hshutdown, Registry.afterShutdown, hshutdown]
      exact h
    · rw [hshutdown, Registry.afterShutdown, hshutdown]
      exact h
  | shutdownAll => exact h.shutdownAll
  | matched | report | sockets => exact h

theorem Serving.operateAll (h : Serving r life?) (operations : List Operation) :
    Serving (r.operateAll operations) fun socket =>
      (r.trace operations).foldl (Life.next socket) (life? socket) := by
  induction operations generalizing r life? with
  | nil => exact h
  | cons operation operations ih => exact ih (h.operate operation)

/-! ## Isolation -/

/-- What a server says does not depend on where it listens. -/
theorem Life.server_eq (life : Life) (address other : SocketAddress) :
    life.server address = { life.server other with address } := by
  simp only [Life.server, Server.run_eq]

/-- After any operations, a socket is registered just if the trace has a life for it. Its verdict,
    its report, its metrics and records, and what it replies next, are those of a server that had
    this life alone. -/
theorem isolation (operations : List Operation) (socket : UInt16) :
    let r := ({} : Registry).operateAll operations
    match Life.ofTrace? socket (({} : Registry).trace operations) with
    | none => socket ∉ r.sockets
    | some life => socket ∈ r.sockets ∧ ∀ address,
      let alone := life.server address
      r.matched socket = .ok alone.matched ∧
        r.report socket = .ok alone.report ∧
        (r.find? socket).map Server.metrics = some alone.metrics ∧
        (r.find? socket).map Server.records = some alone.records ∧
        ∀ arrival, (r.request socket arrival).value = some (alone.handle arrival).reply := by
  intro r
  have hserving : Serving r fun socket => Life.ofTrace? socket (({} : Registry).trace operations) :=
    serving_empty.operateAll operations
  cases hlife : Life.ofTrace? socket (({} : Registry).trace operations) with
  | none => exact number?_eq_none_iff.1 (hserving.absent socket hlife)
  | some life =>
    obtain ⟨number, there, hnumber, hserver⟩ := hserving.present socket life hlife
    refine ⟨isSome_number?_iff.1 (by rw [hnumber]; rfl), fun address => ?_⟩
    have hfind : r.find? socket = some (life.server there) := by
      rw [find?, hnumber, Option.bind_some, hserver]
    simp only [matched, report, find, request_eq hnumber hserver, hfind]
    rw [life.server_eq there address]
    refine ⟨rfl, rfl, rfl, rfl, fun arrival => ?_⟩
    rw [Server.handle_eq, Server.handle_eq]
    split <;> rfl

/-- A server is asked once and shut down, another one is started at its socket, and a third one
    elsewhere is asked. -/
def reuse : List Operation :=
  let machine : Machine := .ok
  let visit := Server.visit "GET" "/"
  [.startFor {} "127.0.0.1:8080" {} machine, .request 8080 visit, .shutdown 8080,
    .startFor {} "127.0.0.1:8080" {} machine, .startFor {} "127.0.0.1:8081" {} machine,
    .request 8081 visit]

example :
    let arrivals (socket : UInt16) :=
      (Life.ofTrace? socket (({} : Registry).trace reuse)).map fun life => life.arrivals.length
    arrivals 8080 = some 0 ∧ arrivals 8081 = some 1 ∧ arrivals 8082 = none := by
  decide +kernel

end Registry

end MockProvider
