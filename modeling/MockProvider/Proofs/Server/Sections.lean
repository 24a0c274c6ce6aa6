import MockProvider.Proofs.Json.Reading
import MockProvider.Proofs.Server.Calls

/-!
# Sections of calls

What a single section of a call can do to the sockets of a registry: `section_advance` has one case
for each. And what a call does when no other comes between its sections: the same as the function
that does all of it at once. `Alone` are such sections, one after another; `Alone.exists_run` makes
a schedule of them.
-/

namespace MockProvider

namespace Registry

/-! ## Sockets -/

theorem number?_eq_none_iff {r : Registry} {socket : UInt16} :
    r.number? socket = none ↔ socket ∉ r.sockets := by
  simp only [number?, sockets, List.lookup_eq_none_iff, List.mem_map, bne_iff_ne, ne_eq, not_exists,
    not_and]
  exact forall₂_congr fun entry _ => not_congr eq_comm

theorem isSome_number?_iff {r : Registry} {socket : UInt16} :
    (r.number? socket).isSome = true ↔ socket ∈ r.sockets := by
  rw [← Decidable.not_iff_not, ← number?_eq_none_iff, Bool.not_eq_true, Option.isSome_eq_false_iff,
    Option.isNone_iff_eq_none]

theorem mem_insertEntry {entries : List (UInt16 × Nat)} {socket other : UInt16} {number : Nat} :
    other ∈ (insertEntry socket number entries).map Prod.fst ↔
      other = socket ∨ other ∈ entries.map Prod.fst := by
  induction entries with
  | nil => simp [insertEntry]
  | cons entry entries ih =>
    simp only [insertEntry]
    split
    · rw [List.map_cons, List.mem_cons, ih, List.map_cons, List.mem_cons, or_left_comm]
    · rw [List.map_cons, List.mem_cons]

@[simp] theorem mem_sockets_register {r : Registry} {socket other : UInt16} {number : Nat} :
    other ∈ (r.register socket number).sockets ↔ other = socket ∨ other ∈ r.sockets :=
  mem_insertEntry

@[simp] theorem mem_stopped_register {r : Registry} {socket other : UInt16} {number : Nat} :
    other ∈ (r.register socket number).stopped ↔ other ∈ r.stopped ∧ other ≠ socket := by
  simp [register]

@[simp] theorem mem_sockets_unregister {r : Registry} {socket other : UInt16} :
    other ∈ (r.unregister socket).sockets ↔ other ∈ r.sockets ∧ other ≠ socket := by
  simp only [sockets, unregister, List.mem_map, List.mem_filter, bne_iff_ne, ne_eq]
  constructor
  · rintro ⟨entry, ⟨hentry, hne⟩, rfl⟩
    exact ⟨⟨entry, hentry, rfl⟩, hne⟩
  · rintro ⟨⟨entry, hentry, rfl⟩, hne⟩
    exact ⟨entry, ⟨hentry, hne⟩, rfl⟩

@[simp] theorem mem_stopped_unregister {r : Registry} {socket other : UInt16} :
    other ∈ (r.unregister socket).stopped ↔ other = socket ∨ other ∈ r.stopped := by
  simp [unregister]

/-! ## What servers do leaves the sockets as they are -/

@[simp] theorem sockets_withServer (r : Registry) (number : Nat) (server : Server) :
    (r.withServer number server).sockets = r.sockets := rfl

@[simp] theorem stopped_withServer (r : Registry) (number : Nat) (server : Server) :
    (r.withServer number server).stopped = r.stopped := rfl

@[simp] theorem sockets_signal (r : Registry) (number : Nat) :
    (r.signal number).registry.sockets = r.sockets := by
  rw [signal]
  split <;> simp

@[simp] theorem stopped_signal (r : Registry) (number : Nat) :
    (r.signal number).registry.stopped = r.stopped := by
  rw [signal]
  split <;> simp

theorem deliver_eq_some {r : Registry} {number : Nat} {arrival : Arrival} {answered : After Reply}
    (h : r.deliver number arrival = some answered) :
    answered.registry.sockets = r.sockets ∧ answered.registry.stopped = r.stopped := by
  obtain ⟨s, -, rfl⟩ := Option.map_eq_some_iff.1 h
  exact ⟨rfl, rfl⟩

/-! ## Starting and shutting down -/

/-- The three things that a shutdown can find. -/
theorem shutdown_cases (r : Registry) (socket : UInt16) :
    (∃ number, r.number? socket = some number ∧
      r.shutdown socket = .ok ⟨.stopped, ((r.unregister socket).signal number).registry⟩) ∨
    (r.number? socket = none ∧ socket ∈ r.stopped ∧
      r.shutdown socket = .ok ⟨.alreadyStopped, r⟩) ∨
    (r.number? socket = none ∧ socket ∉ r.stopped ∧
      r.shutdown socket = .error (.notFound socket)) := by
  rw [shutdown]
  cases hnumber : r.number? socket with
  | some number => exact Or.inl ⟨number, rfl, rfl⟩
  | none =>
    simp only [List.contains_iff_mem]
    by_cases hstopped : socket ∈ r.stopped
    · exact Or.inr (Or.inl ⟨trivial, hstopped, if_pos hstopped⟩)
    · exact Or.inr (Or.inr ⟨trivial, hstopped, if_neg hstopped⟩)

/-- The ways that a start can go. -/
theorem startFor_cases (r : Registry) (contract : Contract) (address : String) (config : Config) :
    (SocketAddress.resolve address = none ∧
      r.startFor contract address config = .error (.badAddress address)) ∨
    ∃ wanted, SocketAddress.resolve address = some wanted ∧
      ((∃ e, r.bind wanted = .error e ∧ r.startFor contract address config = .error e) ∨
      ∃ found, r.bind wanted = .ok found ∧
        ((found.socket ∈ r.sockets ∧
          r.startFor contract address config = .error (.socketTaken found.socket)) ∨
        (found.socket ∉ r.sockets ∧
          r.startFor contract address config = .ok ⟨r.servers.length,
            (r.launch contract found config).registry.register found.socket
              r.servers.length⟩))) := by
  unfold startFor
  cases hresolve : SocketAddress.resolve address with
  | none => exact Or.inl ⟨rfl, rfl⟩
  | some wanted =>
    refine Or.inr ⟨wanted, rfl, ?_⟩
    cases hbind : r.bind wanted with
    | error e => exact Or.inl ⟨e, rfl, by simp only [hbind]; rfl⟩
    | ok found =>
      refine Or.inr ⟨found, rfl, ?_⟩
      simp only [hbind]
      by_cases hpresent : found.socket ∈ r.sockets
      · exact Or.inl ⟨hpresent, if_pos (isSome_number?_iff.2 hpresent)⟩
      · exact Or.inr ⟨hpresent, if_neg (mt isSome_number?_iff.1 hpresent)⟩

/-! ## One section -/

/-- Whether an event tells something about what is registered with a socket or was stopped there. -/
def Event.isAbout (socket : UInt16) : Event → Bool
  | .registered other => other == socket
  | .released other => other == socket
  | .shutDown other (.ok .stopped) => other == socket
  | _ => false

theorem isAbout_registered (socket : UInt16) : (Event.registered socket).isAbout socket = true :=
  beq_self_eq_true socket

theorem isAbout_released (socket : UInt16) : (Event.released socket).isAbout socket = true :=
  beq_self_eq_true socket

theorem isAbout_shutDown (socket : UInt16) :
    (Event.shutDown socket (.ok .stopped)).isAbout socket = true :=
  beq_self_eq_true socket

/-- Whether a call has taken a socket out of the registry, and has to stop its server or to wait for
    it. -/
def Task.isStopping (socket : UInt16) : Task → Bool
  | .stop _ other _ => other == socket
  | .drain other _ => other == socket
  | _ => false

/-- What a section can do: nothing to the sockets, or register one that was absent, or take one out
    that was present and begin to stop its server, or tell that the server has stopped. -/
inductive Section (r : Registry) : Task → Advance → Prop
  | quiet {task : Task} {a : Advance} (sockets : a.registry.sockets = r.sockets)
      (stopped : a.registry.stopped = r.stopped)
      (event : ∀ socket, a.event?.any (Event.isAbout socket) = false)
      (stopping : ∀ socket, a.task.isStopping socket = task.isStopping socket) :
      Section r task a
  | registers {socket : UInt16} {number : Nat} (absent : socket ∉ r.sockets) :
      Section r (.enroll socket number)
        { registry := r.register socket number, task := .done, event? := some (.registered socket) }
  | releases {socket : UInt16} {purpose : Purpose} (number : Nat) (present : socket ∈ r.sockets) :
      Section r (.release socket purpose)
        { registry := r.unregister socket, task := .stop number socket purpose,
          event? := some (.released socket) }
  | drains {socket : UInt16} {purpose : Purpose} :
      Section r (.drain socket purpose)
        { registry := r, task := purpose.next socket (.ok .stopped),
          event? := some (.shutDown socket (.ok .stopped)) }

theorem isStopping_next (socket other : UInt16) (result : Except ServerError Cleanup)
    (purpose : Purpose) : (purpose.next other result).isStopping socket = false := by
  cases purpose <;> rfl

theorem section_refuse {r next : Registry} {task : Task} (e : ServerError)
    (hsockets : next.sockets = r.sockets) (hstopped : next.stopped = r.stopped)
    (htask : ∀ socket, task.isStopping socket = false) : Section r task (Task.refuse next e) :=
  .quiet hsockets hstopped (fun _ => rfl) fun socket => (htask socket).symm

/-- Every section is one of these. Only the last section of a start and the first one of a shutdown
    change what is registered. -/
theorem section_advance (r : Registry) (given : Except ServerError SocketAddress) (task : Task) :
    Section r task (task.advance r given) := by
  cases task with
  | read contract address config =>
    rw [Task.advance]
    cases Contract.ofText contract with
    | ok contract => exact .quiet rfl rfl (fun _ => rfl) fun _ => rfl
    | error e => exact section_refuse _ rfl rfl fun _ => rfl
  | bind contract address config =>
    rw [Task.advance]
    cases SocketAddress.resolve address with
    | none => exact section_refuse _ rfl rfl fun _ => rfl
    | some wanted =>
      cases given with
      | ok found => exact .quiet rfl rfl (fun _ => rfl) fun _ => rfl
      | error e => exact section_refuse _ rfl rfl fun _ => rfl
  | check contract address config =>
    simp only [Task.advance]
    split
    · exact section_refuse _ rfl rfl fun _ => rfl
    · exact .quiet rfl rfl (fun _ => rfl) fun _ => rfl
  | launch contract address config =>
    simp only [Task.advance]
    split
    · exact .quiet rfl rfl (fun _ => rfl) fun _ => rfl
    · exact section_refuse _ rfl rfl fun _ => rfl
  | enroll socket number =>
    simp only [Task.advance, isSome_number?_iff]
    split
    -- the server of a start that comes too late is stopped, which the sockets do not show
    · exact section_refuse _ (sockets_signal r number) (stopped_signal r number) fun _ => rfl
    · next habsent => exact .registers habsent
  | release socket purpose =>
    simp only [Task.advance]
    split
    -- the socket leaves the registry in this very section; stopping its server comes later
    · next number hnumber =>
      exact .releases number (isSome_number?_iff.1 (Option.isSome_of_eq_some hnumber))
    · split
      · exact .quiet rfl rfl (fun _ => rfl) fun _ => isStopping_next _ _ _ _
      · exact .quiet rfl rfl (fun _ => rfl) fun _ => isStopping_next _ _ _ _
  | stop number socket purpose =>
    exact .quiet (sockets_signal r number) (stopped_signal r number) (fun _ => rfl) fun _ => rfl
  | drain socket purpose => exact .drains
  | each left stopped =>
    cases left with
    | nil => exact .quiet rfl rfl (fun _ => rfl) fun _ => rfl
    | cons socket left => exact .quiet rfl rfl (fun _ => rfl) fun _ => rfl
  | find socket =>
    simp only [Task.advance]
    split
    · exact .quiet rfl rfl (fun _ => rfl) fun _ => rfl
    · exact .quiet rfl rfl (fun _ => rfl) fun _ => rfl
  | judge number socket =>
    refine .quiet rfl rfl (fun _ => ?_) fun _ => rfl
    simp only [Task.advance]
    cases r.server? number with
    | none => rfl
    | some s => rfl
  | collect => exact .quiet rfl rfl (fun _ => rfl) fun _ => rfl
  | list => exact .quiet rfl rfl (fun _ => rfl) fun _ => rfl
  | done => exact .quiet rfl rfl (fun _ => rfl) fun _ => rfl

/-! ## A call by itself -/

/-- What sections of a call lead to, one after another, when nothing else happens between them. -/
inductive Alone (given : Except ServerError SocketAddress) (next : Registry) (last : Task) :
    Registry → Task → List Event → Prop
  | here : Alone given next last next last []
  | more {r : Registry} {task : Task} {events : List Event}
      (rest : Alone given next last (task.advance r given).registry (task.advance r given).task
        events) :
      Alone given next last r task ((task.advance r given).event?.toList ++ events)

namespace Alone

variable {given : Except ServerError SocketAddress} {r next middle : Registry}
  {task between last : Task} {events : List Event}

theorem section_then {a : Advance} (h : task.advance r given = a)
    (rest : Alone given next last a.registry a.task events) :
    Alone given next last r task (a.event?.toList ++ events) := by
  subst h
  exact .more rest

theorem silent (h : task.advance r given = { registry := middle, task := between })
    (rest : Alone given next last middle between events) :
    Alone given next last r task events :=
  section_then h rest

theorem seen {e : Event}
    (h : task.advance r given = { registry := middle, task := between, event? := some e })
    (rest : Alone given next last middle between events) :
    Alone given next last r task (e :: events) :=
  section_then h rest

end Alone

/-- What is seen of a shutdown with a result. -/
def shutdownEvents (socket : UInt16) (result : Except ServerError Cleanup) : List Event :=
  if result = .ok .stopped then [.released socket, .shutDown socket result]
  else [.shutDown socket result]

/-- The registry after a shutdown. -/
def afterShutdown (r : Registry) (socket : UInt16) : Registry :=
  match r.shutdown socket with
  | .ok after => after.registry
  | .error _ => r

/-- The sections of a shutdown do what the shutdown of a server does. -/
theorem Alone.release {r next : Registry} {given : Except ServerError SocketAddress} {last : Task}
    {events : List Event} (socket : UInt16) (purpose : Purpose)
    (rest : Alone given next last (r.afterShutdown socket)
      (purpose.next socket ((r.shutdown socket).map After.value)) events) :
    Alone given next last r (.release socket purpose)
      (shutdownEvents socket ((r.shutdown socket).map After.value) ++ events) := by
  rcases r.shutdown_cases socket with ⟨number, hnumber, hshutdown⟩ |
    ⟨hnumber, hstopped, hshutdown⟩ | ⟨hnumber, hstopped, hshutdown⟩
  · simp only [afterShutdown, hshutdown] at rest ⊢
    have hrelease : (Task.release socket purpose).advance r given =
        { registry := r.unregister socket, task := .stop number socket purpose,
          event? := some (.released socket) } := by
      simp only [Task.advance, hnumber]
    exact .seen hrelease (.silent rfl (.seen rfl rest))
  · simp only [afterShutdown, hshutdown] at rest ⊢
    refine .seen ?_ rest
    simp only [Task.advance, hnumber, List.contains_iff_mem, if_pos hstopped]
    rfl
  · simp only [afterShutdown, hshutdown] at rest ⊢
    refine .seen ?_ rest
    simp only [Task.advance, hnumber, List.contains_iff_mem, if_neg hstopped]
    rfl

theorem alone_shutdown (r : Registry) (given : Except ServerError SocketAddress) (socket : UInt16) :
    Alone given (r.afterShutdown socket) .done r (Call.shutdown socket).task
      (shutdownEvents socket ((r.shutdown socket).map After.value)) := by
  rw [← List.append_nil (shutdownEvents _ _)]
  exact .release socket .alone .here

theorem shutdownEach_cons (r : Registry) (socket : UInt16) (left : List UInt16) :
    r.shutdownEach (socket :: left) =
      let rest := (r.afterShutdown socket).shutdownEach left
      ⟨if (r.shutdown socket).map After.value = .ok .stopped then socket :: rest.value
        else rest.value, rest.registry⟩ := by
  rcases r.shutdown_cases socket with ⟨number, -, hshutdown⟩ | ⟨-, -, hshutdown⟩ | ⟨-, -, hshutdown⟩
  · simp only [shutdownEach, afterShutdown, hshutdown]
    rfl
  · simp only [shutdownEach, afterShutdown, hshutdown]
    rfl
  · simp only [shutdownEach, afterShutdown, hshutdown]
    rfl

theorem alone_each (r : Registry) (given : Except ServerError SocketAddress)
    (left stopped : List UInt16) :
    ∃ events, Alone given (r.shutdownEach left).registry .done r (.each left stopped)
      (events ++ [.shutDownAll (stopped ++ (r.shutdownEach left).value)]) := by
  induction left generalizing r stopped with
  | nil =>
    refine ⟨[], ?_⟩
    rw [shutdownEach, List.append_nil]
    exact .seen rfl .here
  | cons socket left ih =>
    rw [shutdownEach_cons]
    obtain ⟨events, hrest⟩ := ih (r.afterShutdown socket)
      (if (r.shutdown socket).map After.value = .ok .stopped then stopped ++ [socket] else stopped)
    refine ⟨shutdownEvents socket ((r.shutdown socket).map After.value) ++ events, ?_⟩
    have hall := Alone.release socket (.all left stopped) hrest
    rw [← List.append_assoc] at hall
    refine .silent rfl ?_
    split at hall
    · next hstopped => simpa [hstopped] using hall
    · next hstopped => simpa [hstopped] using hall

/-- The sections of the call that shuts down all servers find the same servers running as the
    function does. -/
theorem alone_shutdownAll (r : Registry) (given : Except ServerError SocketAddress) :
    ∃ events, Alone given r.shutdownAll.registry .done r Call.shutdownAll.task
      (events ++ [.shutDownAll r.shutdownAll.value]) := by
  obtain ⟨events, heach⟩ := alone_each r given r.sockets []
  exact ⟨events, .silent rfl heach⟩

/-- The sections of a start do what the function does, if the machine gives the address that it
    would give to the function. -/
theorem alone_startFor_ok {r : Registry} {contract : Contract} {address : String} {config : Config}
    {launched : After Nat} (h : r.startFor contract address config = .ok launched) :
    ∃ given socket, Alone given launched.registry .done r
      (Call.startFor contract address config).task [.registered socket] := by
  rcases r.startFor_cases contract address config with
    ⟨-, herror⟩ | ⟨wanted, hresolve, ⟨e, -, herror⟩ | ⟨found, -, ⟨-, herror⟩ | ⟨habsent, hok⟩⟩⟩
  · cases h.symm.trans herror
  · cases h.symm.trans herror
  · cases h.symm.trans herror
  · cases h.symm.trans hok
    have hbind : (Task.bind contract address config).advance r (.ok found) =
        { registry := r, task := .check contract found config } := by
      simp only [Task.advance, hresolve, Task.afterBind]
    have hcheck : (Task.check contract found config).advance r (.ok found) =
        { registry := r, task := .launch contract found config } := by
      simp only [Task.advance, isSome_number?_iff, if_neg habsent]
    have hlaunch : (Task.launch contract found config).advance r (.ok found) =
        { registry := (r.launch contract found config).registry,
          task := .enroll found.socket r.servers.length } := rfl
    have henroll : (Task.enroll found.socket r.servers.length).advance
        (r.launch contract found config).registry (.ok found) =
          { registry :=
              (r.launch contract found config).registry.register found.socket r.servers.length,
            task := .done, event? := some (.registered found.socket) } := by
      have habsent' : found.socket ∉ (r.launch contract found config).registry.sockets := habsent
      simp only [Task.advance, isSome_number?_iff, if_neg habsent']
    exact ⟨.ok found, found.socket,
      .silent hbind (.silent hcheck (.silent hlaunch (.seen henroll .here)))⟩

theorem alone_startFor_error {r : Registry} {contract : Contract} {address : String}
    {config : Config} {e : ServerError} (h : r.startFor contract address config = .error e) :
    ∃ given, Alone given r .done r (Call.startFor contract address config).task [.refused e] := by
  rcases r.startFor_cases contract address config with
    ⟨hresolve, herror⟩ |
    ⟨wanted, hresolve, ⟨e', -, herror⟩ | ⟨found, -, ⟨hpresent, herror⟩ | ⟨-, hok⟩⟩⟩
  · cases h.symm.trans herror
    have hrefuse : (Task.bind contract address config).advance r (.error (.badAddress address)) =
        Task.refuse r (.badAddress address) := by
      simp only [Task.advance, hresolve, Task.afterBind]
    exact ⟨.error (.badAddress address), .seen hrefuse .here⟩
  · cases h.symm.trans herror
    have hrefuse : (Task.bind contract address config).advance r (.error e) = Task.refuse r e := by
      simp only [Task.advance, hresolve, Task.afterBind]
    exact ⟨.error e, .seen hrefuse .here⟩
  · cases h.symm.trans herror
    have hbind : (Task.bind contract address config).advance r (.ok found) =
        { registry := r, task := .check contract found config } := by
      simp only [Task.advance, hresolve, Task.afterBind]
    have hrefuse : (Task.check contract found config).advance r (.ok found) =
        Task.refuse r (.socketTaken found.socket) := by
      simp only [Task.advance, isSome_number?_iff, if_pos hpresent]
    exact ⟨.ok found, .silent hbind (.seen hrefuse .here)⟩
  · cases h.symm.trans hok

/-- The contract of a start is read before everything else. -/
theorem Alone.read {given : Except ServerError SocketAddress} {r next : Registry} {last : Task}
    {events : List Event} {text address : String} {config : Config} {contract : Contract}
    (h : Contract.ofText text = .ok contract)
    (rest : Alone given next last r (Call.startFor contract address config).task events) :
    Alone given next last r (Call.start text address config).task events := by
  have hread : (Task.read text address config).advance r given =
      { registry := r, task := .bind contract address config } := by
    simp only [Task.advance, h, Task.afterText]
  exact .silent hread rest

theorem alone_start_ok {r : Registry} {text address : String} {config : Config}
    {launched : After Nat} (h : r.start text address config = .ok launched) :
    ∃ given socket, Alone given launched.registry .done r (Call.start text address config).task
      [.registered socket] := by
  obtain ⟨contract, hcontract, hstart⟩ := bind_eq_ok.1 h
  cases htext : Contract.ofText text with
  | error e =>
    rw [htext] at hcontract
    cases hcontract
  | ok read =>
    rw [htext] at hcontract
    cases hcontract
    obtain ⟨given, socket, halone⟩ := alone_startFor_ok hstart
    exact ⟨given, socket, .read htext halone⟩

/-- Sections of the last call that come one after another are a schedule. -/
theorem Alone.exists_run {given : Except ServerError SocketAddress} {r next : Registry}
    {task last : Task} {events : List Event} (h : Alone given next last r task events)
    (tasks : List Task) (history : List Event) :
    ∃ actions, Shared.run ⟨r, tasks ++ [task], history⟩ actions =
      ⟨next, tasks ++ [last], history ++ events⟩ := by
  induction h generalizing history with
  | here => exact ⟨[], by simp [Shared.run]⟩
  | @more r task events rest ih =>
    obtain ⟨actions, hrun⟩ := ih (history ++ (task.advance r given).event?.toList)
    refine ⟨.advance tasks.length given :: actions, ?_⟩
    rw [List.append_assoc] at hrun
    rw [← hrun]
    simp [Shared.run, Shared.step, Shared.after]

end Registry

end MockProvider
