import MockProvider.Handles.Session
import MockProvider.Proofs.Server.Sections

/-!
# Sockets over the whole life of a registry

Whatever calls are made at the same time and in whatever order their sections come, a socket that
was registered is either in the registry or among those that were shut down, and never both.
`Consistent` is the invariant; each section keeps it, and so does a run, by induction over the
schedule. `lifecycle` says what the calls can tell from it.
-/

namespace MockProvider

namespace Registry

/-! ## The whole life -/

/-- What holds of a socket at any time, by what was seen so far. -/
structure Consistent (socket : UInt16) (w : Shared) : Prop where
  /-- It is not both in the registry and shut down. -/
  apart : socket ∈ w.registry.sockets → socket ∉ w.registry.stopped
  /-- It is one of the two as soon as it was registered. -/
  known : socket ∈ w.registry.sockets ∨ socket ∈ w.registry.stopped ↔
    .registered socket ∈ w.history
  /-- It was taken out once for each time it was registered, unless it is in. -/
  registered : w.history.count (.registered socket) =
    w.history.count (.released socket) + if socket ∈ w.registry.sockets then 1 else 0
  /-- Its server stopped once for each time it was taken out, except where a call is at it. -/
  released : w.history.count (.released socket) =
    w.history.count (.shutDown socket (.ok .stopped)) + w.tasks.countP (Task.isStopping socket)

theorem consistent_fresh (socket : UInt16) : Consistent socket {} where
  apart h := nomatch h
  known := ⟨(nomatch ·), nofun⟩
  registered := rfl
  released := rfl

theorem not_mem_of_not_about {socket : UInt16} {event? : Option Event}
    (h : event?.any (Event.isAbout socket) = false) {e : Event} (he : e.isAbout socket = true) :
    e ∉ event?.toList := by
  intro hmem
  rw [Option.mem_toList] at hmem
  subst hmem
  rw [Option.any_some, he] at h
  cases h

theorem countP_stopping_set {tasks : List Task} {index : Nat} {task : Task}
    (h : tasks[index]? = some task) (next : Task) (socket : UInt16) :
    (tasks.set index next).countP (Task.isStopping socket) + (task.isStopping socket).toNat =
      tasks.countP (Task.isStopping socket) + (next.isStopping socket).toNat := by
  obtain ⟨hindex, rfl⟩ := List.getElem?_eq_some_iff.1 h
  have hpos : (tasks[index].isStopping socket).toNat ≤ tasks.countP (Task.isStopping socket) := by
    cases htask : tasks[index].isStopping socket with
    | false => exact Nat.zero_le _
    | true => exact List.countP_pos_iff.2 ⟨_, List.getElem_mem hindex, htask⟩
  have htoNat : ∀ b : Bool, b.toNat = if b = true then 1 else 0 := fun b => by cases b <;> rfl
  simp only [List.countP_set hindex, htoNat] at hpos ⊢
  omega

namespace Consistent

variable {socket : UInt16} {w next : Shared}

/-- A socket stays consistent where nothing happens to it. -/
theorem frame (h : Consistent socket w)
    (hsockets : socket ∈ next.registry.sockets ↔ socket ∈ w.registry.sockets)
    (hstopped : socket ∈ next.registry.stopped ↔ socket ∈ w.registry.stopped)
    (event? : Option Event) (hevent : event?.any (Event.isAbout socket) = false)
    (hhistory : next.history = w.history ++ event?.toList)
    (htasks : next.tasks.countP (Task.isStopping socket) =
      w.tasks.countP (Task.isStopping socket)) : Consistent socket next := by
  -- what is seen is not about the socket, so none of the three counts changes
  have hcount : ∀ e : Event, e.isAbout socket = true →
      next.history.count e = w.history.count e := by
    intro e he
    rw [hhistory, List.count_append, List.count_eq_zero_of_not_mem (not_mem_of_not_about hevent he),
      Nat.add_zero]
  have hregistered := hcount (.registered socket) (isAbout_registered socket)
  have hreleased := hcount (.released socket) (isAbout_released socket)
  have hshutDown := hcount (.shutDown socket (.ok .stopped)) (isAbout_shutDown socket)
  constructor
  · rw [hsockets, hstopped]
    exact h.apart
  · rw [hsockets, hstopped, ← List.count_pos_iff (l := next.history), hregistered,
      List.count_pos_iff]
    exact h.known
  · simp only [hsockets, hregistered, hreleased]
    exact h.registered
  · rw [hreleased, hshutDown, htasks]
    exact h.released

theorem enters (h : Consistent socket w) (habsent : socket ∉ w.registry.sockets)
    (hsockets : socket ∈ next.registry.sockets) (hstopped : socket ∉ next.registry.stopped)
    (hhistory : next.history = w.history ++ [.registered socket])
    (htasks : next.tasks.countP (Task.isStopping socket) =
      w.tasks.countP (Task.isStopping socket)) : Consistent socket next where
  apart _ := hstopped
  known := by simp [hsockets, hhistory]
  registered := by
    have hregistered := h.registered
    rw [if_neg habsent] at hregistered
    simp [hhistory, hsockets, hregistered]
  released := by
    have hreleased := h.released
    simp [hhistory, htasks, hreleased]

theorem leaves (h : Consistent socket w) (hpresent : socket ∈ w.registry.sockets)
    (hsockets : socket ∉ next.registry.sockets) (hstopped : socket ∈ next.registry.stopped)
    (hhistory : next.history = w.history ++ [.released socket])
    (htasks : next.tasks.countP (Task.isStopping socket) =
      w.tasks.countP (Task.isStopping socket) + 1) : Consistent socket next where
  apart hsocket := absurd hsocket hsockets
  known := by simp [hstopped, hhistory, h.known.1 (Or.inl hpresent)]
  registered := by
    have hregistered := h.registered
    rw [if_pos hpresent] at hregistered
    simp [hhistory, hsockets, hregistered]
  released := by
    have hreleased := h.released
    simp [hhistory, htasks, hreleased, Nat.add_assoc]

theorem stops (h : Consistent socket w) (hregistry : next.registry = w.registry)
    (hhistory : next.history = w.history ++ [.shutDown socket (.ok .stopped)])
    (htasks : next.tasks.countP (Task.isStopping socket) + 1 =
      w.tasks.countP (Task.isStopping socket)) : Consistent socket next where
  apart := hregistry ▸ h.apart
  known := by simp [hregistry, hhistory, h.known]
  registered := by simp [hregistry, hhistory, h.registered]
  released := by
    have hreleased := h.released
    rw [← htasks] at hreleased
    simp [hhistory, hreleased, Nat.add_assoc, Nat.add_comm 1]

/-- After a section of a call all is as it should be. -/
theorem after (h : Consistent socket w) {index : Nat} {task : Task} {a : Advance}
    (htask : w.tasks[index]? = some task) (hsection : Section w.registry task a) :
    Consistent socket (w.after index a) := by
  have htasks := countP_stopping_set htask a.task socket
  cases hsection with
  | quiet hsockets hstopped hevent hstopping =>
    rw [hstopping socket] at htasks
    exact h.frame (by rw [Shared.after, hsockets]) (by rw [Shared.after, hstopped]) _
      (hevent socket) rfl (Nat.add_right_cancel htasks)
  -- from here on the section is about one socket; for all others nothing happens
  | @registers other number habsent =>
    by_cases heq : socket = other
    · subst heq
      exact h.enters habsent (by simp [Shared.after]) (by simp [Shared.after]) rfl htasks
    · have hother : ¬ other = socket := Ne.symm heq
      exact h.frame (by simp [Shared.after, heq]) (by simp [Shared.after, heq])
        _ (by simp [Event.isAbout, hother]) rfl htasks
  | @releases other purpose number hpresent =>
    by_cases heq : socket = other
    · subst heq
      simp only [Task.isStopping, beq_self_eq_true] at htasks
      exact h.leaves hpresent (by simp [Shared.after]) (by simp [Shared.after]) rfl htasks
    · have hother : ¬ other = socket := Ne.symm heq
      simp only [Task.isStopping, beq_eq_false_iff_ne.2 hother] at htasks
      exact h.frame (by simp [Shared.after, heq]) (by simp [Shared.after, heq])
        _ (by simp [Event.isAbout, hother]) rfl htasks
  | @drains other purpose =>
    rw [isStopping_next] at htasks
    by_cases heq : socket = other
    · subst heq
      simp only [Task.isStopping, beq_self_eq_true] at htasks
      exact h.stops rfl rfl htasks
    · have hother : ¬ other = socket := Ne.symm heq
      simp only [Task.isStopping, beq_eq_false_iff_ne.2 hother] at htasks
      exact h.frame Iff.rfl Iff.rfl _ (by simp [Event.isAbout, hother]) rfl htasks

theorem step (h : Consistent socket w) (action : Action) : Consistent socket (w.step action) := by
  cases action with
  | call call =>
    have hnew : call.task.isStopping socket = false := by cases call <;> rfl
    have htasks : (w.tasks ++ [call.task]).countP (Task.isStopping socket) =
        w.tasks.countP (Task.isStopping socket) := by
      simp [hnew]
    exact h.frame Iff.rfl Iff.rfl none rfl (List.append_nil _).symm htasks
  | advance index given =>
    simp only [Shared.step]
    split
    · next task htask => exact h.after htask (section_advance w.registry given task)
    · exact h
  | deliver number arrival =>
    simp only [Shared.step]
    split
    · next answered hanswered =>
      obtain ⟨hsockets, hstopped⟩ := deliver_eq_some hanswered
      exact h.frame (by rw [hsockets]) (by rw [hstopped]) none rfl (List.append_nil _).symm rfl
    · exact h

theorem run (h : Consistent socket w) (actions : List Action) :
    Consistent socket (w.run actions) := by
  induction actions generalizing w with
  | nil => exact h
  | cons action actions ih => exact ih (h.step action)

end Consistent

/-! ## What calls tell -/

/-- What a shutdown finds out in its first section. -/
theorem event_release (r : Registry) (given : Except ServerError SocketAddress) (socket : UInt16)
    (purpose : Purpose) :
    ((Task.release socket purpose).advance r given).event? =
      if socket ∈ r.sockets then some (.released socket)
      else if socket ∈ r.stopped then some (.shutDown socket (.ok .alreadyStopped))
      else some (.shutDown socket (.error (.notFound socket))) := by
  simp only [Task.advance]
  split
  · next number hnumber =>
    have hpresent := isSome_number?_iff.1 (Option.isSome_of_eq_some hnumber)
    rw [if_pos hpresent]
  · next hnone =>
    rw [if_neg (number?_eq_none_iff.1 hnone)]
    simp only [List.contains_iff_mem]
    split <;> rfl

theorem shutdown_isOk_iff {r : Registry} {socket : UInt16} :
    (∃ after, r.shutdown socket = .ok after) ↔ socket ∈ r.sockets ∨ socket ∈ r.stopped := by
  rcases r.shutdown_cases socket with ⟨number, hnumber, hshutdown⟩ |
    ⟨-, hstopped, hshutdown⟩ | ⟨hnumber, hstopped, hshutdown⟩
  · have hpresent := isSome_number?_iff.1 (Option.isSome_of_eq_some hnumber)
    exact iff_of_true ⟨_, hshutdown⟩ (Or.inl hpresent)
  · exact iff_of_true ⟨_, hshutdown⟩ (Or.inr hstopped)
  · have habsent := number?_eq_none_iff.1 hnumber
    rw [hshutdown]
    exact iff_of_false nofun (not_or.2 ⟨habsent, hstopped⟩)

end Registry

namespace Session

/-- The numbers of sockets are those of sixteen bits. -/
theorem socketOf_eq_some_iff {number : Int} {socket : UInt16} :
    socketOf number = some socket ↔ number = socket.toNat := by
  have hlt := socket.toNat_lt
  simp only [socketOf, Option.ite_none_right_eq_some, Option.some.injEq, UInt16.size]
  constructor
  · rintro ⟨⟨hnonneg, hsize⟩, rfl⟩
    have hmod : number.toNat % 65536 = number.toNat := Nat.mod_eq_of_lt (by omega)
    rw [Nat.toUInt16, UInt16.toNat_ofNat', hmod]
    omega
  · rintro rfl
    refine ⟨by omega, ?_⟩
    rw [Int.toNat_natCast, Nat.toUInt16, UInt16.ofNat_toNat]

/-- The call with a code is true for the sockets that are registered or were shut down. -/
theorem cleanup_iff {s : Session} {number : Int} :
    (s.cleanup number).value = true ↔
      ∃ socket : UInt16, number = socket.toNat ∧
        (socket ∈ s.registry.sockets ∨ socket ∈ s.registry.stopped) := by
  simp only [← Registry.shutdown_isOk_iff, ← socketOf_eq_some_iff, cleanup]
  split
  · next after h =>
    obtain ⟨socket, hsocket, hafter⟩ := Option.map_eq_some_iff.1 h
    exact iff_of_true rfl ⟨socket, hsocket, after, hafter⟩
  · next h =>
    apply iff_of_false nofun
    rintro ⟨socket, hsocket, after, hafter⟩
    exact h after (by rw [hsocket, Option.map_some, hafter])

end Session

namespace Registry

/-- What holds of the sockets and of the calls for them, whatever calls were made at the same time
    and in whatever order their sections came. No socket is both in the registry and shut down, and
    it is one of them when it was registered. A server is told to have been stopped at most as often
    as its socket was registered. A shutdown takes the socket out if it is in; it tells that the
    server was already stopped if the socket was registered but is no longer in, also while another
    call waits for that server; and it finds no server if the socket was never registered. The call
    with a code is true for the sockets that were registered, and for no other number. -/
theorem lifecycle (actions : List Action) :
    let w : Shared := Shared.run {} actions
    (∀ socket, socket ∈ w.registry.sockets → socket ∉ w.registry.stopped) ∧
      (∀ socket, socket ∈ w.registry.sockets ∨ socket ∈ w.registry.stopped ↔
        .registered socket ∈ w.history) ∧
      (∀ socket, w.history.count (.shutDown socket (.ok .stopped)) ≤
        w.history.count (.registered socket)) ∧
      (∀ task given, Section w.registry task (task.advance w.registry given)) ∧
      (∀ socket purpose given,
        let event? := ((Task.release socket purpose).advance w.registry given).event?
        (event? = some (.released socket) ↔ socket ∈ w.registry.sockets) ∧
          (event? = some (.shutDown socket (.ok .alreadyStopped)) ↔
            .registered socket ∈ w.history ∧ socket ∉ w.registry.sockets) ∧
          (event? = some (.shutDown socket (.error (.notFound socket))) ↔
            .registered socket ∉ w.history)) ∧
      ∀ (s : Session) (number : Int),
        ({ s with registry := w.registry }.cleanup number).value = true ↔
          ∃ socket : UInt16, number = socket.toNat ∧ .registered socket ∈ w.history := by
  intro w
  have hconsistent : ∀ socket, Consistent socket w := fun socket =>
    (consistent_fresh socket).run actions
  refine ⟨fun socket => (hconsistent socket).apart, fun socket => (hconsistent socket).known, ?_,
    fun task given => section_advance w.registry given task, ?_, ?_⟩
  · intro socket
    have hregistered := (hconsistent socket).registered
    have hreleased := (hconsistent socket).released
    omega
  · intro socket purpose given event?
    have hevent : event? = _ := event_release w.registry given socket purpose
    rw [← (hconsistent socket).known, hevent]
    by_cases hpresent : socket ∈ w.registry.sockets
    · simp [hpresent]
    · by_cases hstopped : socket ∈ w.registry.stopped
      · simp [hpresent, hstopped]
      · simp [hpresent, hstopped]
  · intro s number
    rw [Session.cleanup_iff]
    simp only [← (hconsistent _).known]

/-- One call registers a socket, another one has begun to shut its server down and waits. -/
def drainingSchedule : List Action :=
  let given : Except ServerError SocketAddress := .ok ⟨.loopback, 8080⟩
  .call (.startFor {} "127.0.0.1:8080" {}) :: .call (.shutdown 8080) ::
    [0, 0, 0, 0, 1, 1].map fun index => .advance index given

/-- A further shutdown finds the server already stopped while the other call still waits for it, and
    so does the call with a code; for another number it finds nothing. -/
theorem lifecycle_draining :
    let w : Shared := Shared.run {} drainingSchedule
    let given : Except ServerError SocketAddress := .error (.notFound 8080)
    w.tasks.countP (Task.isStopping 8080) = 1 ∧
      ((Task.release 8080 .alone).advance w.registry given).event? =
        some (.shutDown 8080 (.ok .alreadyStopped)) ∧
      ({ registry := w.registry : Session }.cleanup 8080).value = true ∧
      ({ registry := w.registry : Session }.cleanup (-1)).value = false := by
  intro w given
  have hregistered : .registered 8080 ∈ w.history := by decide +kernel
  have habsent : (8080 : UInt16) ∉ w.registry.sockets := by decide +kernel
  obtain ⟨-, -, -, -, hrelease, hcleanup⟩ := lifecycle drainingSchedule
  refine ⟨by decide +kernel, (hrelease 8080 .alone given).2.1.2 ⟨hregistered, habsent⟩, ?_, ?_⟩
  · exact (hcleanup {} 8080).2 ⟨8080, rfl, hregistered⟩
  · rw [Bool.eq_false_iff, ne_eq, hcleanup {} (-1)]
    rintro ⟨socket, hsocket, -⟩
    omega

end Registry

end MockProvider
