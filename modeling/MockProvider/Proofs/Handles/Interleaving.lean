import Mathlib.Data.List.TakeWhile
import MockProvider.Proofs.Handles.Calls
import MockProvider.Proofs.Server.Sections

/-!
# Starts among other calls

Several threads may make calls on contracts at once. Every call holds the table for all that it does
there, except the one that starts a server: it copies the contract, starts and registers a server
for the copy, and freezes the contract, in three sections (`Start.advance`). Calls of others may
come between them. The server serves the contract as it was when it was copied (`Tracks`). The table
has the same contract with the calls of the window done to it, those that came after the copy and
before the contract was frozen; without such calls the two are equal.
-/

namespace MockProvider

namespace Session

open DraftTable

/-! ## Sections -/

/-- What is left to do of a start, by its next section. -/
inductive Start where
  | copy (pact : PactHandle) (address : Argument)
  | register (pact : PactHandle) (contract : Contract) (address : String)
  | freeze (pact : PactHandle) (number : Nat)
  | ended (pact : PactHandle) (result : Except Int Nat)

/-- What is done to the table, or copied from it by a start. -/
inductive Event where
  | called (call : Call) (answer : Answer)
  | copied (index : Nat)
  | frozen (pact : PactHandle)

/-- What a section leads to. -/
structure Advance where
  session : Session
  start : Start
  event? : Option Event := none

/-- A start after its server was registered, or not. -/
def Start.afterRegister (pact : PactHandle) (after : After (Except Int Nat)) : Advance :=
  match after.value with
  | .ok number => { session := after.session, start := .freeze pact number }
  | .error code => { session := after.session, start := .ended pact (.error code) }

/-- The next section of a start, which is known by its index. -/
def Start.advance (s : Session) (index : Nat) : Start → Advance
  | .copy pact address =>
    match address.text?, s.table.contract? pact with
    | some address, some contract =>
      { session := s, start := .register pact contract address, event? := some (.copied index) }
    | _, _ => { session := s, start := .ended pact (.error badArgument) }
  | .register pact contract address =>
    let config := Config.ofEnvironmentOrDefault s.environment
    afterRegister pact (s.started (s.registry.startFor contract address config))
  | .freeze pact number =>
    { session := { s with table := s.table.freeze pact }, start := .ended pact (.ok number),
      event? := some (.frozen pact) }
  | .ended pact result => { session := s, start := .ended pact result }

/-- The sections of a start that is left to itself. -/
def Start.finish (s : Session) (index : Nat) (start : Start) : Advance :=
  let copied := start.advance s index
  let registered := copied.start.advance copied.session index
  registered.start.advance registered.session index

/-- Without calls in between, the sections of a start do what the call does. -/
theorem createForPact_eq_finish (s : Session) (pact : PactHandle) (address : Argument)
    (index : Nat) :
    let finished := (Start.copy pact address).finish s index
    finished.session = (s.createForPact pact address).session ∧
      finished.start = .ended pact (s.createForPact pact address).value := by
  intro finished
  rw [createForPact]
  split
  · next text contract haddress hcontract =>
    have hcopied : (Start.copy pact address).advance s index =
        ⟨s, .register pact contract text, some (.copied index)⟩ := by
      simp only [Start.advance, haddress, hcontract]
    simp only [finished, Start.finish, hcopied]
    rw [Start.advance]
    generalize s.started _ = after
    obtain ⟨value, session⟩ := after
    cases value <;> exact ⟨rfl, rfl⟩
  · next hmissing =>
    have hcopied : (Start.copy pact address).advance s index =
        { session := s, start := .ended pact (.error badArgument) } := by
      rw [Start.advance]
      split
      · next haddress hcontract => exact (hmissing _ _ haddress hcontract).elim
      · rfl
    simp only [finished, Start.finish, hcopied]
    exact ⟨rfl, rfl⟩

/-! ## Schedules -/

/-- A session with all starts that were asked for, and what was done to its table so far. -/
structure Shared where
  session : Session := {}
  starts : List Start := []
  history : List Event := []

/-- What can happen next: a call is made, or a start goes on. -/
inductive Action where
  | call (call : Call)
  | advance (index : Nat)

namespace Shared

/-- A call for a start only begins; any other is made as a whole. -/
def call (w : Shared) : Call → Shared
  | .createForPact pact address => { w with starts := w.starts ++ [.copy pact address] }
  | call =>
    let after := w.session.perform call
    { w with session := after.session, history := w.history ++ [.called call after.value] }

def after (w : Shared) (index : Nat) (a : Advance) : Shared where
  session := a.session
  starts := w.starts.set index a.start
  history := w.history ++ a.event?.toList

def step (w : Shared) : Action → Shared
  | .call call => w.call call
  | .advance index =>
    match w.starts[index]? with
    | some start => w.after index (start.advance w.session index)
    | none => w

/-- What a schedule leads to. -/
def run (w : Shared) (actions : List Action) : Shared :=
  actions.foldl step w

end Shared

/-! ## Windows -/

namespace Event

def call? : Event → Option Call
  | .called call _ => some call
  | _ => none

def isCopy (index : Nat) : Event → Bool
  | .copied other => other == index
  | _ => false

def isFreeze (pact : PactHandle) : Event → Bool
  | .frozen other => other == pact
  | _ => false

theorem call?_of_isCopy {e : Event} {index : Nat} (h : e.isCopy index = true) :
    e.call? = none := by
  cases e with
  | called => cases h
  | copied | frozen => rfl

theorem call?_of_isFreeze {e : Event} {pact : PactHandle} (h : e.isFreeze pact = true) :
    e.call? = none := by
  cases e with
  | called => cases h
  | copied | frozen => rfl

end Event

/-- The calls after a start has copied its contract and before the contract was frozen. -/
def window (index : Nat) (pact : PactHandle) (h : List Event) : List Call :=
  ((h.takeWhile fun e => !e.isFreeze pact).dropWhile fun e => !e.isCopy index).filterMap Event.call?

/-- What calls make of the contract behind a handle, one after another. -/
def Call.onAll (pact : PactHandle) (c : Contract) (calls : List Call) : Contract :=
  calls.foldl (fun c call => call.on pact c) c

theorem all_not (p : Event → Bool) (h : List Event) : h.all (fun e => !p e) = !h.any p := by
  rw [List.all_eq_not_any_not]
  simp

theorem takeWhile_concat (p : Event → Bool) (h : List Event) (e : Event) :
    (h ++ [e]).takeWhile p = if h.all p then h ++ [e].takeWhile p else h.takeWhile p := by
  induction h with
  | nil => rfl
  | cons first h ih =>
    by_cases hp : p first
    · simp only [List.cons_append, List.takeWhile_cons, hp, if_true, ih, List.all_cons,
        Bool.true_and]
      split <;> rfl
    · simp [hp]

theorem dropWhile_concat (p : Event → Bool) (h : List Event) (e : Event) :
    (h ++ [e]).dropWhile p = if h.all p then [e].dropWhile p else h.dropWhile p ++ [e] := by
  induction h with
  | nil => rfl
  | cons first h ih =>
    by_cases hp : p first
    · simp only [List.cons_append, List.dropWhile_cons, hp, if_true, ih, List.all_cons,
        Bool.true_and]
    · simp [hp]

theorem window_eq_nil {index : Nat} {h : List Event} (hcopied : h.any (Event.isCopy index) = false)
    (pact : PactHandle) : window index pact h = [] := by
  have hdropped : (h.takeWhile fun e => !e.isFreeze pact).dropWhile (fun e => !e.isCopy index) =
      [] := by
    rw [List.dropWhile_eq_nil_iff]
    intro e he
    rw [List.any_eq_false] at hcopied
    simpa using hcopied e (List.takeWhile_subset _ he)
  rw [window, hdropped, List.filterMap_nil]

/-- A further call belongs to the window if the contract was copied and is not frozen. -/
theorem window_concat (index : Nat) (pact : PactHandle) (h : List Event) (e : Event) :
    window index pact (h ++ [e]) =
      if h.any (Event.isFreeze pact) then window index pact h
      else if h.any (Event.isCopy index) then window index pact h ++ e.call?.toList
      else [] := by
  rw [window, takeWhile_concat, all_not]
  cases hfrozen : h.any (Event.isFreeze pact) with
  | true => rfl
  | false =>
    have hwhole : window index pact h =
        (h.dropWhile fun e => !e.isCopy index).filterMap Event.call? := by
      have htake : (h.takeWhile fun e => !e.isFreeze pact) = h := by
        rw [List.takeWhile_eq_self_iff, ← List.all_eq_true, all_not, hfrozen]
        rfl
      rw [window, htake]
    -- an event that opens or closes a window is no call itself
    cases hfreeze : e.isFreeze pact with
    | true =>
      have hshort : [e].takeWhile (fun e => !e.isFreeze pact) = [] := by simp [hfreeze]
      simp only [hshort, Bool.not_false, if_true, List.append_nil, ← hwhole,
        Event.call?_of_isFreeze hfreeze]
      cases hcopied : h.any (Event.isCopy index) with
      | false => exact window_eq_nil hcopied pact
      | true => simp
    | false =>
      have hlong : [e].takeWhile (fun e => !e.isFreeze pact) = [e] := by simp [hfreeze]
      simp only [hlong, Bool.not_false, if_true, dropWhile_concat, all_not]
      cases hcopied : h.any (Event.isCopy index) with
      | false =>
        cases hcopy : e.isCopy index with
        | false => simp [hcopy]
        | true => simp [hcopy, Event.call?_of_isCopy hcopy]
      | true =>
        simp only [Bool.not_true, Bool.false_eq_true, if_false, List.filterMap_append, ← hwhole]
        cases hcall : e.call? <;> simp [hcall]

/-! ## What every section keeps -/

/-- The table has the contract that a start copied, with the calls of its window done to it. -/
structure Tracks (w : Shared) (index : Nat) (pact : PactHandle) (c : Contract) : Prop where
  copied : w.history.any (Event.isCopy index) = true
  contract : w.session.table.contract? pact = some (Call.onAll pact c (window index pact w.history))

/-- What a start has done so far. -/
def Start.Sound (w : Shared) (index : Nat) : Start → Prop
  | .copy _ _ => w.history.any (Event.isCopy index) = false
  | .register pact contract _ => Tracks w index pact contract
  | .freeze pact number | .ended pact (.ok number) =>
    ∃ s, w.session.registry.server? number = some s ∧ Tracks w index pact s.contract
  | .ended _ (.error _) => True

/-- What a schedule keeps: frozen are the contracts whose freezing was seen, and every start has
    done what its next section takes for granted. -/
structure Sound (w : Shared) : Prop where
  frozen : ∀ pact, (w.session.table.draft? pact).any Draft.frozen =
    w.history.any (Event.isFreeze pact)
  unused : ∀ index, w.starts.length ≤ index → w.history.any (Event.isCopy index) = false
  starts : ∀ index (start : Start), w.starts[index]? = some start → start.Sound w index

/-- What a step leaves to the starts that do not take it. -/
structure Leaves (w w' : Shared) (e? : Option Event) : Prop where
  history : w'.history = w.history ++ e?.toList
  servers : ∀ number s, w.session.registry.server? number = some s →
    w'.session.registry.server? number = some s
  contract : ∀ pact c, w.session.table.contract? pact = some c →
    w'.session.table.contract? pact = some
      (if w.history.any (Event.isFreeze pact) then c
        else Call.onAll pact c (e?.bind Event.call?).toList)

theorem Tracks.leaves {w w' : Shared} {e? : Option Event} (hleaves : Leaves w w' e?) {index : Nat}
    {pact : PactHandle} {c : Contract} (htracks : Tracks w index pact c) :
    Tracks w' index pact c := by
  constructor
  · rw [hleaves.history, List.any_append, htracks.copied, Bool.true_or]
  · rw [hleaves.contract pact _ htracks.contract, hleaves.history]
    cases e? with
    | none => simp [Call.onAll]
    | some e =>
      rw [Option.toList_some, window_concat, htracks.copied]
      split
      · rfl
      · simp [Call.onAll]

theorem Start.Sound.leaves {w w' : Shared} {e? : Option Event} (hleaves : Leaves w w' e?)
    {index : Nat} {start : Start} (hindex : e?.any (Event.isCopy index) = false)
    (hstart : start.Sound w index) : start.Sound w' index := by
  cases start with
  | copy pact address =>
    rw [Start.Sound] at hstart ⊢
    rw [hleaves.history, List.any_append, hstart]
    cases e? with
    | none => rfl
    | some e => simpa using hindex
  | register pact contract address => exact Tracks.leaves hleaves hstart
  | freeze pact number =>
    obtain ⟨s, hserver, htracks⟩ := hstart
    exact ⟨s, hleaves.servers number s hserver, htracks.leaves hleaves⟩
  | ended pact result =>
    cases result with
    | error code => trivial
    | ok number =>
      obtain ⟨s, hserver, htracks⟩ := hstart
      exact ⟨s, hleaves.servers number s hserver, htracks.leaves hleaves⟩

/-! ## Steps -/

theorem registry_perform {call : Call} (hcall : ∀ pact address, call ≠ .createForPact pact address)
    (s : Session) : (s.perform call).session.registry = s.registry := by
  cases call with
  | createForPact pact address => exact absurd rfl (hcall pact address)
  | newPact | newInteraction => rfl
  | edit handle e =>
    change (s.edit handle e).session.registry = s.registry
    rw [edit_eq]
    split <;> rfl
  | withMetadata pact space name value =>
    change (s.withMetadata pact space name value).session.registry = s.registry
    rw [withMetadata]
    split <;> rfl

theorem starts_eq_false {call : Call} (hcall : ∀ pact address, call ≠ .createForPact pact address)
    (pact : PactHandle) (answer : Answer) : call.starts pact answer = false := by
  cases call with
  | createForPact pact address => exact absurd rfl (hcall pact address)
  | newPact | newInteraction | edit | withMetadata => rfl

theorem Sound.contract {w : Shared} (hsound : Sound w) {pact : PactHandle} {c : Contract}
    (hcontract : w.session.table.contract? pact = some c) :
    ∃ draft, w.session.table.draft? pact = some draft ∧ draft.contract = c ∧
      draft.frozen = w.history.any (Event.isFreeze pact) := by
  obtain ⟨draft, hdraft, rfl⟩ := Option.map_eq_some_iff.1 hcontract
  refine ⟨draft, hdraft, rfl, ?_⟩
  rw [← hsound.frozen, hdraft]
  simp

/-- What remains to be shown for a step that leaves the other starts alone. -/
theorem Sound.leaves {w w' : Shared} {e? : Option Event} (hsound : Sound w)
    (hleaves : Leaves w w' e?)
    (hfrozen : ∀ pact, (w'.session.table.draft? pact).any Draft.frozen =
      ((w.session.table.draft? pact).any Draft.frozen || e?.any (Event.isFreeze pact)))
    (hunused : ∀ index, w'.starts.length ≤ index →
      w.starts.length ≤ index ∧ e?.any (Event.isCopy index) = false)
    (hstarts : ∀ index (start : Start), w'.starts[index]? = some start →
      start.Sound w' index ∨
        w.starts[index]? = some start ∧ e?.any (Event.isCopy index) = false) :
    Sound w' := by
  have hany : ∀ p : Event → Bool, w'.history.any p = (w.history.any p || e?.any p) := fun p => by
    rw [hleaves.history, List.any_append]
    cases e? <;> simp
  constructor
  · intro pact
    rw [hfrozen, hsound.frozen, hany]
  · intro index hindex
    obtain ⟨hold, hnew⟩ := hunused index hindex
    rw [hany, hsound.unused index hold, hnew]
    rfl
  · intro index start hstart
    rcases hstarts index start hstart with hdone | ⟨hkept, hcopy⟩
    · exact hdone
    · exact (hsound.starts index start hkept).leaves hleaves hcopy

theorem Sound.call {w : Shared} (hsound : Sound w) {call : Call}
    (hcall : ∀ pact address, call ≠ .createForPact pact address) : Sound (w.call call) := by
  have hw : w.call call =
      { w with
        session := (w.session.perform call).session
        history := w.history ++ [.called call (w.session.perform call).value] } := by
    cases call with
    | createForPact pact address => exact absurd rfl (hcall pact address)
    | newPact | newInteraction | edit | withMetadata => rfl
  rw [hw]
  have hleaves : Leaves w { w with
      session := (w.session.perform call).session
      history := w.history ++ [.called call (w.session.perform call).value] }
      (some (.called call (w.session.perform call).value)) := by
    refine ⟨rfl, fun number s hserver => ?_, fun pact c hcontract => ?_⟩
    · rw [registry_perform hcall]
      exact hserver
    · obtain ⟨draft, hdraft, rfl, hfrozen⟩ := hsound.contract hcontract
      rw [contract?, draft?_perform, hdraft, Option.map_some, Option.some_or, Option.map_some,
        Call.after, hfrozen]
      rfl
  refine hsound.leaves hleaves ?_ (fun index hindex => ⟨hindex, rfl⟩)
    fun index start hstart => Or.inr ⟨hstart, rfl⟩
  intro pact
  rw [any_frozen_perform, starts_eq_false hcall]
  rfl

/-- A step that does nothing to the table leaves all starts alone that do not take it. -/
theorem leaves_of_table {w w' : Shared} {e? : Option Event}
    (hhistory : w'.history = w.history ++ e?.toList) (hcall : e?.bind Event.call? = none)
    (htable : w'.session.table = w.session.table)
    (hservers : ∀ number s, w.session.registry.server? number = some s →
      w'.session.registry.server? number = some s) : Leaves w w' e? := by
  refine ⟨hhistory, hservers, fun pact c hcontract => ?_⟩
  rw [htable, hcontract, hcall]
  split <;> rfl

theorem Sound.begin {w : Shared} (hsound : Sound w) (pact : PactHandle) (address : Argument) :
    Sound (w.call (.createForPact pact address)) := by
  have hleaves : Leaves w (w.call (.createForPact pact address)) none :=
    leaves_of_table (List.append_nil _).symm rfl rfl fun _ _ hserver => hserver
  refine hsound.leaves hleaves (fun _ => (Bool.or_false _).symm) ?_ ?_
  · intro index hindex
    have hlength : w.starts.length + 1 ≤ index := by simpa [Shared.call] using hindex
    exact ⟨by omega, rfl⟩
  · intro index start hstart
    change (w.starts ++ [Start.copy pact address])[index]? = some start at hstart
    by_cases hold : index < w.starts.length
    · rw [List.getElem?_append_left hold] at hstart
      exact Or.inr ⟨hstart, rfl⟩
    · rw [List.getElem?_append_right (by omega), List.getElem?_singleton] at hstart
      split at hstart
      · cases hstart
        exact Or.inl (hsound.unused index (by omega))
      · cases hstart

/-- What a section of a start does. -/
theorem advance_cases (s : Session) (index : Nat) (start : Start) :
    let a := start.advance s index
    (a = { session := s, start } ∨
      ∃ pact code, a = { session := s, start := .ended pact (.error code) }) ∨
    (∃ pact contract address, s.table.contract? pact = some contract ∧
      a = { session := s, start := .register pact contract address,
            event? := some (.copied index) } ∧ ∃ argument, start = .copy pact argument) ∨
    (∃ pact contract address server registry, start = .register pact contract address ∧
      server.contract = contract ∧ registry.servers = s.registry.servers ++ [server] ∧
      a = { session := { s with registry }, start := .freeze pact s.registry.servers.length }) ∨
    ∃ pact number, start = .freeze pact number ∧
      a = { session := { s with table := s.table.freeze pact }, start := .ended pact (.ok number),
            event? := some (.frozen pact) } := by
  intro a
  cases start with
  | copy pact address =>
    simp only [a, Start.advance]
    split
    · next text contract haddress hcontract =>
      exact Or.inr (Or.inl ⟨pact, contract, text, hcontract, rfl, address, rfl⟩)
    · exact Or.inl (Or.inr ⟨pact, badArgument, rfl⟩)
  | register pact contract address =>
    have ha : a = Start.afterRegister pact (s.started (s.registry.startFor contract address
        (.ofEnvironmentOrDefault s.environment))) := rfl
    rcases s.registry.startFor_cases contract address (.ofEnvironmentOrDefault s.environment) with
      ⟨-, hstart⟩ | ⟨wanted, -, ⟨e, -, hstart⟩ | ⟨found, -, ⟨-, hstart⟩ | ⟨-, hstart⟩⟩⟩
    · rw [ha, hstart]
      exact Or.inl (Or.inr ⟨pact, _, rfl⟩)
    · rw [ha, hstart]
      exact Or.inl (Or.inr ⟨pact, _, rfl⟩)
    · rw [ha, hstart]
      exact Or.inl (Or.inr ⟨pact, _, rfl⟩)
    · rw [ha, hstart]
      exact Or.inr (Or.inr (Or.inl ⟨pact, contract, address, _, _, rfl, rfl, rfl, rfl⟩))
  | freeze pact number => exact Or.inr (Or.inr (Or.inr ⟨pact, number, rfl, rfl⟩))
  | ended pact result => exact Or.inl (Or.inl rfl)

/-- What remains to be shown for a section of a start. -/
theorem Sound.after {w : Shared} (hsound : Sound w) {index : Nat} {a : Advance}
    (hlt : index < w.starts.length) (hleaves : Leaves w (w.after index a) a.event?)
    (hfrozen : ∀ pact, (a.session.table.draft? pact).any Draft.frozen =
      ((w.session.table.draft? pact).any Draft.frozen || a.event?.any (Event.isFreeze pact)))
    (hcopy : ∀ other, index ≠ other → a.event?.any (Event.isCopy other) = false)
    (hown : a.start.Sound (w.after index a) index) : Sound (w.after index a) := by
  refine hsound.leaves hleaves hfrozen ?_ ?_
  · intro other hother
    have hlength : w.starts.length ≤ other := by simpa [Shared.after] using hother
    exact ⟨hlength, hcopy other (by omega)⟩
  · intro other start hstart
    change (w.starts.set index a.start)[other]? = some start at hstart
    by_cases heq : index = other
    · subst heq
      rw [List.getElem?_set_self hlt] at hstart
      cases hstart
      exact Or.inl hown
    · rw [List.getElem?_set_ne heq] at hstart
      exact Or.inr ⟨hstart, hcopy other heq⟩

/-- A section that is not seen and does not touch the table. -/
theorem Sound.afterQuiet {w : Shared} (hsound : Sound w) {index : Nat}
    (hlt : index < w.starts.length) {next : Start} {registry : Registry}
    (hservers : ∀ number s, w.session.registry.server? number = some s →
      registry.server? number = some s)
    (hnext : ∀ w', Leaves w w' none → w'.session.registry = registry → next.Sound w' index) :
    Sound (w.after index { session := { w.session with registry }, start := next }) := by
  have hleaves : Leaves w
      (w.after index { session := { w.session with registry }, start := next }) none :=
    leaves_of_table rfl rfl rfl hservers
  exact hsound.after hlt hleaves (fun _ => (Bool.or_false _).symm) (fun _ _ => rfl)
    (hnext _ hleaves rfl)

/-- The section in which a start copies the contract opens its window. -/
theorem Sound.afterCopy {w : Shared} (hsound : Sound w) {index : Nat}
    (hlt : index < w.starts.length) (hnew : w.history.any (Event.isCopy index) = false)
    {pact : PactHandle} {contract : Contract}
    (hcontract : w.session.table.contract? pact = some contract) (address : String) :
    Sound (w.after index ⟨w.session, .register pact contract address, some (.copied index)⟩) := by
  have hleaves : Leaves w
      (w.after index ⟨w.session, .register pact contract address, some (.copied index)⟩)
      (some (.copied index)) := leaves_of_table rfl rfl rfl fun _ _ hserver => hserver
  have hempty : window index pact (w.history ++ [.copied index]) = [] := by
    rw [window_concat, window_eq_nil hnew]
    simp [Event.call?]
  refine hsound.after hlt hleaves (fun _ => (Bool.or_false _).symm) ?_ ⟨?_, ?_⟩
  · intro other hne
    simpa [Event.isCopy] using hne
  · simp [Shared.after, Event.isCopy]
  · change w.session.table.contract? pact =
      some (Call.onAll pact contract (window index pact (w.history ++ [.copied index])))
    rw [hempty]
    exact hcontract

/-- The section in which a start freezes the contract leaves all contracts as they are. -/
theorem Sound.afterFreeze {w : Shared} (hsound : Sound w) {index : Nat}
    (hlt : index < w.starts.length) {pact : PactHandle} {number : Nat}
    (hown : (Start.freeze pact number).Sound w index) :
    Sound (w.after index ⟨{ w.session with table := w.session.table.freeze pact },
      .ended pact (.ok number), some (.frozen pact)⟩) := by
  have hleaves : Leaves w
      (w.after index ⟨{ w.session with table := w.session.table.freeze pact },
        .ended pact (.ok number), some (.frozen pact)⟩) (some (.frozen pact)) := by
    refine ⟨rfl, fun _ _ hserver => hserver, fun other c hcontract => ?_⟩
    obtain ⟨draft, hdraft, rfl, -⟩ := hsound.contract hcontract
    change (w.session.table.freeze pact).contract? other = _
    rw [contract?, draft?_freeze, hdraft]
    split <;> rfl
  obtain ⟨s, hserver, htracks⟩ := hown
  refine hsound.after hlt hleaves ?_ (fun _ _ => rfl) ⟨s, hserver, htracks.leaves hleaves⟩
  intro other
  rw [draft?_freeze]
  cases hdraft : w.session.table.draft? other with
  | some draft => simp [Event.isFreeze]
  | none =>
    -- the contract that is frozen is in the table
    have hne : pact ≠ other := by
      rintro rfl
      have hthere := htracks.contract
      rw [contract?, hdraft] at hthere
      cases hthere
    simp [Event.isFreeze, hne]

theorem Sound.advance {w : Shared} (hsound : Sound w) {index : Nat} {start : Start}
    (hstart : w.starts[index]? = some start) :
    Sound (w.after index (start.advance w.session index)) := by
  obtain ⟨hlt, -⟩ := List.getElem?_eq_some_iff.1 hstart
  have hown := hsound.starts index start hstart
  rcases advance_cases w.session index start with
    (ha | ⟨pact, code, ha⟩) | ⟨pact, contract, address, hcontract, ha, argument, rfl⟩ |
    ⟨pact, contract, address, server, registry, rfl, hserver, hservers, ha⟩ |
    ⟨pact, number, rfl, ha⟩
  · rw [ha]
    exact hsound.afterQuiet hlt (fun _ _ hserver => hserver) fun w' hleaves _ =>
      hown.leaves hleaves rfl
  · rw [ha]
    exact hsound.afterQuiet hlt (fun _ _ hserver => hserver) fun _ _ _ => trivial
  · rw [ha]
    exact hsound.afterCopy hlt hown hcontract address
  · rw [ha]
    have hthere : ∀ number s, w.session.registry.server? number = some s →
        registry.server? number = some s := by
      intro number s hs
      rw [Registry.server?, hservers,
        List.getElem?_append_left (List.getElem?_eq_some_iff.1 hs).1]
      exact hs
    refine hsound.afterQuiet hlt hthere fun w' hleaves hregistry => ⟨server, ?_, ?_⟩
    · rw [hregistry, Registry.server?, hservers, List.getElem?_concat_length]
    · rw [hserver]
      exact Tracks.leaves hleaves hown
  · rw [ha]
    exact hsound.afterFreeze hlt hown

theorem Sound.step {w : Shared} (hsound : Sound w) (action : Action) : Sound (w.step action) := by
  cases action with
  | call call =>
    rw [Shared.step]
    cases call with
    | createForPact pact address => exact hsound.begin pact address
    | newPact | newInteraction | edit | withMetadata => exact hsound.call (by simp)
  | advance index =>
    rw [Shared.step]
    cases hstart : w.starts[index]? with
    | none => exact hsound
    | some start => exact hsound.advance hstart

theorem Sound.run {w : Shared} (hsound : Sound w) (actions : List Action) :
    Sound (w.run actions) := by
  induction actions generalizing w with
  | nil => exact hsound
  | cons action actions ih => exact ih (hsound.step action)

/-! ## What is served -/

/-- The contract and the number of the server that a start has registered. -/
def Start.registered? : Start → Option (PactHandle × Nat)
  | .freeze pact number | .ended pact (.ok number) => some (pact, number)
  | _ => none

theorem Start.Sound.served {w : Shared} {index : Nat} {start : Start} {pact : PactHandle}
    {number : Nat} (hstart : start.Sound w index)
    (hregistered : start.registered? = some (pact, number)) :
    ∃ s, w.session.registry.server? number = some s ∧ Tracks w index pact s.contract := by
  cases start with
  | copy | register => cases hregistered
  | freeze => cases hregistered; exact hstart
  | ended pact result =>
    cases result with
    | error => cases hregistered
    | ok number => cases hregistered; exact hstart

/-- The contract that a call names. -/
def Call.pact? : Call → Option PactHandle
  | .newPact _ _ | .createForPact _ _ => none
  | .newInteraction pact _ | .withMetadata pact .. => some pact
  | .edit handle _ => some ⟨handle.pact⟩

theorem onAll_of_ne {pact : PactHandle} {calls : List Call}
    (h : ∀ call ∈ calls, call.pact? ≠ some pact) (c : Contract) : Call.onAll pact c calls = c := by
  induction calls with
  | nil => rfl
  | cons call calls ih =>
    have hcall : call.on pact c = c := by
      have hne := h call List.mem_cons_self
      cases call with
      | newInteraction | edit | withMetadata => exact if_neg fun heq => hne (congrArg some heq)
      | newPact | createForPact => rfl
    change Call.onAll pact (call.on pact c) calls = c
    rw [hcall]
    exact ih fun other hother => h other (List.mem_cons_of_mem _ hother)

/-- After any schedule, a server that was started for a contract serves it as it was copied: the
    contract behind the handle is that one with the calls of the window done to it. Where none of
    them named the contract, the server serves just what the table has. -/
theorem served_run (registry : Registry) (files : FileTree) (environment : Config.Environment)
    (actions : List Action) :
    let w := Shared.run { session := { registry, files, environment } } actions
    ∀ (index : Nat) (pact : PactHandle) (number : Nat),
      (w.starts[index]?).bind Start.registered? = some (pact, number) →
      let calls := window index pact w.history
      ∃ s c, w.session.registry.server? number = some s ∧
        w.session.table.contract? pact = some c ∧ c = Call.onAll pact s.contract calls ∧
        ((∀ call ∈ calls, call.pact? ≠ some pact) → s.contract = c) := by
  intro w index pact number hregistered calls
  have hbegin : Sound { session := { registry, files, environment } } :=
    ⟨fun pact => by simp, fun _ _ => rfl, fun _ _ h => (nomatch h)⟩
  obtain ⟨start, hstart, hstarted⟩ := Option.bind_eq_some_iff.1 hregistered
  obtain ⟨s, hserver, htracks⟩ := ((hbegin.run actions).starts index start hstart).served hstarted
  exact ⟨s, _, hserver, htracks.contract, rfl, fun hothers => (onAll_of_ne hothers _).symm⟩

/-- A contract with one interaction, and a server for it that is started with calls in between. -/
def startAmong (calls : List Call) : List Action :=
  [.call (.newPact none none), .call (.newInteraction ⟨1⟩ none),
    .call (.createForPact ⟨1⟩ (some (Bytes.ofString "127.0.0.1:8080"))), .advance 0] ++
    calls.map .call ++ [.advance 0, .advance 0]

/-- A call that names another contract does not show. -/
theorem served_run_other :
    let w := Shared.run {} (startAmong [.withMetadata ⟨2⟩ none none none])
    ∃ s c, w.session.registry.server? 0 = some s ∧ w.session.table.contract? ⟨1⟩ = some c ∧
      s.contract = c := by
  intro w
  have hregistered : (w.starts[0]?).bind Start.registered? = some (⟨1⟩, 0) := by decide +kernel
  obtain ⟨s, c, hserver, hcontract, -, hsame⟩ :=
    served_run {} {} (fun _ => none) _ 0 ⟨1⟩ 0 hregistered
  exact ⟨s, c, hserver, hcontract, hsame (by decide +kernel)⟩

/-- A call can come between the copy and the server and be done, and the server does not serve what
    it did. -/
theorem not_served_among :
    ¬ ∀ (actions : List Action) (index : Nat) (pact : PactHandle) (number : Nat),
      let w := Shared.run {} actions
      (w.starts[index]?).bind Start.registered? = some (pact, number) →
        (w.session.registry.server? number).map Server.contract =
          w.session.table.contract? pact := by
  intro hserved
  let late : Call := .edit ⟨1, 1⟩ (.describe (some (Bytes.ofString "late")))
  have hsame := hserved (startAmong [late]) 0 ⟨1⟩ 0 (by decide +kernel)
  have hdescriptions := congrArg
    (Option.map fun c : Contract => c.interactions.map Interaction.description) hsame
  revert hdescriptions
  decide +kernel

end Session

end MockProvider
