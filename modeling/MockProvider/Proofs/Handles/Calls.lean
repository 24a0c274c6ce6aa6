import MockProvider.Proofs.Handles.Edits

/-!
# Calls that build contracts

The calls on contracts and interactions behind handles, as values, and what each of them does to the
table. A contract that can still be changed becomes what `Call.on` makes of it; a contract that a
server was started for stays as it is. `draft?_perform` says so for every handle and every call, and
everything about runs of calls is derived from it.
-/

namespace MockProvider

/-- The contract with the interaction at a number, counted from one, replaced by what `f` makes of
    it. -/
def Contract.adjust (c : Contract) (number : Nat) (f : Interaction → Interaction) : Contract :=
  match DraftTable.interaction? c number with
  | some i => { c with interactions := c.interactions.set (number - 1) (f i) }
  | none => c

namespace Session

/-- A call on contracts behind handles. -/
inductive Call where
  | newPact (consumer provider : Argument)
  | newInteraction (pact : PactHandle) (description : Argument)
  | edit (handle : InteractionHandle) (edit : Edit)
  | withMetadata (pact : PactHandle) (space name value : Argument)
  | createForPact (pact : PactHandle) (address : Argument)

/-- What a call gives. -/
inductive Answer where
  | pact (handle : PactHandle)
  | interaction (handle : InteractionHandle)
  | truth (value : Bool)
  | server (result : Except Int Nat)

/-- Makes the call that an edit stands for. -/
def edit (s : Session) (handle : InteractionHandle) : Edit → After Bool
  | .describe text => s.uponReceiving handle text
  | .given state => s.given handle state
  | .target method path => s.withRequest handle method path
  | .query name index value => s.withQuery handle name index value
  | .header part name index value => s.withHeader handle part name index value
  | .status code => s.withStatus handle code
  | .body part type text => s.withBody handle part type text

def After.map (f : α → β) (after : After α) : After β :=
  ⟨f after.value, after.session⟩

def perform (s : Session) : Call → After Answer
  | .newPact consumer provider => (s.newPact consumer provider).map .pact
  | .newInteraction pact description => (s.newInteraction pact description).map .interaction
  | .edit handle e => (s.edit handle e).map .truth
  | .withMetadata pact space name value => (s.withMetadata pact space name value).map .truth
  | .createForPact pact address => (s.createForPact pact address).map .server

namespace Call

/-- Metadata with a further text, unless an argument is missing. -/
def described (m : Metadata) (space name value : Argument) : Metadata :=
  match space.text?, name.text?, value.text? with
  | some space, some name, some value => m.withText space name value
  | _, _, _ => m

/-- What a call makes of the contract behind a handle, while that can be changed. -/
def on (pact : PactHandle) (c : Contract) : Call → Contract
  | .newPact _ _ => c
  | .newInteraction handle description =>
    if handle = pact then
      { c with interactions := c.interactions ++ [{ description := description.textOrEmpty }] }
    else c
  | .edit handle e => if ⟨handle.pact⟩ = pact then c.adjust handle.interaction e.applied else c
  | .withMetadata handle space name value =>
    if handle = pact then { c with metadata := described c.metadata space name value } else c
  | .createForPact _ _ => c

/-- Whether a call has started a server for the contract behind a handle. -/
def starts (pact : PactHandle) : Call → Answer → Bool
  | .createForPact handle _, .server (.ok _) => handle == pact
  | _, _ => false

/-- What a call with an answer makes of the draft behind a handle. -/
def after (pact : PactHandle) (call : Call) (answer : Answer) (draft : Draft) : Draft where
  contract := if draft.frozen then draft.contract else call.on pact draft.contract
  frozen := draft.frozen || call.starts pact answer

/-- The draft that a call begins behind a handle. -/
def begun? (t : DraftTable) (pact : PactHandle) : Call → Option Draft
  | .newPact consumer provider =>
    if pact = ⟨t.drafts.length + 1⟩ then
      some { contract := { consumer := consumer.textOrEmpty, provider := provider.textOrEmpty } }
    else none
  | _ => none

end Call

end Session

/-! ## Looking into the table -/

namespace DraftTable

variable {t : DraftTable} {pact handle : PactHandle} {draft : Draft}

theorem draft?_succ (t : DraftTable) (position : Nat) :
    t.draft? ⟨position + 1⟩ = t.drafts[position]? := rfl

@[simp] theorem draft?_empty (pact : PactHandle) : ({} : DraftTable).draft? pact = none := by
  obtain ⟨number⟩ := pact
  cases number <;> rfl

theorem draft?_eq_some_iff :
    t.draft? pact = some draft ↔
      ∃ position, pact = ⟨position + 1⟩ ∧ t.drafts[position]? = some draft := by
  obtain ⟨number⟩ := pact
  cases number with
  | zero => simp [draft?]
  | succ position => simp [draft?]

/-- Tables are equal that have the same behind all handles. -/
theorem ext_draft? {t t' : DraftTable} (h : ∀ pact, t.draft? pact = t'.draft? pact) : t = t' := by
  obtain ⟨drafts⟩ := t
  obtain ⟨drafts'⟩ := t'
  have hdrafts : drafts = drafts' := List.ext_getElem? fun position => h ⟨position + 1⟩
  rw [hdrafts]

theorem draft?_withDraft {old : Draft} (h : t.draft? handle = some old) (draft : Draft)
    (pact : PactHandle) :
    (t.withDraft handle draft).draft? pact =
      if handle = pact then some draft else t.draft? pact := by
  obtain ⟨position, rfl, hold⟩ := draft?_eq_some_iff.1 h
  obtain ⟨hlt, -⟩ := List.getElem?_eq_some_iff.1 hold
  obtain ⟨number⟩ := pact
  cases number with
  | zero => rfl
  | succ other =>
    rw [draft?_succ, draft?_succ, withDraft, Nat.add_sub_cancel, List.getElem?_set]
    by_cases heq : position = other
    · subst heq
      rw [if_pos rfl, if_pos hlt, if_pos rfl]
    · have hne : (⟨position + 1⟩ : PactHandle) ≠ ⟨other + 1⟩ := by simpa using heq
      rw [if_neg heq, if_neg hne]

theorem withDraft_self (h : t.draft? pact = some draft) : t.withDraft pact draft = t := by
  apply ext_draft?
  intro other
  rw [draft?_withDraft h]
  split
  · next heq => rw [← heq, h]
  · rfl

theorem openDraft?_eq_some_iff :
    t.openDraft? pact = some draft ↔ t.draft? pact = some draft ∧ draft.frozen = false := by
  rw [openDraft?, Option.filter_eq_some_iff, Bool.not_eq_true']

/-- The interaction behind a handle. -/
def interactionAt? (t : DraftTable) (handle : InteractionHandle) : Option Interaction :=
  (t.draft? ⟨handle.pact⟩).bind fun draft => interaction? draft.contract handle.interaction

/-- The interaction behind a handle, while it can be changed. -/
def openInteraction? (t : DraftTable) (handle : InteractionHandle) : Option Interaction :=
  (t.openDraft? ⟨handle.pact⟩).bind fun draft => interaction? draft.contract handle.interaction

/-- The table with the contract behind a handle replaced, if it can be changed. -/
def reopen (t : DraftTable) (handle : PactHandle) (f : Contract → Contract) : DraftTable :=
  match t.openDraft? handle with
  | some draft => t.withDraft handle { draft with contract := f draft.contract }
  | none => t

theorem draft?_reopen (t : DraftTable) (handle pact : PactHandle) (f : Contract → Contract) :
    (t.reopen handle f).draft? pact = (t.draft? pact).map fun draft =>
      if handle = pact ∧ draft.frozen = false then { draft with contract := f draft.contract }
      else draft := by
  rw [reopen]
  cases hopen : t.openDraft? handle with
  | some old =>
    obtain ⟨hold, hfrozen⟩ := openDraft?_eq_some_iff.1 hopen
    rw [draft?_withDraft hold]
    by_cases heq : handle = pact
    · subst heq
      simp [hold, hfrozen]
    · simp [heq]
  | none =>
    cases hdraft : t.draft? pact with
    | none => simp
    | some draft =>
      -- the handle cannot lead to a draft that can be changed
      have hkept : ¬ (handle = pact ∧ draft.frozen = false) := by
        rintro ⟨rfl, hfrozen⟩
        rw [openDraft?_eq_some_iff.2 ⟨hdraft, hfrozen⟩] at hopen
        cases hopen
      simp [hkept]

/-! ## Calls on the table -/

theorem draft?_newPact (t : DraftTable) (consumer provider : String) (pact : PactHandle) :
    (t.newPact consumer provider).table.draft? pact =
      if pact = ⟨t.drafts.length + 1⟩ then some { contract := { consumer, provider } }
      else t.draft? pact := by
  obtain ⟨number⟩ := pact
  cases number with
  | zero => simp [draft?]
  | succ position =>
    simp only [draft?_succ, newPact, List.getElem?_append, PactHandle.mk.injEq,
      Nat.add_right_cancel_iff]
    by_cases hlt : position < t.drafts.length
    · rw [if_pos hlt, if_neg (Nat.ne_of_lt hlt)]
    · by_cases heq : position = t.drafts.length
      · simp [heq]
      · have hnone : t.drafts[position]? = none := List.getElem?_eq_none (by omega)
        rw [if_neg hlt, if_neg heq, hnone, List.getElem?_eq_none]
        simp
        omega

theorem table_newInteraction (t : DraftTable) (pact : PactHandle) (description : String) :
    (t.newInteraction pact description).table =
      t.reopen pact fun c => { c with interactions := c.interactions ++ [{ description }] } := by
  rw [newInteraction, reopen]
  cases t.openDraft? pact <;> rfl

/-- A call for a new interaction is refused, or adds it with the next number. -/
theorem newInteraction_cases (t : DraftTable) (pact : PactHandle) (description : String) :
    let after := t.newInteraction pact description
    after = ⟨⟨pact.pact, 0⟩, t⟩ ∨
      ∃ draft, t.draft? pact = some draft ∧ draft.frozen = false ∧
        after.value = ⟨pact.pact, draft.contract.interactions.length + 1⟩ ∧
        after.table = t.withDraft pact { draft with contract.interactions :=
          draft.contract.interactions ++ [{ description }] } := by
  intro after
  cases hopen : t.openDraft? pact with
  | none =>
    left
    simp only [after, newInteraction, hopen]
  | some draft =>
    obtain ⟨hdraft, hfrozen⟩ := openDraft?_eq_some_iff.1 hopen
    refine Or.inr ⟨draft, hdraft, hfrozen, ?_, ?_⟩
    · simp [after, newInteraction, hopen]
    · simp only [after, newInteraction, hopen]

theorem table_change (t : DraftTable) (handle : InteractionHandle)
    (step : Interaction → Step Interaction) :
    (t.change handle step).table =
      t.reopen ⟨handle.pact⟩ fun c => c.adjust handle.interaction fun i => (step i).result := by
  rw [change, reopen]
  cases hopen : t.openDraft? ⟨handle.pact⟩ with
  | none => rfl
  | some draft =>
    simp only [Contract.adjust]
    cases interaction? draft.contract handle.interaction with
    | none => exact (withDraft_self (openDraft?_eq_some_iff.1 hopen).1).symm
    | some i => rfl

theorem table_withMetadata (t : DraftTable) (pact : PactHandle) (space name value : String) :
    (t.withMetadata pact space name value).table =
      t.reopen pact fun c => { c with metadata := c.metadata.withText space name value } := by
  rw [withMetadata, reopen]
  cases t.openDraft? pact <;> rfl

theorem value_withMetadata (t : DraftTable) (pact : PactHandle) (space name value : String) :
    (t.withMetadata pact space name value).value = (t.openDraft? pact).isSome := by
  rw [withMetadata]
  cases t.openDraft? pact <;> rfl

theorem draft?_freeze (t : DraftTable) (handle pact : PactHandle) :
    (t.freeze handle).draft? pact = (t.draft? pact).map fun draft =>
      { draft with frozen := draft.frozen || handle == pact } := by
  rw [freeze]
  cases hdraft : t.draft? handle with
  | some old =>
    rw [draft?_withDraft hdraft]
    by_cases heq : handle = pact
    · subst heq
      simp [hdraft]
    · simp [heq, beq_eq_false_iff_ne.2 heq]
  | none =>
    cases hother : t.draft? pact with
    | none => rfl
    | some draft =>
      have hne : handle ≠ pact := by
        rintro rfl
        rw [hdraft] at hother
        cases hother
      simp [beq_eq_false_iff_ne.2 hne]

end DraftTable

/-! ## What every call does -/

namespace Session

open DraftTable

/-- An edit is a change of the interaction by a step, if its arguments are there. -/
theorem edit_eq (s : Session) (handle : InteractionHandle) (e : Edit) :
    s.edit handle e = match e.step? with
      | some step => s.withTable (s.table.change handle step)
      | none => ⟨false, s⟩ := by
  cases e with
  | describe text => simp only [edit, uponReceiving, needing, Edit.step?]; cases text.text? <;> rfl
  | given state => simp only [edit, given, needing, Edit.step?]; cases state.text? <;> rfl
  | target method path => rfl
  | query name index value =>
    simp only [edit, withQuery, needingBoth, Edit.step?]
    cases name.text? <;> cases value.text? <;> rfl
  | header part name index value =>
    simp only [edit, withHeader, needingBoth, Edit.step?]
    cases name.text? <;> cases value.text? <;> rfl
  | status code => rfl
  | body part type text => rfl

/-- An edit does not get to an interaction and changes nothing, or it is applied to one; it is done
    unless its index is too great for any list. -/
theorem edit_cases (s : Session) (handle : InteractionHandle) (e : Edit) :
    s.edit handle e = ⟨false, s⟩ ∧ (e.step? = none ∨ s.table.openInteraction? handle = none) ∨
      ∃ draft i, e.step?.isSome = true ∧ s.table.openDraft? ⟨handle.pact⟩ = some draft ∧
        interaction? draft.contract handle.interaction = some i ∧
        s.edit handle e = s.withTable ⟨!e.overflows, s.table.withDraft ⟨handle.pact⟩
          (withInteraction draft handle.interaction (e.applied i))⟩ := by
  rw [edit_eq]
  cases hstep : e.step? with
  | none => exact Or.inl ⟨rfl, Or.inl rfl⟩
  | some step =>
    simp only [withTable, change, openInteraction?]
    cases hopen : s.table.openDraft? ⟨handle.pact⟩ with
    | none => exact Or.inl ⟨rfl, Or.inr rfl⟩
    | some draft =>
      cases hi : interaction? draft.contract handle.interaction with
      | none => exact Or.inl ⟨by simp only [hi], Or.inr hi⟩
      | some i =>
        refine Or.inr ⟨draft, i, rfl, rfl, hi, ?_⟩
        simp only [hi, Edit.done_step hstep, Edit.applied_of_step? hstep]

theorem adjust_id (c : Contract) (number : Nat) : c.adjust number id = c := by
  rw [Contract.adjust]
  cases hi : interaction? c number with
  | none => rfl
  | some i =>
    cases number with
    | zero => cases hi
    | succ position =>
      obtain ⟨hlt, rfl⟩ := List.getElem?_eq_some_iff.1 hi
      simp only [id_eq, Nat.add_sub_cancel, List.set_getElem_self]

theorem draft?_edit (s : Session) (handle : InteractionHandle) (e : Edit) (pact : PactHandle) :
    (s.edit handle e).session.table.draft? pact = (s.table.draft? pact).map fun draft =>
      if ⟨handle.pact⟩ = pact ∧ draft.frozen = false then
        { draft with contract := draft.contract.adjust handle.interaction e.applied }
      else draft := by
  rw [edit_eq]
  cases hstep : e.step? with
  | some step =>
    have happlied : e.applied = fun i => (step i).result := by
      funext i
      rw [Edit.applied, hstep]
    simp only [withTable, table_change, draft?_reopen, happlied]
  | none =>
    have happlied : e.applied = id := by
      funext i
      rw [Edit.applied, hstep, id]
    simp [happlied, adjust_id]

theorem table_createForPact (s : Session) (pact : PactHandle) (address : Argument) :
    (s.createForPact pact address).session.table =
      match (s.createForPact pact address).value with
      | .ok _ => s.table.freeze pact
      | .error _ => s.table := by
  rw [createForPact]
  split
  · next text contract haddress hcontract =>
    simp only [started]
    cases s.registry.startFor contract text (.ofEnvironmentOrDefault s.environment) <;> rfl
  · rfl

theorem table_withMetadata (s : Session) (pact : PactHandle) (space name value : Argument) :
    (s.withMetadata pact space name value).session.table =
      s.table.reopen pact fun c =>
        { c with metadata := Call.described c.metadata space name value } := by
  rw [withMetadata]
  split
  · next hspace hname hvalue =>
    simp only [withTable, DraftTable.table_withMetadata, Call.described, hspace, hname, hvalue]
  · next hmissing =>
    have hdescribed : ∀ m, Call.described m space name value = m := by
      intro m
      rw [Call.described]
      split
      · next hspace hname hvalue => exact absurd hvalue (hmissing _ _ _ hspace hname)
      · rfl
    apply ext_draft?
    intro other
    simp [draft?_reopen, hdescribed]

/-- A call that acts on the contract behind one handle and starts no server. -/
theorem map_after {call : Call} {handle : PactHandle} {f : Contract → Contract} {pact : PactHandle}
    {answer : Answer} (hstarts : call.starts pact answer = false)
    (hon : ∀ c, call.on pact c = if handle = pact then f c else c) (draft? : Option Draft) :
    (draft?.map fun draft =>
      if handle = pact ∧ draft.frozen = false then { draft with contract := f draft.contract }
      else draft) = draft?.map (call.after pact answer) := by
  congr 1
  funext ⟨contract, frozen⟩
  rw [Call.after, hstarts, hon, Bool.or_false]
  cases frozen with
  | true => simp
  | false => by_cases heq : handle = pact <;> simp [heq]

/-- What a call does to the contract behind any handle: it acts on the draft that is there, or
    begins one. -/
theorem draft?_perform (s : Session) (call : Call) (pact : PactHandle) :
    (s.perform call).session.table.draft? pact =
      ((s.table.draft? pact).map (call.after pact (s.perform call).value)).or
        (call.begun? s.table pact) := by
  cases call with
  | newPact consumer provider =>
    have hafter : (Call.newPact consumer provider).after pact
        (s.perform (.newPact consumer provider)).value = id := by
      funext draft
      simp [Call.after, Call.on, Call.starts]
    change (s.table.newPact _ _).table.draft? pact = _
    rw [draft?_newPact, hafter, Option.map_id, Call.begun?]
    split
    · next hpact =>
      have hnone : s.table.draft? pact = none := by
        rw [hpact, draft?_succ]
        exact List.getElem?_eq_none (Nat.le_refl _)
      rw [hnone]
      rfl
    · rw [Option.or_none]
      rfl
  | newInteraction handle description =>
    refine Eq.trans ?_ (Option.or_none.symm)
    refine Eq.trans ?_ (map_after rfl (fun c => rfl) _)
    change (s.table.newInteraction _ _).table.draft? pact = _
    rw [table_newInteraction, draft?_reopen]
  | edit handle e =>
    refine Eq.trans ?_ (Option.or_none.symm)
    refine Eq.trans ?_ (map_after rfl (fun c => rfl) _)
    exact draft?_edit s handle e pact
  | withMetadata handle space name value =>
    refine Eq.trans ?_ (Option.or_none.symm)
    refine Eq.trans ?_ (map_after rfl (fun c => rfl) _)
    change (s.withMetadata handle space name value).session.table.draft? pact = _
    rw [table_withMetadata, draft?_reopen]
  | createForPact handle address =>
    refine Eq.trans ?_ (Option.or_none.symm)
    change (s.createForPact handle address).session.table.draft? pact =
      (s.table.draft? pact).map (Call.after pact _ (.server (s.createForPact handle address).value))
    rw [table_createForPact]
    cases (s.createForPact handle address).value with
    | ok number =>
      rw [draft?_freeze]
      congr 1
      funext draft
      simp [Call.after, Call.on, Call.starts]
    | error code =>
      refine (Option.map_id' (x := s.table.draft? pact)).symm.trans ?_
      congr 1
      funext draft
      simp [Call.after, Call.on, Call.starts]

theorem createForPact_of_none {s : Session} {pact : PactHandle} (h : s.table.draft? pact = none)
    (address : Argument) : s.createForPact pact address = ⟨.error badArgument, s⟩ := by
  have hcontract : s.table.contract? pact = none := by rw [contract?, h, Option.map_none]
  rw [createForPact, hcontract]
  cases address.text? <;> rfl

theorem isSome_draft?_of_starts {s : Session} {call : Call} {pact : PactHandle}
    (h : call.starts pact (s.perform call).value = true) : (s.table.draft? pact).isSome = true := by
  cases call with
  | createForPact handle address =>
    cases hvalue : (s.createForPact handle address).value with
    | ok number =>
      have hpact : handle = pact := by
        simpa [perform, After.map, Call.starts, hvalue] using h
      rw [← hpact, Option.isSome_iff_ne_none]
      intro hnone
      rw [createForPact_of_none hnone] at hvalue
      cases hvalue
    | error code => simp [perform, After.map, Call.starts, hvalue] at h
  | newPact | newInteraction | edit | withMetadata => cases h

/-- A contract is frozen by the start of a server, and by nothing else. -/
theorem any_frozen_perform (s : Session) (call : Call) (pact : PactHandle) :
    ((s.perform call).session.table.draft? pact).any Draft.frozen =
      ((s.table.draft? pact).any Draft.frozen || call.starts pact (s.perform call).value) := by
  rw [draft?_perform]
  cases hdraft : s.table.draft? pact with
  | some draft => simp [Call.after]
  | none =>
    have hstarts : call.starts pact (s.perform call).value = false := by
      rw [Bool.eq_false_iff]
      intro hstarts
      have hthere := isSome_draft?_of_starts hstarts
      rw [hdraft] at hthere
      cases hthere
    rw [hstarts]
    cases call with
    | newPact consumer provider =>
      rw [Call.begun?]
      split <;> rfl
    | newInteraction | edit | withMetadata | createForPact => rfl

end Session

end MockProvider
