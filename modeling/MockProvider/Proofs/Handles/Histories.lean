import MockProvider.Proofs.Handles.Calls

/-!
# Histories of calls

Calls on contracts, one after another, with the answers they got. The answers so far are enough to
tell which handles lead to contracts and to interactions, and which contracts are frozen
(`Accounts`). From it follows what callers can rely on, whatever they call (`Reliable`): handles do
not get mixed up, a call changes what it names or nothing, and a contract stays as it is when a
server was started for it.
-/

namespace MockProvider

/-- What adding a text to metadata leaves: all but the value of one name in one section. -/
def Metadata.Keeps (space name : String) (m m' : Metadata) : Prop :=
  m'.specVersion = m.specVersion ∧
    (∀ key, space ≠ key → m'.extra.get? key = m.extra.get? key) ∧
    ∀ key, name ≠ key →
      Assoc.get? (m'.sectionMembers space) key = Assoc.get? (m.sectionMembers space) key

theorem Metadata.sectionMembers_withText (m : Metadata) (space name value other : String) :
    (m.withText space name value).sectionMembers other =
      if space = other then Assoc.insert name (.string value) (m.sectionMembers space)
      else m.sectionMembers other := by
  rw [withText, sectionMembers, Dict.get?_insert]
  split
  · rfl
  · rw [sectionMembers]

theorem Metadata.keeps_withText (m : Metadata) (space name value : String) :
    m.Keeps space name (m.withText space name value) := by
  refine ⟨rfl, fun key hne => ?_, fun key hne => ?_⟩
  · rw [withText, Dict.get?_insert, if_neg hne]
  · rw [sectionMembers_withText, if_pos rfl, Assoc.get?_insert, if_neg hne]

/-- The number of interactions of the contract behind a handle. -/
def DraftTable.count (t : DraftTable) (pact : PactHandle) : Nat :=
  ((t.draft? pact).map fun draft => draft.contract.interactions.length).getD 0

namespace Session

open DraftTable

/-! ## Runs -/

/-- A call with the answer that it got. -/
abbrev Answered := Call × Answer

/-- The session after calls, one after another. -/
def run (s : Session) (calls : List Call) : Session :=
  calls.foldl (fun s call => (s.perform call).session) s

/-- The calls with their answers. -/
def history (s : Session) : List Call → List Answered
  | [] => []
  | call :: calls =>
    let after := s.perform call
    (call, after.value) :: after.session.history calls

theorem run_cons (s : Session) (call : Call) (calls : List Call) :
    s.run (call :: calls) = (s.perform call).session.run calls := rfl

/-! ## What answers tell -/

def Answer.pact? : Answer → Option PactHandle
  | .pact handle => some handle
  | _ => none

/-- An answer by which a call was turned down. -/
def Answer.isRefusal : Answer → Bool
  | .truth value => !value
  | .interaction handle => handle.interaction == 0
  | .server (.error _) => true
  | _ => false

/-- The handles of contracts, in the order in which they were given out. -/
def pactsIn (h : List Answered) : List PactHandle :=
  h.filterMap fun answered => answered.2.pact?

/-- The handle that a call gave to a new interaction of a contract. -/
def issued? (pact : PactHandle) : Answered → Option InteractionHandle
  | (.newInteraction handle _, .interaction i) =>
    if handle = pact ∧ i.interaction ≠ 0 then some i else none
  | _ => none

/-- The handles of a contract's interactions, in the order in which they were given out. -/
def interactionsIn (pact : PactHandle) (h : List Answered) : List InteractionHandle :=
  h.filterMap (issued? pact)

/-- Whether a server was started for the contract behind a handle. -/
def startedIn (pact : PactHandle) (h : List Answered) : Bool :=
  h.any fun answered => answered.1.starts pact answered.2

/-- A call on a contract or an interaction that is not there, or that a server was started for.
    For a contract that is there a server can be started again. -/
def Call.Misplaced (h : List Answered) : Call → Prop
  | .newPact _ _ => False
  | .newInteraction pact _ | .withMetadata pact .. => pact ∉ pactsIn h ∨ startedIn pact h = true
  | .edit handle _ =>
    ⟨handle.pact⟩ ∉ pactsIn h ∨ startedIn ⟨handle.pact⟩ h = true ∨
      handle ∉ interactionsIn ⟨handle.pact⟩ h
  | .createForPact pact _ => pact ∉ pactsIn h

/-- What the table holds is what the answers so far tell. -/
structure Accounts (h : List Answered) (t : DraftTable) : Prop where
  nodup : (pactsIn h).Nodup
  pacts : ∀ pact, pact ∈ pactsIn h ↔ (t.draft? pact).isSome = true
  interactions : ∀ pact, interactionsIn pact h =
    (List.range' 1 (t.count pact)).map (InteractionHandle.mk pact.pact)
  started : ∀ pact, startedIn pact h = (t.draft? pact).any Draft.frozen

theorem accounts_nil : Accounts [] {} := by
  constructor
  · exact List.nodup_nil
  · simp [pactsIn]
  · simp [interactionsIn, DraftTable.count]
  · simp [startedIn]

/-! ## What one call adds -/

/-- A call gives out the handle of the draft that it begins, and of no other. -/
theorem isSome_begun?_iff (s : Session) (call : Call) (pact : PactHandle) :
    (call.begun? s.table pact).isSome = true ↔ (s.perform call).value.pact? = some pact := by
  cases call with
  | newPact consumer provider =>
    change (Call.begun? s.table pact _).isSome = true ↔
      some (⟨s.table.drafts.length + 1⟩ : PactHandle) = some pact
    rw [Call.begun?, Option.some.injEq]
    split
    · next hpact => simp [hpact]
    · next hpact => simp [Ne.symm hpact]
  | newInteraction | edit | withMetadata | createForPact =>
    constructor
    · intro h
      cases h
    · intro h
      cases h

theorem draft?_eq_none_of_begun? {t : DraftTable} {call : Call} {pact : PactHandle}
    (h : (call.begun? t pact).isSome = true) : t.draft? pact = none := by
  cases call with
  | newPact consumer provider =>
    rw [Call.begun?] at h
    split at h
    · next hpact =>
      rw [hpact, draft?_succ]
      exact List.getElem?_eq_none (Nat.le_refl _)
    · cases h
  | newInteraction | edit | withMetadata | createForPact => cases h

theorem length_adjust (c : Contract) (number : Nat) (f : Interaction → Interaction) :
    (c.adjust number f).interactions.length = c.interactions.length := by
  rw [Contract.adjust]
  split
  · exact List.length_set
  · rfl

theorem length_on {call : Call} {pact : PactHandle} (c : Contract)
    (h : ∀ handle description, call ≠ .newInteraction handle description) :
    (call.on pact c).interactions.length = c.interactions.length := by
  cases call with
  | newInteraction handle description => exact absurd rfl (h handle description)
  | edit handle e =>
    rw [Call.on]
    split
    · exact length_adjust c handle.interaction e.applied
    · rfl
  | withMetadata =>
    rw [Call.on]
    split <;> rfl
  | newPact | createForPact => rfl

/-- Only a call for a new interaction changes how many there are. -/
theorem count_perform {s : Session} {call : Call}
    (h : ∀ handle description, call ≠ .newInteraction handle description) (pact : PactHandle) :
    (s.perform call).session.table.count pact = s.table.count pact := by
  rw [count, count, draft?_perform]
  cases hdraft : s.table.draft? pact with
  | some draft =>
    simp only [Option.map_some, Option.some_or, Option.getD_some, Call.after]
    split
    · rfl
    · exact length_on draft.contract h
  | none =>
    rw [Option.map_none, Option.none_or]
    cases call with
    | newPact consumer provider =>
      rw [Call.begun?]
      split <;> rfl
    | newInteraction | edit | withMetadata | createForPact => rfl

/-- A new interaction gets the next number, if its contract can be changed. -/
theorem issued?_perform (s : Session) (call : Call) (pact : PactHandle) :
    let after := s.perform call
    issued? pact (call, after.value) = none ∧ after.session.table.count pact = s.table.count pact ∨
      issued? pact (call, after.value) = some ⟨pact.pact, s.table.count pact + 1⟩ ∧
        after.session.table.count pact = s.table.count pact + 1 := by
  intro after
  cases call with
  | newInteraction handle description =>
    rcases s.table.newInteraction_cases handle description.textOrEmpty with
      hrefused | ⟨draft, hdraft, -, hvalue, htable⟩
    · have hnumber := congrArg (fun after => after.value.interaction) hrefused
      exact Or.inl ⟨if_neg fun h => h.2 hnumber,
        congrArg (fun after => after.table.count pact) hrefused⟩
    · by_cases heq : handle = pact
      · subst heq
        have hcount : s.table.count handle = draft.contract.interactions.length := by
          rw [count, hdraft]
          rfl
        have hissued : issued? handle (.newInteraction handle description, after.value) =
            some (s.table.newInteraction handle description.textOrEmpty).value := by
          refine if_pos ⟨rfl, ?_⟩
          change (s.table.newInteraction _ _).value.interaction ≠ 0
          rw [hvalue]
          exact Nat.succ_ne_zero _
        refine Or.inr ⟨by rw [hissued, hvalue, hcount], ?_⟩
        change DraftTable.count (s.table.newInteraction _ _).table handle = _
        rw [htable, count, draft?_withDraft hdraft, if_pos rfl, hcount]
        exact List.length_append
      · refine Or.inl ⟨if_neg fun h => heq h.1, ?_⟩
        change DraftTable.count (s.table.newInteraction _ _).table pact = _
        rw [htable, count, draft?_withDraft hdraft, if_neg heq, count]
  | newPact => exact Or.inl ⟨rfl, count_perform (by simp) pact⟩
  | edit => exact Or.inl ⟨rfl, count_perform (by simp) pact⟩
  | withMetadata => exact Or.inl ⟨rfl, count_perform (by simp) pact⟩
  | createForPact => exact Or.inl ⟨rfl, count_perform (by simp) pact⟩

theorem Accounts.step {h : List Answered} {s : Session} (haccounts : Accounts h s.table)
    (call : Call) :
    Accounts (h ++ [(call, (s.perform call).value)]) (s.perform call).session.table := by
  have hpacts : pactsIn (h ++ [(call, (s.perform call).value)]) =
      pactsIn h ++ (s.perform call).value.pact?.toList := by
    rw [pactsIn, List.filterMap_append, pactsIn]
    cases hpact : (s.perform call).value.pact? <;> simp [hpact]
  constructor
  · rw [hpacts, List.nodup_append]
    refine ⟨haccounts.nodup, ?_, ?_⟩
    · cases (s.perform call).value.pact? <;> simp
    -- a handle that is given out led nowhere before
    · intro pact hpact other hnew heq
      subst heq
      have hbegun := (isSome_begun?_iff s call pact).2 (Option.mem_toList.1 hnew)
      rw [haccounts.pacts, draft?_eq_none_of_begun? hbegun] at hpact
      cases hpact
  · intro pact
    rw [hpacts, List.mem_append, haccounts.pacts, Option.mem_toList,
      ← isSome_begun?_iff, draft?_perform]
    simp
  · intro pact
    have hissued : interactionsIn pact (h ++ [(call, (s.perform call).value)]) =
        interactionsIn pact h ++ (issued? pact (call, (s.perform call).value)).toList := by
      rw [interactionsIn, List.filterMap_append, interactionsIn]
      cases hissue : issued? pact (call, (s.perform call).value) <;> simp [hissue]
    rw [hissued, haccounts.interactions]
    -- the numbers so far begin with one, and a further one goes on where they end
    rcases issued?_perform s call pact with ⟨hnone, hcount⟩ | ⟨hsome, hcount⟩
    · rw [hnone, hcount, Option.toList_none, List.append_nil]
    · rw [hsome, hcount, List.range'_concat]
      simp [Nat.add_comm]
  · intro pact
    rw [startedIn, List.any_append, ← startedIn, haccounts.started, any_frozen_perform]
    simp

/-- From answers that tell what the table holds, a run leads to further ones that do. -/
theorem Accounts.run {h : List Answered} {s : Session} (haccounts : Accounts h s.table)
    (calls : List Call) : Accounts (h ++ s.history calls) (s.run calls).table := by
  induction calls generalizing h s with
  | nil =>
    rw [history, List.append_nil]
    exact haccounts
  | cons call calls ih =>
    rw [history, run_cons, List.append_cons]
    exact ih (haccounts.step call)

/-! ## Calls in the wrong place -/

variable {h : List Answered} {s : Session} {pact : PactHandle}

theorem Accounts.openDraft?_eq_none (haccounts : Accounts h s.table)
    (hpact : pact ∉ pactsIn h ∨ startedIn pact h = true) : s.table.openDraft? pact = none := by
  rw [openDraft?, Option.filter_eq_none_iff]
  intro draft hdraft
  rcases hpact with habsent | hstarted
  · rw [haccounts.pacts, hdraft] at habsent
    exact absurd rfl habsent
  · rw [haccounts.started, hdraft] at hstarted
    simpa using hstarted

theorem Accounts.mem_interactionsIn (haccounts : Accounts h s.table)
    {handle : InteractionHandle} {draft : Draft}
    (hdraft : s.table.draft? ⟨handle.pact⟩ = some draft)
    (hthere : (interaction? draft.contract handle.interaction).isSome = true) :
    handle ∈ interactionsIn ⟨handle.pact⟩ h := by
  obtain ⟨pact, number⟩ := handle
  cases number with
  | zero => cases hthere
  | succ position =>
    have hposition : position < draft.contract.interactions.length := by
      simpa [interaction?] using hthere
    rw [haccounts.interactions, count, hdraft]
    refine List.mem_map.2 ⟨position + 1, List.mem_range'_1.2 ?_, rfl⟩
    simp only [Option.map_some, Option.getD_some]
    omega

theorem edit_of_openInteraction?_eq_none {handle : InteractionHandle}
    (hnone : s.table.openInteraction? handle = none) (e : Edit) :
    s.edit handle e = ⟨false, s⟩ := by
  rcases s.edit_cases handle e with ⟨hkept, -⟩ | ⟨draft, i, -, hopen, hi, -⟩
  · exact hkept
  · rw [openInteraction?, hopen, Option.bind_some, hi] at hnone
    cases hnone

/-- A call in the wrong place is refused and changes nothing. -/
theorem Accounts.refused (haccounts : Accounts h s.table) {call : Call}
    (hcall : call.Misplaced h) :
    (s.perform call).value.isRefusal = true ∧ (s.perform call).session = s := by
  cases call with
  | newPact => cases hcall
  | newInteraction pact description =>
    have hopen := haccounts.openDraft?_eq_none hcall
    simp [perform, After.map, Answer.isRefusal, newInteraction, withTable,
      DraftTable.newInteraction, hopen]
  | edit handle e =>
    have hopen : s.table.openInteraction? handle = none := by
      rw [openInteraction?]
      rcases or_assoc.2 hcall with hplace | hissued
      · rw [haccounts.openDraft?_eq_none hplace, Option.bind_none]
      · rw [Option.bind_eq_none_iff]
        intro draft hdraft
        rw [← Option.not_isSome_iff_eq_none]
        exact fun hthere => hissued
          (haccounts.mem_interactionsIn (openDraft?_eq_some_iff.1 hdraft).1 hthere)
    simp [perform, After.map, Answer.isRefusal, edit_of_openInteraction?_eq_none hopen]
  | withMetadata pact space name value =>
    have hopen := haccounts.openDraft?_eq_none hcall
    have hrefused : s.withMetadata pact space name value = ⟨false, s⟩ := by
      rw [withMetadata]
      split
      · simp only [withTable, DraftTable.withMetadata, hopen]
      · rfl
    simp [perform, After.map, Answer.isRefusal, hrefused]
  | createForPact pact address =>
    have hnone : s.table.draft? pact = none := by
      rw [← Option.not_isSome_iff_eq_none, ← haccounts.pacts]
      exact hcall
    simp [perform, After.map, Answer.isRefusal, createForPact_of_none hnone]

/-! ## Calls that are not refused -/

/-- What a call that is not refused leaves of the table: everything but what it names. -/
def Call.Confined (t t' : DraftTable) : Call → Prop
  | .newPact consumer provider =>
    t'.drafts = t.drafts ++
      [{ contract := { consumer := consumer.textOrEmpty, provider := provider.textOrEmpty } }]
  | .newInteraction pact description => ∃ draft, t.draft? pact = some draft ∧
      t' = t.withDraft pact { draft with contract.interactions :=
        draft.contract.interactions ++ [{ description := description.textOrEmpty }] }
  | .edit handle e => ∃ draft i i', t.draft? ⟨handle.pact⟩ = some draft ∧
      interaction? draft.contract handle.interaction = some i ∧ e.Keeps i i' ∧
      t' = t.withDraft ⟨handle.pact⟩ (withInteraction draft handle.interaction i')
  | .withMetadata pact space name _ => ∃ draft m, t.draft? pact = some draft ∧
      draft.contract.metadata.Keeps space.textOrEmpty name.textOrEmpty m ∧
      t' = t.withDraft pact { draft with contract.metadata := m }
  | .createForPact pact _ => ∃ draft, t.draft? pact = some draft ∧
      t' = t.withDraft pact { draft with frozen := true }

theorem confined_perform (s : Session) {call : Call}
    (hdone : (s.perform call).value.isRefusal = false) :
    call.Confined s.table (s.perform call).session.table := by
  cases call with
  | newPact consumer provider => exact rfl
  | newInteraction pact description =>
    rcases s.table.newInteraction_cases pact description.textOrEmpty with
      hrefused | ⟨draft, hdraft, -, -, htable⟩
    · simp [perform, After.map, newInteraction, withTable, hrefused, Answer.isRefusal] at hdone
    · exact ⟨draft, hdraft, htable⟩
  | edit handle e =>
    rcases s.edit_cases handle e with ⟨hkept, -⟩ | ⟨draft, i, -, hopen, hi, hedit⟩
    · simp [perform, After.map, hkept, Answer.isRefusal] at hdone
    · refine ⟨draft, i, e.applied i, (openDraft?_eq_some_iff.1 hopen).1, hi, e.keeps_applied i, ?_⟩
      exact congrArg (fun after => after.session.table) hedit
  | withMetadata pact space name value =>
    change (!(s.withMetadata pact space name value).value) = false at hdone
    change Call.Confined s.table (s.withMetadata pact space name value).session.table
      (.withMetadata pact space name value)
    rw [withMetadata] at hdone ⊢
    split at hdone
    · next spaceText nameText valueText hspace hname hvalue =>
      simp only [withTable, value_withMetadata] at hdone
      cases hopen : s.table.openDraft? pact with
      | none => simp [hopen] at hdone
      | some draft =>
        refine ⟨draft, _, (openDraft?_eq_some_iff.1 hopen).1,
          draft.contract.metadata.keeps_withText space.textOrEmpty name.textOrEmpty valueText, ?_⟩
        simp only [Argument.textOrEmpty, hspace, hname, withTable, Option.getD_some,
          DraftTable.table_withMetadata, reopen, hopen]
    · cases hdone
  | createForPact pact address =>
    change Answer.isRefusal (.server (s.createForPact pact address).value) = false at hdone
    change Call.Confined s.table (s.createForPact pact address).session.table
      (.createForPact pact address)
    rw [table_createForPact]
    cases hvalue : (s.createForPact pact address).value with
    | error code =>
      rw [hvalue] at hdone
      cases hdone
    | ok number =>
      cases hdraft : s.table.draft? pact with
      | none =>
        rw [createForPact_of_none hdraft] at hvalue
        cases hvalue
      | some draft =>
        refine ⟨draft, hdraft, ?_⟩
        simp only [freeze, hdraft]

/-! ## Interactions over time -/

/-- What a call makes of the interaction behind a handle, while that can be changed. -/
def Call.touch (handle : InteractionHandle) (i : Interaction) : Call → Interaction
  | .edit edited e => if edited = handle then e.applied i else i
  | _ => i

/-- What calls make of the interaction behind a handle: they edit it one after another, until a
    server is started for its contract. -/
def followed (handle : InteractionHandle) (frozen : Bool) (i : Interaction) :
    List Answered → Interaction
  | [] => i
  | (call, answer) :: rest =>
    followed handle (frozen || call.starts ⟨handle.pact⟩ answer)
      (if frozen then i else call.touch handle i) rest

theorem interaction?_adjust (c : Contract) (number other : Nat) (f : Interaction → Interaction) :
    interaction? (c.adjust number f) other =
      (interaction? c other).map fun i => if number = other then f i else i := by
  rw [Contract.adjust]
  cases hi : interaction? c number with
  | none =>
    cases hother : interaction? c other with
    | none => rfl
    | some i =>
      have hne : number ≠ other := by
        rintro rfl
        rw [hi] at hother
        cases hother
      simp [hne]
  | some i =>
    cases number with
    | zero => cases hi
    | succ position =>
      cases other with
      | zero => rfl
      | succ other =>
        simp only [interaction?, Nat.add_sub_cancel, List.getElem?_set]
        by_cases heq : position = other
        · obtain ⟨hlt, rfl⟩ := List.getElem?_eq_some_iff.1 hi
          subst heq
          simp [hlt]
        · simp [heq]

theorem interaction?_on {c : Contract} {handle : InteractionHandle} {i : Interaction}
    (hi : interaction? c handle.interaction = some i) (call : Call) :
    interaction? (call.on ⟨handle.pact⟩ c) handle.interaction = some (call.touch handle i) := by
  cases call with
  | newInteraction pact description =>
    rw [Call.on]
    split
    · obtain ⟨pact, number⟩ := handle
      cases number with
      | zero => cases hi
      | succ position =>
        obtain ⟨hlt, -⟩ := List.getElem?_eq_some_iff.1 hi
        exact (List.getElem?_append_left hlt).trans hi
    · exact hi
  | edit edited e =>
    rw [Call.on, Call.touch]
    obtain ⟨pact, number⟩ := handle
    obtain ⟨editedPact, editedNumber⟩ := edited
    by_cases hpact : editedPact = pact
    · subst hpact
      rw [if_pos rfl, interaction?_adjust, hi, Option.map_some]
      simp
    · simp [hpact, hi]
  | withMetadata pact space name value =>
    rw [Call.on]
    split <;> exact hi
  | newPact | createForPact => exact hi

theorem interactionAt?_run {s : Session} {handle : InteractionHandle} {draft : Draft}
    {i : Interaction} (hdraft : s.table.draft? ⟨handle.pact⟩ = some draft)
    (hi : interaction? draft.contract handle.interaction = some i) (calls : List Call) :
    (s.run calls).table.interactionAt? handle =
      some (followed handle draft.frozen i (s.history calls)) := by
  -- a call changes the draft and may change the interaction, so both vary in the induction
  induction calls generalizing s draft i with
  | nil =>
    change s.table.interactionAt? handle = some i
    rw [interactionAt?, hdraft, Option.bind_some, hi]
  | cons call calls ih =>
    rw [run_cons, history, followed]
    have hafter : (s.perform call).session.table.draft? ⟨handle.pact⟩ =
        some (call.after ⟨handle.pact⟩ (s.perform call).value draft) := by
      rw [draft?_perform, hdraft, Option.map_some, Option.some_or]
    refine ih hafter ?_
    rw [Call.after]
    split
    · exact hi
    · exact interaction?_on hi call

theorem draft?_run_of_frozen {s : Session} {pact : PactHandle} {draft : Draft}
    (hdraft : s.table.draft? pact = some draft) (hfrozen : draft.frozen = true)
    (calls : List Call) : (s.run calls).table.draft? pact = some draft := by
  induction calls generalizing s with
  | nil => exact hdraft
  | cons call calls ih =>
    rw [run_cons]
    apply ih
    rw [draft?_perform, hdraft, Option.map_some, Option.some_or, Call.after, if_pos hfrozen,
      hfrozen, Bool.true_or, ← hfrozen]

theorem interactionAt?_newInteraction {s : Session} {pact : PactHandle} {description : Argument}
    (hissued : (s.newInteraction pact description).value.interaction ≠ 0) (later : List Call) :
    let after := s.newInteraction pact description
    (after.session.run later).table.interactionAt? after.value =
      some (followed after.value false { description := description.textOrEmpty }
        (after.session.history later)) := by
  intro after
  rcases s.table.newInteraction_cases pact description.textOrEmpty with
    hrefused | ⟨draft, hdraft, hfrozen, hvalue, htable⟩
  · exact absurd (congrArg (fun after => after.value.interaction) hrefused) hissued
  · have hafter : after.value = ⟨pact.pact, draft.contract.interactions.length + 1⟩ := hvalue
    have hthere : after.session.table.draft? ⟨after.value.pact⟩ = some { draft with
        contract.interactions :=
          draft.contract.interactions ++ [{ description := description.textOrEmpty }] } := by
      change (s.table.newInteraction _ _).table.draft? _ = _
      rw [htable, hafter, draft?_withDraft hdraft, if_pos rfl]
    rw [interactionAt?_run hthere, hfrozen]
    rw [hafter]
    exact List.getElem?_concat_length

/-! ## What callers can rely on -/

/-- What the answers that calls got promise for the calls to come. -/
structure Reliable (h : List Answered) (s : Session) : Prop where
  /-- No handle is given out for two contracts, and none is zero. -/
  distinct : (pactsIn h).Nodup ∧ ⟨0⟩ ∉ pactsIn h
  /-- A call in the wrong place is refused and changes nothing. -/
  refused : ∀ call : Call, call.Misplaced h →
    (s.perform call).value.isRefusal = true ∧ (s.perform call).session = s
  /-- A call that is not refused changes only what it names. -/
  confined : ∀ call, (s.perform call).value.isRefusal = false →
    call.Confined s.table (s.perform call).session.table
  /-- The interactions of a contract are numbered from one, and a handle stays with its
      interaction. -/
  numbered : ∀ pact description, let after := s.newInteraction pact description
    after.value.interaction ≠ 0 →
      after.value = ⟨pact.pact, (interactionsIn pact h).length + 1⟩ ∧
      ∀ later, (after.session.run later).table.interactionAt? after.value =
        some (followed after.value false { description := description.textOrEmpty }
          (after.session.history later))
  /-- A contract that a server was started for is there and stays as it is. -/
  frozen : ∀ pact, startedIn pact h = true → ∃ c, ∀ later,
    (s.run later).table.contract? pact = some c

/-- Callers can rely on handles and contracts after any calls, from a table that was empty. -/
theorem reliable_run (registry : Registry) (files : FileTree) (environment : Config.Environment)
    (calls : List Call) :
    let s : Session := { registry, files, environment }
    Reliable (s.history calls) (s.run calls) := by
  intro s
  have haccounts : Accounts (s.history calls) (s.run calls).table :=
    accounts_nil.run (s := s) calls
  constructor
  · refine ⟨haccounts.nodup, fun hzero => ?_⟩
    cases (haccounts.pacts ⟨0⟩).1 hzero
  · exact fun call hcall => haccounts.refused hcall
  · exact fun call => confined_perform _
  · intro pact description after hissued
    refine ⟨?_, interactionAt?_newInteraction hissued⟩
    have hgiven : issued? pact (.newInteraction pact description, .interaction after.value) =
        some after.value := if_pos ⟨rfl, hissued⟩
    rcases issued?_perform (s.run calls) (.newInteraction pact description) pact with
      ⟨hnone, -⟩ | ⟨hsome, -⟩
    · cases hgiven.symm.trans hnone
    · rw [haccounts.interactions, List.length_map, List.length_range']
      exact Option.some.inj (hgiven.symm.trans hsome)
  · intro pact hstarted
    rw [haccounts.started] at hstarted
    obtain ⟨draft, hdraft, hfrozen⟩ := (Option.any_eq_true _ _).1 hstarted
    refine ⟨draft.contract, fun later => ?_⟩
    rw [contract?, draft?_run_of_frozen hdraft hfrozen, Option.map_some]

/-- A contract with one interaction, for which a server is started. -/
def servedCalls : List Call :=
  [.newPact none none, .newInteraction ⟨1⟩ none, .edit ⟨1, 1⟩ (.status 404),
    .createForPact ⟨1⟩ (some (Bytes.ofString "127.0.0.1:8080"))]

/-- The contract of a server that was started stays as it is, and a further edit is refused. -/
theorem reliable_run_served :
    let s : Session := {}
    let late : Call := .edit ⟨1, 1⟩ (.status 500)
    startedIn ⟨1⟩ (s.history servedCalls) = true ∧
      (∃ c, ∀ later, ((s.run servedCalls).run later).table.contract? ⟨1⟩ = some c) ∧
      ((s.run servedCalls).perform late).value.isRefusal = true := by
  intro s late
  have hstarted : startedIn ⟨1⟩ (s.history servedCalls) = true := by decide +kernel
  have hreliable := reliable_run {} {} (fun _ => none) servedCalls
  exact ⟨hstarted, hreliable.frozen ⟨1⟩ hstarted,
    (hreliable.refused late (Or.inr (Or.inl hstarted))).1⟩

end Session

end MockProvider
