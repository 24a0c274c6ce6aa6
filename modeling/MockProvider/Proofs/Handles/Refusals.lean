import MockProvider.Proofs.Handles.Histories

/-!
# Refused calls

A call that is refused leaves the table as it is, with one exception: an edit that sets a value at
an index that no list has a place for is given up in the middle, when the name has been put there
already. `Call.Slips` says when that happens, and `Call.LeavesName` what is left then.
-/

namespace MockProvider

namespace Session

open DraftTable

/-- An edit of an interaction that can be changed, at an index that is too great, under a name that
    is not there. -/
def Call.Slips (t : DraftTable) : Call → Prop
  | .edit handle e => e.step?.isSome = true ∧ e.overflows = true ∧
      ∃ i, t.openInteraction? handle = some i ∧ e.values? i = none
  | _ => False

/-- What such an edit leaves: the name without values, and all else as it was. The contract can
    still be changed. -/
def Call.LeavesName (t t' : DraftTable) : Call → Prop
  | .edit handle e => ∃ draft i i', t.openDraft? ⟨handle.pact⟩ = some draft ∧
      interaction? draft.contract handle.interaction = some i ∧
      e.Keeps i i' ∧ e.values? i = none ∧ e.values? i' = some [] ∧
      t' = t.withDraft ⟨handle.pact⟩ (withInteraction draft handle.interaction i')
  | _ => False

theorem interactionAt?_withInteraction {t : DraftTable} {handle : InteractionHandle}
    {draft : Draft} {i : Interaction} (hdraft : t.draft? ⟨handle.pact⟩ = some draft)
    (hi : interaction? draft.contract handle.interaction = some i) (i' : Interaction) :
    (t.withDraft ⟨handle.pact⟩
      (withInteraction draft handle.interaction i')).interactionAt? handle = some i' := by
  rw [interactionAt?, draft?_withDraft hdraft, if_pos rfl, Option.bind_some]
  obtain ⟨pact, number⟩ := handle
  cases number with
  | zero => cases hi
  | succ position =>
    obtain ⟨hlt, -⟩ := List.getElem?_eq_some_iff.1 hi
    exact List.getElem?_set_self hlt

theorem withDraft_withInteraction_self {t : DraftTable} {handle : InteractionHandle}
    {draft : Draft} {i : Interaction} (hdraft : t.draft? ⟨handle.pact⟩ = some draft)
    (hi : interaction? draft.contract handle.interaction = some i) :
    t.withDraft ⟨handle.pact⟩ (withInteraction draft handle.interaction i) = t := by
  have hself : withInteraction draft handle.interaction i = draft := by
    have hadjust := adjust_id draft.contract handle.interaction
    rw [Contract.adjust, hi] at hadjust
    exact congrArg (fun contract => { draft with contract }) hadjust
  rw [hself, withDraft_self hdraft]

/-- A refused call that is no edit leaves the table as it is. -/
theorem table_of_refused {s : Session} {call : Call}
    (hrefused : (s.perform call).value.isRefusal = true)
    (hcall : ∀ handle e, call ≠ .edit handle e) : (s.perform call).session.table = s.table := by
  cases call with
  | newPact => cases hrefused
  | newInteraction pact description =>
    rcases s.table.newInteraction_cases pact description.textOrEmpty with
      hkept | ⟨draft, -, -, hvalue, -⟩
    · exact congrArg (fun after => after.table) hkept
    · simp [perform, After.map, newInteraction, withTable, hvalue, Answer.isRefusal] at hrefused
  | edit handle e => exact absurd rfl (hcall handle e)
  | withMetadata pact space name value =>
    change (!(s.withMetadata pact space name value).value) = true at hrefused
    change (s.withMetadata pact space name value).session.table = s.table
    rw [withMetadata] at hrefused ⊢
    split at hrefused
    · simp only [withTable, value_withMetadata] at hrefused
      cases hopen : s.table.openDraft? pact with
      | none => simp only [withTable, DraftTable.table_withMetadata, reopen, hopen]
      | some draft => simp [hopen] at hrefused
    · rfl
  | createForPact pact address =>
    change Answer.isRefusal (.server (s.createForPact pact address).value) = true at hrefused
    change (s.createForPact pact address).session.table = s.table
    rw [table_createForPact]
    cases hvalue : (s.createForPact pact address).value with
    | ok number =>
      rw [hvalue] at hrefused
      cases hrefused
    | error code => rfl

/-- A refused call leaves the table as it is just if it does not slip; if it does, it leaves the
    name without values. -/
theorem refused_iff (s : Session) (call : Call)
    (hrefused : (s.perform call).value.isRefusal = true) :
    let t' := (s.perform call).session.table
    (t' = s.table ↔ ¬ call.Slips s.table) ∧ (call.Slips s.table → call.LeavesName s.table t') := by
  intro t'
  cases call with
  | edit handle e =>
    rcases s.edit_cases handle e with
      ⟨hkept, hmissing⟩ | ⟨draft, i, hstep, hopen, hi, hedit⟩
    · -- the edit does not get to an interaction, so it does not slip
      have htable : t' = s.table := congrArg (fun after => after.session.table) hkept
      have hfine : ¬ Call.Slips s.table (.edit handle e) := by
        rintro ⟨hstep, -, i, hthere, -⟩
        rcases hmissing with hnone | hnone
        · rw [hnone] at hstep
          cases hstep
        · rw [hnone] at hthere
          cases hthere
      exact ⟨iff_of_true htable hfine, fun hslips => absurd hslips hfine⟩
    · obtain ⟨hdraft, -⟩ := openDraft?_eq_some_iff.1 hopen
      obtain ⟨step, hstep'⟩ := Option.isSome_iff_exists.1 hstep
      have hover : e.overflows = true := by
        change (!(s.edit handle e).value) = true at hrefused
        simpa [hedit, withTable] using hrefused
      have hthere : s.table.openInteraction? handle = some i := by
        rw [openInteraction?, hopen, Option.bind_some, hi]
      have htable : t' = s.table.withDraft ⟨handle.pact⟩
          (withInteraction draft handle.interaction (e.applied i)) :=
        congrArg (fun after => after.session.table) hedit
      have hslips : Call.Slips s.table (.edit handle e) ↔ e.values? i = none := by
        rw [Call.Slips, hthere]
        simp [hstep, hover]
      have hkept : t' = s.table ↔ e.applied i = i := by
        constructor
        · intro hsame
          have hat := interactionAt?_withInteraction hdraft hi (e.applied i)
          rw [← htable, hsame, interactionAt?, hdraft, Option.bind_some, hi] at hat
          exact (Option.some.inj hat).symm
        · intro hsame
          rw [htable, hsame, withDraft_withInteraction_self hdraft hi]
      constructor
      · rw [hkept, hslips, Edit.applied_eq_self_iff hstep' hover, Option.isSome_iff_ne_none]
      · intro hslip
        have hnone := hslips.1 hslip
        have hvalues := Edit.values?_applied hstep' hover i
        rw [hnone, Option.getD_none] at hvalues
        exact ⟨draft, i, e.applied i, hopen, hi, e.keeps_applied i, hnone, hvalues, htable⟩
  | newPact => cases hrefused
  | newInteraction | withMetadata | createForPact =>
    exact ⟨iff_of_true (table_of_refused hrefused (by simp)) id, False.elim⟩

/-- A contract with one interaction. -/
def begunCalls : List Call :=
  [.newPact none none, .newInteraction ⟨1⟩ none]

/-- Sets a header at the greatest index there is. -/
def oversized : Call :=
  .edit ⟨1, 1⟩ (.header .request (some (Bytes.ofString "X")) 18446744073709551615
    (some (Bytes.ofString "v")))

/-- A header at the greatest index slips: the call is refused, and the name is there afterwards. -/
theorem refused_iff_oversized :
    let s := ({} : Session).run begunCalls
    (s.perform oversized).value.isRefusal = true ∧ oversized.Slips s.table ∧
      oversized.LeavesName s.table (s.perform oversized).session.table := by
  intro s
  have hrefused : (s.perform oversized).value.isRefusal = true := by decide +kernel
  have hinteraction : s.table.openInteraction? ⟨1, 1⟩ = some {} := by decide +kernel
  have hslips : oversized.Slips s.table :=
    ⟨by decide +kernel, by decide, {}, hinteraction, rfl⟩
  exact ⟨hrefused, hslips, (refused_iff s oversized hrefused).2 hslips⟩

/-- So not every refused call leaves the table as it is. -/
theorem not_kept_of_refused :
    ¬ ∀ (calls : List Call) (call : Call),
      let s := ({} : Session).run calls
      (s.perform call).value.isRefusal = true → (s.perform call).session.table = s.table := by
  intro hkept
  have htable := hkept begunCalls oversized (by decide +kernel)
  have hvalues := congrArg (fun t => (t.interactionAt? ⟨1, 1⟩).map fun i => i.request.header? "X")
    htable
  revert hvalues
  decide +kernel

end Session

end MockProvider
