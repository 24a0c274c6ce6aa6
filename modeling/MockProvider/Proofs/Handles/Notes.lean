import Mathlib.Data.List.Induction
import MockProvider.Proofs.Contract.RoundTrip
import MockProvider.Proofs.Handles.Histories

/-!
# Texts among the metadata

Calls put texts among the metadata of a contract, each under a name in a section. The answers tell
which of them were taken (`notesIn`), and the metadata hold what was taken last under every name.
A pact document gives all of it but one section, which it writes itself: in that section stands the
version of the specification and nothing that a call put there (`noted_run`).
-/

namespace MockProvider

/-- A text under a name in a section. -/
structure Note where
  space : String
  name : String
  value : String
deriving DecidableEq

/-- The text that was noted last under a name in a section. -/
def Note.last? (notes : List Note) (space name : String) : Option String :=
  (notes.reverse.find? fun note => note.space = space ∧ note.name = name).map Note.value

theorem Note.last?_append (notes : List Note) (note : Note) (space name : String) :
    last? (notes ++ [note]) space name =
      if note.space = space ∧ note.name = name then some note.value else last? notes space name := by
  rw [last?, List.reverse_append, List.reverse_singleton, List.singleton_append, List.find?_cons]
  split
  · next h => rw [if_pos (of_decide_eq_true h), Option.map_some]
  · next h => rw [if_neg (of_decide_eq_false h), last?]

/-! ## Metadata with notes -/

namespace Metadata

def withNote (m : Metadata) (note : Note) : Metadata :=
  m.withText note.space note.name note.value

def withNotes (m : Metadata) (notes : List Note) : Metadata :=
  notes.foldl withNote m

theorem specVersion_withNotes (m : Metadata) (notes : List Note) :
    (m.withNotes notes).specVersion = m.specVersion := by
  induction notes generalizing m with
  | nil => rfl
  | cons note notes ih => exact ih (m.withNote note)

/-- A name holds the text that was noted last under it, or what it held before. -/
theorem get?_sectionMembers_withNotes (m : Metadata) (notes : List Note) (space name : String) :
    Assoc.get? ((m.withNotes notes).sectionMembers space) name =
      ((Note.last? notes space name).map Json.string).or
        (Assoc.get? (m.sectionMembers space) name) := by
  -- the last note decides, so the induction takes notes away from the end
  induction notes using List.reverseRecOn with
  | nil => rfl
  | append_singleton notes note ih =>
    rw [withNotes, List.foldl_concat, ← withNotes, withNote, sectionMembers_withText,
      Note.last?_append]
    by_cases hspace : note.space = space
    · rw [if_pos hspace, Assoc.get?_insert]
      by_cases hname : note.name = name
      · rw [if_pos hname, if_pos ⟨hspace, hname⟩]
        rfl
      · rw [if_neg hname, if_neg fun h => hname h.2, hspace, ih]
    · rw [if_neg hspace, if_neg fun h => hspace h.1, ih]

end Metadata

/-! ## Notes in documents -/

/-- The value at a name in a section of the metadata of a pact document. -/
def noteAt? (document : Json) (space name : String) : Option Json :=
  ((document.get? "metadata").bind fun metadata => metadata.get? space).bind
    fun members => members.get? name

theorem Json.get?_eq_members (v : Json) (key : String) :
    v.get? key = Assoc.get? (v.members?.getD []) key := by
  cases v <;> rfl

/-- A pact document has the metadata as they are, but for the section of the version. -/
theorem noteAt?_toJson (c : Contract) (space name : String) :
    noteAt? c.toJson space name =
      if space = "pactSpecification" then c.metadata.versionJson.get? name
      else Assoc.get? (c.metadata.sectionMembers space) name := by
  obtain ⟨members, hmembers, -, -, -, hmetadata⟩ := c.members_toJson
  have hdocument : c.toJson.get? "metadata" = some c.metadata.toJson := by
    rw [Json.get?_eq_members, hmembers]
    exact hmetadata
  have hsection : c.metadata.toJson.get? space =
      if "pactSpecification" = space then some c.metadata.versionJson
      else c.metadata.extra.get? space :=
    Dict.get?_insert _ _ _ _
  rw [noteAt?, hdocument, Option.bind_some, hsection]
  by_cases hspace : space = "pactSpecification"
  · rw [if_pos hspace, if_pos hspace.symm, Option.bind_some]
  · rw [if_neg hspace, if_neg (Ne.symm hspace), Metadata.sectionMembers]
    cases c.metadata.extra.get? space with
    | none => rfl
    | some v => exact v.get?_eq_members name

theorem Metadata.get?_versionJson (m : Metadata) (name : String) :
    m.versionJson.get? name =
      if name = "version" then some (.string (m.specVersion.getD defaultVersion)) else none := by
  rw [versionJson, Json.get?_ofMembers, List.reverse_singleton, Assoc.get?_cons, Assoc.get?_nil]
  simp only [eq_comm]

/-! ## Notes in histories -/

namespace Session

open DraftTable

/-- The text that a call with its answer put among the metadata of a contract. -/
def noted? (pact : PactHandle) : Answered → Option Note
  | (.withMetadata handle space name value, .truth true) =>
    if handle = pact then do
      return { space := ← space.text?, name := ← name.text?, value := ← value.text? }
    else none
  | _ => none

/-- The texts that calls put among the metadata of a contract, in order. -/
def notesIn (pact : PactHandle) (h : List Answered) : List Note :=
  h.filterMap (noted? pact)

theorem metadata_adjust (c : Contract) (number : Nat) (f : Interaction → Interaction) :
    (c.adjust number f).metadata = c.metadata := by
  rw [Contract.adjust]
  split <;> rfl

/-- A call on metadata is taken when its arguments are there and the contract can be changed. -/
theorem withMetadata_value (s : Session) (pact : PactHandle) (space name value : Argument) :
    (s.withMetadata pact space name value).value =
      (space.text?.isSome && name.text?.isSome && value.text?.isSome &&
        (s.table.openDraft? pact).isSome) := by
  rw [withMetadata]
  cases space.text? <;> cases name.text? <;> cases value.text? <;>
    simp [withTable, DraftTable.value_withMetadata]

/-- What a call leaves of the metadata of a contract: they are as they were, or have a further
    text. -/
theorem metadata_after {s : Session} {pact : PactHandle} {draft : Draft}
    (hdraft : s.table.draft? pact = some draft) (call : Call) :
    let answer := (s.perform call).value
    (call.after pact answer draft).contract.metadata =
      draft.contract.metadata.withNotes (noted? pact (call, answer)).toList := by
  intro answer
  cases call with
  | newPact | createForPact => simp [Call.after, Call.on, noted?, Metadata.withNotes]
  | newInteraction handle description =>
    simp only [Call.after, Call.on, noted?]
    split
    · rfl
    · split <;> rfl
  | edit handle e =>
    simp only [Call.after, Call.on, noted?]
    split
    · rfl
    · split
      · exact metadata_adjust _ _ _
      · rfl
  | withMetadata handle space name value =>
    have hanswer : answer = .truth (space.text?.isSome && name.text?.isSome &&
        value.text?.isSome && (s.table.openDraft? handle).isSome) :=
      congrArg Answer.truth (s.withMetadata_value handle space name value)
    rw [hanswer]
    by_cases hpact : handle = pact
    · subst hpact
      have hopen : (s.table.openDraft? handle).isSome = !draft.frozen := by
        rw [openDraft?, hdraft, Option.filter_some]
        cases draft.frozen <;> rfl
      rw [hopen]
      simp only [Call.after, Call.on, Call.described, if_true]
      cases draft.frozen <;> cases hspace : space.text? <;> cases hname : name.text? <;>
        cases hvalue : value.text? <;> simp [noted?, hspace, hname, hvalue, Metadata.withNotes,
          Metadata.withNote]
    · have hnone (taken : Bool) :
          noted? pact (.withMetadata handle space name value, .truth taken) = none := by
        cases taken with
        | true => exact if_neg hpact
        | false => rfl
      rw [hnone]
      simp only [Call.after, Call.on, if_neg hpact, ite_self]
      rfl

/-- The metadata after calls are those before, with the texts that were put there. -/
theorem metadata_run {s : Session} {pact : PactHandle} {draft : Draft}
    (hdraft : s.table.draft? pact = some draft) (calls : List Call) :
    ∃ c, (s.run calls).table.contract? pact = some c ∧
      c.metadata = draft.contract.metadata.withNotes (notesIn pact (s.history calls)) := by
  induction calls generalizing s draft with
  | nil => exact ⟨draft.contract, congrArg (Option.map Draft.contract) hdraft, rfl⟩
  | cons call calls ih =>
    have hafter : (s.perform call).session.table.draft? pact =
        some (call.after pact (s.perform call).value draft) := by
      rw [draft?_perform, hdraft, Option.map_some, Option.some_or]
    obtain ⟨c, hc, hmetadata⟩ := ih hafter
    refine ⟨c, hc, ?_⟩
    have hnotes : notesIn pact (s.history (call :: calls)) =
        (noted? pact (call, (s.perform call).value)).toList ++
          notesIn pact ((s.perform call).session.history calls) := by
      rw [history, notesIn, List.filterMap_cons]
      cases noted? pact (call, (s.perform call).value) <;> rfl
    rw [hmetadata, metadata_after hdraft, hnotes]
    exact List.foldl_append.symm

/-- Of the texts that calls put under a name in a section of a new contract, the pact document has
    the last one, unless the section is that of the version: there stands the version that is written
    for every contract without one. -/
theorem noted_run (s : Session) (consumer provider : Argument) (calls : List Call) :
    let begun := s.newPact consumer provider
    let notes := notesIn begun.value (begun.session.history calls)
    ∃ c, (begun.session.run calls).table.contract? begun.value = some c ∧
      ∀ space name value, Note.last? notes space name = some value →
        (noteAt? c.toJson space name = some (.string value) ↔
          space ≠ "pactSpecification" ∨
            name = "version" ∧ value = Metadata.defaultVersion) := by
  intro begun notes
  have hbegun : begun.session.table.draft? begun.value =
      some { contract := { consumer := consumer.textOrEmpty,
                           provider := provider.textOrEmpty } } := by
    change (s.table.newPact _ _).table.draft? ⟨s.table.drafts.length + 1⟩ = _
    rw [draft?_newPact, if_pos rfl]
  obtain ⟨c, hc, hmetadata⟩ := metadata_run hbegun calls
  refine ⟨c, hc, fun space name value hlast => ?_⟩
  rw [noteAt?_toJson, hmetadata]
  by_cases hspace : space = "pactSpecification"
  · -- the version is not among the texts, so it is that of a contract without one
    rw [if_pos hspace, Metadata.get?_versionJson, Metadata.specVersion_withNotes]
    by_cases hname : name = "version"
    · simp [hspace, hname, eq_comm]
    · simp [hspace, hname]
  · rw [if_neg hspace, Metadata.get?_sectionMembers_withNotes]
    have hwritten : Note.last? notes space name = some value := hlast
    simp only [notes] at hwritten
    simp [hwritten, hspace]

/-- Calls that put texts among the metadata of the contract behind the first handle. -/
def noteCalls (notes : List Note) : List Call :=
  let text (s : String) : Argument := some (Bytes.ofString s)
  notes.map fun note => .withMetadata ⟨1⟩ (text note.space) (text note.name) (text note.value)

/-- A name that is noted again has the later text, also when another name came between. -/
theorem noted_run_again :
    let begun := ({} : Session).newPact none none
    let notes : List Note :=
      [⟨"tool", "name", "a"⟩, ⟨"tool", "version", "1"⟩, ⟨"tool", "name", "b"⟩]
    ∃ c, (begun.session.run (noteCalls notes)).table.contract? ⟨1⟩ = some c ∧
      noteAt? c.toJson "tool" "name" = some (.string "b") := by
  intro begun notes
  have hlast : Note.last? (notesIn ⟨1⟩ (begun.session.history (noteCalls notes))) "tool" "name" =
      some "b" := by decide +kernel
  obtain ⟨c, hc, hwritten⟩ := noted_run {} none none (noteCalls notes)
  exact ⟨c, hc, (hwritten "tool" "name" "b" hlast).2 (Or.inl (by decide))⟩

/-- A text is taken in the section of the version too, and the document does not have it. -/
theorem not_noted_run :
    ¬ ∀ notes : List Note,
      let begun := ({} : Session).newPact none none
      (∀ answered ∈ begun.session.history (noteCalls notes), answered.2.isRefusal = false) →
      ∀ c, (begun.session.run (noteCalls notes)).table.contract? ⟨1⟩ = some c →
        ∀ note, notes.getLast? = some note →
          noteAt? c.toJson note.space note.name = some (.string note.value) := by
  intro hclaim
  let note : Note := ⟨"pactSpecification", "revision", "2"⟩
  let begun := ({} : Session).newPact none none
  have hanswers : ∀ answered ∈ begun.session.history (noteCalls [note]),
      answered.2.isRefusal = false := by decide +kernel
  have hc : (begun.session.run (noteCalls [note])).table.contract? ⟨1⟩ = some
      { consumer := "", provider := ""
        metadata.extra := .ofList
          [("pactSpecification", .object [("revision", .string "2")])] } := by decide +kernel
  have hwritten := hclaim [note] hanswers _ hc note rfl
  revert hwritten
  decide +kernel

end Session

end MockProvider
