import MockProvider.Proofs.Contract.FirstDefect
import MockProvider.Proofs.Contract.Storing
import MockProvider.Proofs.Handles.Histories

/-!
# Reading back contracts that were built

Calls put a contract together part by part, and nothing is checked as a whole. What they leave alone
is enough all the same for its pact document to be read: interactions have no rules, methods are in
upper case, and metadata hold texts only (`Contract.Built`, `built_run`). The one thing that a
reader asks for and no call sees to is a status of three digits. So contracts come back with their
parties and the keys of their interactions, or are refused for the first status that is out of range
(`rereads_run`).
-/

namespace MockProvider

/-- The status has three digits. -/
def Response.InRange (r : Response) : Prop :=
  100 ≤ r.status.toNat ∧ r.status.toNat ≤ 999

instance (r : Response) : Decidable r.InRange :=
  inferInstanceAs (Decidable (_ ∧ _))

/-! ## What calls leave -/

namespace Interaction

/-- What every edit of an interaction leaves: no rules, and a method in upper case. -/
structure Built (i : Interaction) : Prop where
  requestRules : i.request.rules = .empty
  responseRules : i.response.rules = .empty
  method : Ascii.upper i.request.method = i.request.method

theorem built_new (description : String) : Built { description } where
  requestRules := rfl
  responseRules := rfl
  method := by
    have hget : Ascii.upper "GET" = "GET" := by decide
    exact hget

theorem rules_withMessage {i : Interaction} {part : Part} {m : Message}
    (h : m.rules = (i.message part).rules) :
    (i.withMessage part m).request.rules = i.request.rules ∧
      (i.withMessage part m).response.rules = i.response.rules := by
  cases part with
  | request => exact ⟨h, rfl⟩
  | response => exact ⟨rfl, h⟩

theorem method_withMessage (i : Interaction) (part : Part) (m : Message) :
    (i.withMessage part m).request.method = i.request.method := by
  cases part <;> rfl

end Interaction

namespace Session.Edit

/-- No edit is about rules. -/
theorem rules_applied (e : Edit) (i : Interaction) :
    (e.applied i).request.rules = i.request.rules ∧
      (e.applied i).response.rules = i.response.rules := by
  have hkeeps := e.keeps_applied i
  generalize e.applied i = i' at hkeeps
  cases e with
  | describe | given | target | status =>
    rw [hkeeps]
    exact ⟨rfl, rfl⟩
  | query =>
    rw [hkeeps.1]
    exact ⟨rfl, rfl⟩
  | header | body =>
    rw [hkeeps.1]
    exact Interaction.rules_withMessage rfl

/-- The one edit that sets the method puts it into upper case. -/
theorem upper_applied (e : Edit) {i : Interaction}
    (h : Ascii.upper i.request.method = i.request.method) :
    Ascii.upper (e.applied i).request.method = (e.applied i).request.method := by
  have hkeeps := e.keeps_applied i
  cases e with
  | target method path => exact Ascii.upper_upper _
  | describe | given | status =>
    rw [hkeeps]
    exact h
  | query =>
    rw [hkeeps.1]
    exact h
  | header | body =>
    rw [hkeeps.1, Interaction.method_withMessage]
    exact h

theorem built_applied (e : Edit) {i : Interaction} (h : i.Built) : (e.applied i).Built where
  requestRules := (e.rules_applied i).1.trans h.requestRules
  responseRules := (e.rules_applied i).2.trans h.responseRules
  method := e.upper_applied h.method

end Session.Edit

/-- A text that is added to metadata nests no deeper than any section. -/
theorem Metadata.Fits.withText {P : Number → Prop} {m : Metadata} (h : m.Fits P)
    (space name value : String) : (m.withText space name value).Fits P := by
  have hsection : (Json.object (m.sectionMembers space)).Fits P (Body.maxDepth + 2) := by
    rw [sectionMembers]
    cases hmembers : (m.extra.get? space).bind Json.members? with
    | none => exact ⟨⟨List.Pairwise.nil, trivial⟩, Nat.succ_le_succ (Nat.zero_le _), trivial⟩
    | some members =>
      obtain ⟨found, hfound, hobject⟩ := Option.bind_eq_some_iff.1 hmembers
      rw [Option.getD_some, ← Json.eq_object_of_members? hobject]
      exact h (space, found) (Assoc.mem_of_get? hfound)
  intro entry hentry
  rcases Assoc.mem_insert hentry with rfl | hmem
  · exact hsection.insert (Json.Fits.string _ value) name
  · exact h entry hmem

namespace Contract

/-- What calls leave of a contract. -/
structure Built (c : Contract) : Prop where
  interactions : ∀ i ∈ c.interactions, i.Built
  metadata : c.metadata.Fits Number.Rereads

theorem built_new (consumer provider : String) : Built { consumer, provider } where
  interactions := fun _ hmem => nomatch hmem
  metadata := fun _ hmem => nomatch hmem

theorem Built.adjust {c : Contract} (h : c.Built) (number : Nat) {f : Interaction → Interaction}
    (hf : ∀ i : Interaction, i.Built → (f i).Built) : (c.adjust number f).Built := by
  rw [Contract.adjust]
  split
  · next i hi =>
    have hmem : i ∈ c.interactions := by
      cases number with
      | zero => cases hi
      | succ position => exact List.mem_of_getElem? hi
    refine ⟨fun other hother => ?_, h.metadata⟩
    rcases List.mem_or_eq_of_mem_set hother with hkept | rfl
    · exact h.interactions other hkept
    · exact hf i (h.interactions i hmem)
  · exact h

end Contract

/-- Every contract in the table was built by calls. -/
def DraftTable.Built (t : DraftTable) : Prop :=
  ∀ pact draft, t.draft? pact = some draft → draft.contract.Built

namespace Session

open DraftTable

theorem Call.built_on (call : Call) (pact : PactHandle) {c : Contract} (h : c.Built) :
    (call.on pact c).Built := by
  cases call with
  | newPact | createForPact => exact h
  | newInteraction handle description =>
    rw [on]
    split
    · refine ⟨fun i hi => ?_, h.metadata⟩
      rcases List.mem_append.1 hi with hkept | hnew
      · exact h.interactions i hkept
      · rw [List.mem_singleton.1 hnew]
        exact Interaction.built_new _
    · exact h
  | edit handle e =>
    rw [on]
    split
    · exact h.adjust handle.interaction fun i hi => e.built_applied hi
    · exact h
  | withMetadata handle space name value =>
    rw [on]
    split
    · refine ⟨h.interactions, ?_⟩
      change (described c.metadata space name value).Fits Number.Rereads
      rw [described]
      split
      · exact h.metadata.withText _ _ _
      · exact h.metadata
    · exact h

theorem Call.built_begun {call : Call} {t : DraftTable} {pact : PactHandle} {draft : Draft}
    (h : call.begun? t pact = some draft) : draft.contract.Built := by
  cases call with
  | newPact consumer provider =>
    rw [begun?] at h
    split at h
    · cases h
      exact Contract.built_new _ _
    · cases h
  | newInteraction | edit | withMetadata | createForPact => cases h

/-- A call acts on contracts that were built, or begins one. -/
theorem built_perform {s : Session} (h : s.table.Built) (call : Call) :
    (s.perform call).session.table.Built := by
  intro pact draft hdraft
  rw [draft?_perform] at hdraft
  rcases Option.or_eq_some_iff.1 hdraft with hthere | ⟨-, hbegun⟩
  · obtain ⟨old, hold, rfl⟩ := Option.map_eq_some_iff.1 hthere
    have hbuilt := h pact old hold
    rw [Call.after]
    split
    · exact hbuilt
    · exact call.built_on pact hbuilt
  · exact Call.built_begun hbegun

theorem built_run {s : Session} (h : s.table.Built) (calls : List Call) :
    (s.run calls).table.Built := by
  induction calls generalizing s with
  | nil => exact h
  | cons call calls ih => exact ih (built_perform h call)

end Session

/-! ## Reading what was built -/

namespace Interaction

theorem Built.readable_request {i : Interaction} (h : i.Built) : i.request.Readable := by
  have hrules : i.request.rules.WellFormed := h.requestRules ▸ RuleTable.wellFormed_empty
  have hunquoted : i.request.rules.Unquoted := h.requestRules ▸ fun _ hentry => nomatch hentry
  exact ⟨⟨hrules, hunquoted⟩, h.method⟩

theorem Built.readable {i : Interaction} (h : i.Built) (hstatus : i.response.InRange) :
    i.Readable := by
  have hrules : i.response.rules.WellFormed := h.responseRules ▸ RuleTable.wellFormed_empty
  have hunquoted : i.response.rules.Unquoted := h.responseRules ▸ fun _ hentry => nomatch hentry
  exact ⟨h.readable_request, ⟨hrules, hunquoted⟩, hstatus⟩

/-- An interaction without a status of three digits is refused for nothing else. -/
theorem Built.ofJson_toJson_of_status {i : Interaction} (h : i.Built)
    (hstatus : ¬ i.response.InRange) (location : Location) :
    ofJson location i.toJson =
      .error (.invalidField ((location.field "response").field "status") .notStatus) := by
  obtain ⟨members, hmembers, hdescription, hrequest, hresponse, hsnake, hcamel, hlist⟩ :=
    i.members_toJson
  have hstate := stateOf_toJson location hsnake hcamel hlist
  have hreadRequest := h.readable_request.ofJson_toPactJson (location.field "request")
  have hrefused := Response.ofJson_toPactJson_of_status hstatus (location.field "response")
  simp only [ofJson, hmembers, Message.optionalString, hdescription, hstate, hrequest, hresponse,
    hreadRequest, hrefused, bind, Except.bind]

end Interaction

namespace Contract

/-- Where the status at a position in a contract stands in its document. -/
def statusAt (position : Nat) : Location :=
  ((Location.item ⟨"interactions"⟩ position).field "response").field "status"

/-- Behind interactions that can be read, one without a status of three digits is refused. -/
theorem firstRefused_of_status {front back : List Interaction} {i : Interaction}
    (hfront : ∀ j ∈ front, j.Readable) (hi : i.Built) (hstatus : ¬ i.response.InRange) :
    FirstRefused ((front ++ i :: back).map Interaction.toJson) front.length i.toJson
      (.invalidField (statusAt front.length) .notStatus) where
  there := by simp
  before earlier hearlier := by
    rw [List.map_append, List.take_left' (List.length_map _)] at hearlier
    obtain ⟨j, hj, rfl⟩ := List.mem_map.1 hearlier
    exact ⟨j.decoded, (hfront j hj).ofJson_toJson⟩
  refused := hi.ofJson_toJson_of_status hstatus _

/-- What a reader makes of the pact document of a contract. -/
structure Rereads (c : Contract) : Prop where
  /-- Where all statuses have three digits, the parties and the keys of the interactions come
      back. -/
  kept : (∀ i ∈ c.interactions, i.response.InRange) →
    ∃ c', ofJson c.toJson = .ok c' ∧ c'.consumer = c.consumer ∧ c'.provider = c.provider ∧
      c'.interactions.map Interaction.key = c.interactions.map Interaction.key
  /-- Otherwise the first status that has not three digits is refused. -/
  refused : ∀ front i back, c.interactions = front ++ i :: back →
    (∀ j ∈ front, j.response.InRange) → ¬ i.response.InRange →
      ofJson c.toJson = .error (.invalidField (statusAt front.length) .notStatus)
  /-- The text of the document is read like the document, when it holds the bodies. -/
  stored : (∀ i ∈ c.interactions,
      i.request.toMessage.BodyFits Number.Rereads ∧ i.response.toMessage.BodyFits Number.Rereads) →
    ofText c.toJson.toPrettyText = ofJson c.toJson

theorem Built.rereads {c : Contract} (h : c.Built) : c.Rereads where
  kept hstatuses := by
    have hreadable : ∀ i ∈ c.interactions, i.Readable :=
      fun i hi => (h.interactions i hi).readable (hstatuses i hi)
    refine ⟨{ c with interactions := c.interactions.map Interaction.decoded
                     metadata := Metadata.ofJson (some c.metadata.toJson) }, ?_, rfl, rfl, ?_⟩
    · rw [ofJson_toJson_eq, interactionsFrom_toJson hreadable]
      rfl
    · exact List.map_map
  refused front i back hsplit hfront hstatus := by
    have hbuilt := h.interactions
    rw [hsplit] at hbuilt
    have hreadable : ∀ j ∈ front, j.Readable := fun j hj =>
      (hbuilt j (List.mem_append_left _ hj)).readable (hfront j hj)
    have hi : i.Built := hbuilt i (List.mem_append_right _ List.mem_cons_self)
    rw [ofJson_toJson_eq, hsplit, map_eq_error, interactionsFrom_eq_error_iff]
    exact ⟨_, _, firstRefused_of_status hreadable hi hstatus⟩
  stored hbodies :=
    ofText_eq_ofJson (storable_toJson hbodies h.metadata).parseText_toPrettyText

end Contract

namespace Session

/-- What any calls built, from a table that was empty, is read back with its parties and the keys of
    its interactions, or refused for its first status that is out of range. -/
theorem rereads_run (registry : Registry) (files : FileTree) (environment : Config.Environment)
    (calls : List Call) {pact : PactHandle} {c : Contract}
    (hc : (({ registry, files, environment } : Session).run calls).table.contract? pact = some c) :
    c.Rereads := by
  have hempty : DraftTable.Built {} := by
    intro pact draft hdraft
    rw [DraftTable.draft?_empty] at hdraft
    cases hdraft
  obtain ⟨draft, hdraft, rfl⟩ := Option.map_eq_some_iff.1 hc
  exact (built_run (s := { registry, files, environment }) hempty calls pact draft hdraft).rereads

/-- Calls for a contract with one interaction, its status, a body and a version among the metadata. -/
def statusCalls (status : UInt16) : List Call :=
  let text (s : String) : Argument := some (Bytes.ofString s)
  [.newPact (text "c") (text "p"), .newInteraction ⟨1⟩ (text "d"),
    .edit ⟨1, 1⟩ (.target (text "post") none), .edit ⟨1, 1⟩ (.status status),
    .edit ⟨1, 1⟩ (.body .response (text "application/json") (text "[1]")),
    .withMetadata ⟨1⟩ (text "pactSpecification") (text "version") (text "4.0")]

def statusContract (status : UInt16) : Contract where
  consumer := "c"
  provider := "p"
  interactions :=
    [{ description := "d"
       request := { method := "POST" }
       response :=
        { status
          headers := some (.ofList [("Content-Type", ["application/json"])])
          body := .present (Bytes.ofString "[1]") .json } }]
  metadata := { extra := .ofList [("pactSpecification", .object [("version", .string "4.0")])] }

theorem rereads_run_notFound :
    (({} : Session).run (statusCalls 404)).table.contract? ⟨1⟩ = some (statusContract 404) ∧
      ∃ c', Contract.ofJson (statusContract 404).toJson = .ok c' ∧ c'.consumer = "c" ∧
        c'.provider = "p" ∧ c'.interactions.map Interaction.key = [("d", none)] := by
  have hc : (({} : Session).run (statusCalls 404)).table.contract? ⟨1⟩ =
      some (statusContract 404) := by decide +kernel
  have hrereads := rereads_run {} {} (fun _ => none) (statusCalls 404) hc
  exact ⟨hc, hrereads.kept (by decide)⟩

/-- No call refuses a status of two digits, and the contract that has it cannot be read back. -/
theorem not_reread_run :
    ¬ ∀ (calls : List Call) (pact : PactHandle) (c : Contract),
      (∀ answered ∈ ({} : Session).history calls, answered.2.isRefusal = false) →
      (({} : Session).run calls).table.contract? pact = some c →
      ∃ c', Contract.ofJson c.toJson = .ok c' := by
  intro hclaim
  have hanswers : ∀ answered ∈ ({} : Session).history (statusCalls 42),
      answered.2.isRefusal = false := by decide +kernel
  have hc : (({} : Session).run (statusCalls 42)).table.contract? ⟨1⟩ =
      some (statusContract 42) := by decide +kernel
  have hrefused : Contract.ofJson (statusContract 42).toJson =
      .error (.invalidField (Contract.statusAt 0) .notStatus) := by decide +kernel
  obtain ⟨c', hread⟩ := hclaim (statusCalls 42) ⟨1⟩ (statusContract 42) hanswers hc
  rw [hrefused] at hread
  cases hread

end Session

end MockProvider
