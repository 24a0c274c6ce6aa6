import MockProvider.Proofs.Contract.Steady
import MockProvider.Proofs.Files.PactRuns

/-!
# Writing a contract again

A contract is written into a directory where it has no pact file yet, and then once more. The
second call folds the contract into what the file is read as. It finds every interaction there and
puts the metadata of the contract in the place of those that were read, so it writes the same text
again, unless two interactions of the contract have one key and two documents: `write_again`.
-/

namespace MockProvider.PactFile

open FileTree

/-- The contract to write where a contract is read from the file at the path. -/
theorem contractFor_of_file {files : FileTree} {path text : String} {place : Place}
    {existing merged : Contract} {conflict : Option Conflict} (c : Contract)
    (hplace : files.placeOf path = .ok place) (hnode : files.node? place = some (.file text))
    (hexisting : Contract.ofText text = .ok existing)
    (hmerge : existing.merge c = (merged, conflict)) :
    contractFor files path false c =
      match conflict with
      | none => .ok merged
      | some conflict => .error (.contract (.mergeConflict conflict)) := by
  have hcontains := contains_of_placeOf hplace hnode
  have hread := read_of_placeOf hplace hnode
  unfold contractFor updated
  simp only [hcontains, hread, hexisting, hmerge, Bool.not_false, Bool.and_self, if_true, bind,
    Except.bind, Except.mapError]
  cases conflict <;> rfl

/-- Where the file of a steady contract holds its own document, the contract to write is the one
    that comes back from it with its metadata put back, unless the contract conflicts with itself. -/
theorem contractFor_again {text : String} {c : Contract} (hread : Contract.ofText text = .ok c)
    (h : c.Steady) {files : FileTree} {path : String} {place : Place}
    (hplace : files.placeOf path = .ok place)
    (hnode : files.node? place = some (.file c.toJson.toPrettyText)) :
    (c.Consistent ∧ contractFor files path false c = .ok c.restored) ∨
      ¬ c.Consistent ∧ ∃ description, contractFor files path false c =
        .error (.contract (.mergeConflict (.interaction description))) := by
  -- what the file is read as does not depend on whether the contract is consistent
  have hexisting := h.ofText_toPrettyText hread
  rcases Contract.merge_returned fun i hi => h.toJson_returned hread hi with
    ⟨hconsistent, hmerge⟩ | ⟨hconflict, description, hmerge⟩
  · exact Or.inl ⟨hconsistent, contractFor_of_file c hplace hnode hexisting hmerge⟩
  · exact Or.inr ⟨hconflict, description, contractFor_of_file c hplace hnode hexisting hmerge⟩

/-- Nothing is written for a contract that cannot be folded into what is there. -/
theorem write_of_contractFor_error {files : FileTree} {c : Contract} {directory : String}
    {overwrite : Bool} {fault : WriteFault}
    (h : contractFor files (FilePath.join directory c.fileName) overwrite c = .error fault) :
    write files c directory overwrite =
      ⟨files, .error (.write (FilePath.join directory c.fileName) fault)⟩ := by
  simp only [write, h]

theorem Done.node?_place {files : FileTree} {c contract : Contract} {directory : String}
    {overwrite : Bool} {place : Place} (h : Done files c directory overwrite contract place) :
    (write files c directory overwrite).files.node? place =
      some (.file contract.toJson.toPrettyText) := by
  rw [h.files_eq, node?_put (ne_nil_of_node? h.notDirectory), if_pos rfl]

/-- After a call that was done the directory is not made again. -/
theorem Done.makeDirectories_after {files : FileTree} {c contract : Contract} {directory : String}
    {overwrite : Bool} {place : Place} (h : Done files c directory overwrite contract place) :
    (write files c directory overwrite).files.makeDirectories directory =
      ⟨(write files c directory overwrite).files, none⟩ := by
  obtain ⟨steps, hsteps⟩ := checked_of_makeDirectories h.noFault
  have hstands := makeDirectories_stands h.noFault
  rw [h.files_eq]
  exact (hstands.mono (directories_put h.notDirectory)).makeDirectories_eq hsteps

/-- A call that was done, made again with a contract to write that has the same document, is done
    again and leaves everything as it is. -/
theorem Done.again {files : FileTree} {c contract contract' : Contract} {directory : String}
    {overwrite : Bool} {place : Place} (h : Done files c directory overwrite contract place)
    (hcontract : PactFile.contractFor (write files c directory overwrite).files
      (FilePath.join directory c.fileName) overwrite c = .ok contract')
    (hjson : contract'.toJson = contract.toJson) :
    (∀ other, (write (write files c directory overwrite).files c directory overwrite).files.node?
      other = (write files c directory overwrite).files.node? other) ∧
    (write (write files c directory overwrite).files c directory overwrite).result =
      .ok (FilePath.join directory c.fileName) := by
  have hmade := h.makeDirectories_after
  have hnode := h.node?_place
  -- the directory stands and a file is at the place, so the second call meets no fault
  have hdone : Done (write files c directory overwrite).files c directory overwrite contract'
      place := by
    refine ⟨hcontract, ?_, ?_, ?_⟩
    · rw [hmade]
    · rw [hmade]
      exact h.placeOf_after
    · rw [hmade, hnode]
      simp
  constructor
  · intro other
    rw [hdone.files_eq, hmade, node?_put (ne_nil_of_node? h.notDirectory), hjson]
    split
    · next hother => rw [hother, hnode]
    · rfl
  · rw [hdone.write_eq]

/-- The second of two calls with a steady contract that had no pact file: it is done and changes
    nothing, or it finds that the contract conflicts with itself. -/
theorem second_call {text : String} {c : Contract} (hread : Contract.ofText text = .ok c)
    (h : c.Steady) {files : FileTree} {directory path : String}
    (habsent : files.contains (FilePath.join directory c.fileName) = false)
    (hfirst : (write files c directory false).result = .ok path) :
    let first := (write files c directory false).files
    let second := write first c directory false
    (c.Consistent ∧ (∀ place, second.files.node? place = first.node? place) ∧
      second.result = .ok path) ∨
    ¬ c.Consistent ∧ ∃ description, second =
      ⟨first, .error (.write path (.contract (.mergeConflict (.interaction description))))⟩ := by
  intro first second
  obtain ⟨contract, place, hdone⟩ := done_of_result hfirst
  -- nothing was there to be folded into, so the file holds the contract as it is
  obtain rfl := hdone.eq_of_absent habsent
  obtain rfl := hdone.result_eq hfirst
  rcases contractFor_again hread h hdone.placeOf_after hdone.node?_place with
    ⟨hconsistent, hcontract⟩ | ⟨hconflict, description, hcontract⟩
  · obtain ⟨hsame, hresult⟩ := hdone.again hcontract (h.toJson_restored hread)
    exact Or.inl ⟨hconsistent, hsame, hresult⟩
  · exact Or.inr ⟨hconflict, description, write_of_contractFor_error hcontract⟩

/-- A steady contract that has been written where it had no pact file is written again without any
    change, if interactions with one key have one document. If not, the second call finds that the
    contract conflicts with itself. Either way every file and directory stays as it is. -/
theorem write_again {text : String} {c : Contract} (hread : Contract.ofText text = .ok c)
    (h : c.Steady) {files : FileTree} {directory path : String}
    (habsent : files.contains (FilePath.join directory c.fileName) = false)
    (hfirst : (write files c directory false).result = .ok path) :
    let first := (write files c directory false).files
    let second := write first c directory false
    (∀ place, second.files.node? place = first.node? place) ∧
      (c.Consistent → second.result = .ok path) ∧
      (¬ c.Consistent → ∃ description, second.result =
        .error (.write path (.contract (.mergeConflict (.interaction description))))) := by
  intro first second
  rcases second_call hread h habsent hfirst with
    ⟨hconsistent, hsame, hresult⟩ | ⟨hconflict, description, hfailed⟩
  · exact ⟨hsame, fun _ => hresult, fun hconflict => absurd hconsistent hconflict⟩
  · have hsecond : second = _ := hfailed
    rw [hsecond]
    exact ⟨fun _ => rfl, fun hconsistent => absurd hconsistent hconflict,
      fun _ => ⟨description, rfl⟩⟩

/-- A text with two interactions without descriptions, for two requests, and with metadata. -/
def twoRequests (first second metadata : String) : String :=
  "\x7b\"interactions\":[\x7b\"request\":" ++ first ++ "\x7d,\x7b\"request\":" ++ second ++
    "\x7d],\"metadata\":" ++ metadata ++ "\x7d"

/-- The contract of the text, for two paths. -/
def twoPaths (first second : String) (metadata : Metadata) : Contract where
  interactions := [{ request := { path := first } }, { request := { path := second } }]
  metadata := metadata

theorem steady_twoPaths (first second : String) (metadata : Metadata) :
    (twoPaths first second metadata).Steady where
  unquoted i hi := by
    simp only [twoPaths, List.mem_cons, List.not_mem_nil, or_false] at hi
    rcases hi with rfl | rfl <;> exact ⟨(fun _ he => nomatch he), (fun _ he => nomatch he)⟩
  bodies i hi := by
    simp only [twoPaths, List.mem_cons, List.not_mem_nil, or_false] at hi
    rcases hi with rfl | rfl <;> exact ⟨trivial, trivial⟩

/-- Metadata with the number 7.773971822959025e-91, in whose place the one below it is read. -/
def tiny : Metadata where
  extra := .ofList [("x", .number (.float ⟨false, 3258730768408179046, by decide⟩))]

theorem ofText_twoRequests :
    Contract.ofText (twoRequests "\x7b\x7d" "\x7b\x7d" "\x7b\"x\":7.773971822959025e-91\x7d") =
        .ok (twoPaths "/" "/" tiny) ∧
      Contract.ofText (twoRequests "\x7b\x7d" "\x7b\"path\":\"/a\"\x7d" "\x7b\x7d") =
        .ok (twoPaths "/" "/a" {}) := by
  decide +kernel

/-- Two equal interactions are written twice, next to metadata that are not read back. -/
theorem write_again_same :
    let c := twoPaths "/" "/" tiny
    Contract.ofText (twoRequests "\x7b\x7d" "\x7b\x7d" "\x7b\"x\":7.773971822959025e-91\x7d") =
        .ok c ∧
      c.metadata.reread ≠ c.metadata ∧ c.Steady ∧ c.Consistent ∧
      (write {} c "pacts" false).result = .ok "pacts/-.json" ∧
      (∀ place, (write (write {} c "pacts" false).files c "pacts" false).files.node? place =
        (write {} c "pacts" false).files.node? place) ∧
      (write (write {} c "pacts" false).files c "pacts" false).result = .ok "pacts/-.json" := by
  intro c
  have hconsistent : c.Consistent := by
    intro i hi j hj _
    simp only [c, twoPaths, List.mem_cons, List.not_mem_nil, or_false, or_self] at hi hj
    rw [hi, hj, Json.beq_self]
  have hsteady : c.Steady := steady_twoPaths "/" "/" tiny
  have hother : c.metadata.reread ≠ c.metadata := by decide +kernel
  have hfirst : (write {} c "pacts" false).result = .ok "pacts/-.json" := by decide +kernel
  have hsecond := write_again ofText_twoRequests.1 hsteady (by decide +kernel) hfirst
  exact ⟨ofText_twoRequests.1, hother, hsteady, hconsistent, hfirst, hsecond.1,
    hsecond.2.1 hconsistent⟩

/-- Not every contract that was read can be written twice: with two requests under one key the
    second call fails. -/
theorem second_call_conflicts :
    let c := twoPaths "/" "/a" {}
    Contract.ofText (twoRequests "\x7b\x7d" "\x7b\"path\":\"/a\"\x7d" "\x7b\x7d") = .ok c ∧
      (write {} c "pacts" false).result = .ok "pacts/-.json" ∧
      ∀ path, (write (write {} c "pacts" false).files c "pacts" false).result ≠ .ok path := by
  intro c
  have hconflict : ¬ c.Consistent := by
    intro h
    have hsame := h _ List.mem_cons_self _ (List.mem_cons_of_mem _ List.mem_cons_self) rfl
    exact absurd hsame (by decide +kernel)
  have hfirst : (write {} c "pacts" false).result = .ok "pacts/-.json" := by decide +kernel
  refine ⟨ofText_twoRequests.2, hfirst, fun path hsecond => ?_⟩
  rcases second_call ofText_twoRequests.2 (steady_twoPaths "/" "/a" {}) (by decide +kernel)
    hfirst with ⟨hconsistent, -⟩ | ⟨-, description, hfailed⟩
  · exact hconflict hconsistent
  · rw [hfailed] at hsecond
    cases hsecond

end MockProvider.PactFile
