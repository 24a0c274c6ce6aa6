import MockProvider.Files.PactFile
import MockProvider.Proofs.Contract.Merging
import MockProvider.Proofs.Files.Trees

/-!
# Runs of writing pact files

Contracts are written into one directory, one after the other. A call that fails leaves all files
as they were. A call that succeeds changes its own file only, and what that file listed stays in
front. So the keys of interactions that were written once are never lost: `run_keys_kept`.
-/

namespace MockProvider.PactFile

open FileTree

/-! ## One call -/

/-- The contract to write is the given one where nothing stands at the path, and else comes from a
    merge with what stands there. -/
theorem contractFor_eq_ok {files : FileTree} {path : String} {c contract : Contract}
    (h : contractFor files path false c = .ok contract) :
    (files.contains path = false ∧ contract = c) ∨
      ∃ place text existing, files.placeOf path = .ok place ∧
        files.node? place = some (.file text) ∧ Contract.ofText text = .ok existing ∧
        existing.merge c = (contract, none) := by
  unfold contractFor at h
  -- one case for each check that is made before the merge
  cases hcontains : files.contains path with
  | false =>
    simp only [hcontains, Bool.and_false, Bool.false_eq_true, if_false] at h
    cases h
    exact Or.inl ⟨rfl, rfl⟩
  | true =>
    simp only [hcontains, Bool.not_false, Bool.and_self, if_true] at h
    cases hread : files.read path with
    | error fault =>
      rw [hread] at h
      cases h
    | ok text =>
      obtain ⟨place, hplace, hnode⟩ := read_eq_ok hread
      rw [hread] at h
      cases hexisting : Contract.ofText text with
      | error fault =>
        simp only [bind, Except.bind, Except.mapError, updated, hexisting] at h
        cases h
      | ok existing =>
        refine Or.inr ⟨place, text, existing, hplace, hnode, hexisting, ?_⟩
        simp only [bind, Except.bind, Except.mapError, updated, hexisting] at h
        cases hmerge : existing.merge c with
        | mk merged conflict =>
          rw [hmerge] at h
          cases conflict with
          | none =>
            cases h
            rfl
          | some conflict => cases h

/-- A call that fails has made directories at most. -/
theorem write_failed {files : FileTree} {c : Contract} {directory : String} {overwrite : Bool}
    {error : ServerError} (h : (write files c directory overwrite).result = .error error) :
    Extends files (write files c directory overwrite).files := by
  unfold write at h ⊢
  simp only at h ⊢
  split
  · exact Extends.refl files
  · split
    · exact makeDirectories_extends files directory
    · split
      -- past all checks the call has not failed
      · next hcontract _ hfault _ written hwritten =>
        simp only [hcontract, hfault, hwritten] at h
        cases h
      · exact makeDirectories_extends files directory

/-- What a call has done that did not fail: the directory was made, and the document of the
    contract stands at the place that the path leads to. -/
structure Done (files : FileTree) (c : Contract) (directory : String) (overwrite : Bool)
    (contract : Contract) (place : Place) : Prop where
  contractFor : contractFor files (FilePath.join directory c.fileName) overwrite c = .ok contract
  noFault : (files.makeDirectories directory).fault = none
  placeOf : (files.makeDirectories directory).tree.placeOf
    (FilePath.join directory c.fileName) = .ok place
  notDirectory : (files.makeDirectories directory).tree.node? place ≠ some .directory

namespace Done

variable {files : FileTree} {c contract : Contract} {directory : String} {overwrite : Bool}
  {place : Place}

/-- The tree and the answer of a call that was done. -/
theorem write_eq (h : Done files c directory overwrite contract place) :
    write files c directory overwrite =
      ⟨(files.makeDirectories directory).tree.put place (.file contract.toJson.toPrettyText),
        .ok (FilePath.join directory c.fileName)⟩ := by
  have hwritten := write_of_placeOf h.placeOf h.notDirectory contract.toJson.toPrettyText
  simp only [write, h.contractFor, h.noFault, hwritten]

theorem files_eq (h : Done files c directory overwrite contract place) :
    (write files c directory overwrite).files =
      (files.makeDirectories directory).tree.put place (.file contract.toJson.toPrettyText) := by
  rw [h.write_eq]

theorem result_eq (h : Done files c directory overwrite contract place) {path : String}
    (hresult : (write files c directory overwrite).result = .ok path) :
    path = FilePath.join directory c.fileName := by
  rw [h.write_eq] at hresult
  cases hresult
  rfl

theorem file?_eq (h : Done files c directory overwrite contract place) (other : Place) :
    (write files c directory overwrite).files.file? other =
      if other = place then some contract.toJson.toPrettyText else files.file? other := by
  rw [h.files_eq, file?_put (ne_nil_of_node? h.notDirectory),
    (makeDirectories_extends files directory).file?_eq]

/-- All directories that were there are still there. -/
theorem directories (h : Done files c directory overwrite contract place) :
    Directories files (write files c directory overwrite).files := by
  intro other hother
  rw [h.files_eq]
  have hmade := (makeDirectories_extends files directory).directories other hother
  exact directories_put h.notDirectory other hmade

/-- The path still leads to the place after the call. -/
theorem placeOf_after (h : Done files c directory overwrite contract place) :
    (write files c directory overwrite).files.placeOf (FilePath.join directory c.fileName) =
      .ok place := by
  rw [h.files_eq]
  exact placeOf_mono (directories_put h.notDirectory) h.placeOf

end Done

/-- A call that does not fail is done. -/
theorem done_of_result {files : FileTree} {c : Contract} {directory path : String}
    {overwrite : Bool} (h : (write files c directory overwrite).result = .ok path) :
    ∃ contract place, Done files c directory overwrite contract place := by
  unfold write at h
  simp only at h
  split at h
  · cases h
  · next contract hcontract =>
    split at h
    · cases h
    · next hfault =>
      split at h
      · next written hwritten =>
        obtain ⟨place, hplace, hnode, -⟩ := write_eq_ok hwritten
        exact ⟨contract, place, hcontract, hfault, hplace, hnode⟩
      · cases h

/-- A call keeps all directories, done or failed. -/
theorem write_directories (files : FileTree) (c : Contract) (directory : String)
    (overwrite : Bool) : Directories files (write files c directory overwrite).files := by
  cases hresult : (write files c directory overwrite).result with
  | error error => exact (write_failed hresult).directories
  | ok path =>
    obtain ⟨contract, place, hdone⟩ := done_of_result hresult
    exact hdone.directories

/-! ## No file is covered unread -/

/-- Where nothing is found at the path of a contract before the directory is made, no file is found
    there after that. So it is where the directory stands, and where paths lead down only. -/
def Settled (files : FileTree) (directory : String) (c : Contract) : Prop :=
  files.Stands directory ∨ files.Rooted ∧ Downward (FilePath.join directory c.fileName)

theorem Settled.uncovered {files : FileTree} {directory : String} {c : Contract}
    (h : Settled files directory c) {place : Place}
    (hcontains : files.contains (FilePath.join directory c.fileName) = false)
    (hplace : (files.makeDirectories directory).tree.placeOf
      (FilePath.join directory c.fileName) = .ok place) :
    files.file? place = none := by
  by_contra hfile
  obtain ⟨text, htext⟩ := Option.ne_none_iff_exists'.1 hfile
  have hnode := file?_eq_some_iff.1 htext
  -- a file at the place would have been found under the path
  have hbefore : files.placeOf (FilePath.join directory c.fileName) = .ok place := by
    rcases h with hstands | ⟨hrooted, hdown⟩
    · rwa [hstands.makeDirectories] at hplace
    · exact hrooted.placeOf_down hdown hplace hnode
  rw [contains_of_placeOf hbefore hnode] at hcontains
  cases hcontains

theorem write_rooted {files : FileTree} (h : files.Rooted) (c : Contract) (directory : String)
    (overwrite : Bool) : (write files c directory overwrite).files.Rooted := by
  unfold write
  simp only
  split
  · exact h
  · split
    · exact h.makeDirectories directory
    · split
      · next written hwritten =>
        obtain ⟨place, hplace, hnode, rfl⟩ := write_eq_ok hwritten
        obtain ⟨steps, -, hwalk⟩ := placeOf_eq_ok_iff.1 hplace
        have hmade := h.makeDirectories directory
        exact hmade.put (hmade.walk_parent node?_nil hwalk) hnode
      · exact h.makeDirectories directory

theorem Settled.write {files : FileTree} {directory : String} {c : Contract}
    (h : Settled files directory c) (other : Contract) (overwrite : Bool) :
    Settled (write files other directory overwrite).files directory c := by
  rcases h with hstands | ⟨hrooted, hdown⟩
  · exact Or.inl (hstands.mono (write_directories files other directory overwrite))
  · exact Or.inr ⟨write_rooted hrooted other directory overwrite, hdown⟩

/-! ## Keys in files -/

/-- The keys of the interactions that the document in a text lists. -/
def keysIn (text : String) : Option (List (String × Option String)) :=
  (Json.parseText text).toOption.map Contract.documentKeys

def keysAt (files : FileTree) (place : Place) : Option (List (String × Option String)) :=
  (files.file? place).bind keysIn

/-- What a contract is written as can be read again. -/
def Legible (c : Contract) : Prop :=
  Json.parseText c.toJson.toPrettyText = .ok c.toJson

theorem Legible.keysIn_eq {c : Contract} (h : Legible c) :
    keysIn c.toJson.toPrettyText = some (c.interactions.map Interaction.key) := by
  rw [keysIn, h, ← c.documentKeys_toJson]
  rfl

theorem keysIn_of_ofText {text : String} {c : Contract} (h : Contract.ofText text = .ok c) :
    keysIn text = some (c.interactions.map Interaction.key) := by
  obtain ⟨document, hdocument, hread⟩ := Contract.document_of_ofText h
  rw [keysIn, hdocument, ← Contract.documentKeys_of_ofJson hread]
  rfl

/-- A file that was there lists its keys in front of the new ones. -/
theorem Done.prefix_keys {files : FileTree} {c contract : Contract} {directory text : String}
    {place : Place} (h : Done files c directory false contract place)
    (hsettled : Settled files directory c) (htext : files.file? place = some text) :
    ∃ old, keysIn text = some old ∧ old <+: contract.interactions.map Interaction.key := by
  rcases contractFor_eq_ok h.contractFor with ⟨hcontains, -⟩ | hmerged
  · rw [hsettled.uncovered hcontains h.placeOf] at htext
    cases htext
  · obtain ⟨found, read, existing, hfound, hread, hexisting, hmerge⟩ := hmerged
    -- the path led to the same place before the directory was made
    have hplace := placeOf_mono (makeDirectories_extends files directory).directories hfound
    rw [h.placeOf] at hplace
    cases hplace
    rw [file?_eq_some_iff.2 hread] at htext
    cases htext
    exact ⟨_, keysIn_of_ofText hexisting, (Contract.merge_keys hmerge).1.map _⟩

/-- The contract that is written has all keys of the one that was given. -/
theorem Done.mem_keys {files : FileTree} {c contract : Contract} {directory : String}
    {place : Place} (h : Done files c directory false contract place) {i : Interaction}
    (hi : i ∈ c.interactions) : i.key ∈ contract.interactions.map Interaction.key := by
  rcases contractFor_eq_ok h.contractFor with ⟨-, rfl⟩ | hmerged
  · exact List.mem_map_of_mem hi
  · obtain ⟨-, -, existing, -, -, -, hmerge⟩ := hmerged
    exact (Contract.merge_keys hmerge).2 i hi

theorem Done.keysAt_eq {files : FileTree} {c contract : Contract} {directory : String}
    {overwrite : Bool} {place : Place} (h : Done files c directory overwrite contract place)
    (hlegible : Legible contract) :
    keysAt (write files c directory overwrite).files place =
      some (contract.interactions.map Interaction.key) := by
  rw [keysAt, h.file?_eq, if_pos rfl, Option.bind_some, hlegible.keysIn_eq]

/-! ## Runs -/

/-- Every file that lists keys in one tree lists them in another, in front of further ones. -/
def Keeps (before after : FileTree) : Prop :=
  ∀ place keys, keysAt before place = some keys →
    ∃ keys', keysAt after place = some keys' ∧ keys <+: keys'

theorem Keeps.refl (files : FileTree) : Keeps files files :=
  fun _ keys hkeys => ⟨keys, hkeys, List.prefix_refl keys⟩

theorem Keeps.trans {files files' files'' : FileTree} (h : Keeps files files')
    (h' : Keeps files' files'') : Keeps files files'' := by
  intro place keys hkeys
  obtain ⟨keys', hkeys', hfront⟩ := h place keys hkeys
  obtain ⟨keys'', hkeys'', hfront'⟩ := h' place keys' hkeys'
  exact ⟨keys'', hkeys'', hfront.trans hfront'⟩

/-- One call keeps the keys in all files. -/
theorem write_keeps {files : FileTree} {directory : String} {c : Contract}
    (hsettled : Settled files directory c)
    (hlegible : ∀ contract, contractFor files (FilePath.join directory c.fileName) false c =
      .ok contract → Legible contract) :
    Keeps files (write files c directory false).files := by
  intro place keys hkeys
  cases hresult : (write files c directory false).result with
  | error error =>
    refine ⟨keys, ?_, List.prefix_refl keys⟩
    rwa [keysAt, (write_failed hresult).file?_eq]
  | ok path =>
    obtain ⟨contract, own, hdone⟩ := done_of_result hresult
    -- all files but the own one of the contract are as before
    by_cases hplace : place = own
    · subst hplace
      obtain ⟨text, htext, hkeys⟩ := Option.bind_eq_some_iff.1 hkeys
      obtain ⟨old, hold, hfront⟩ := hdone.prefix_keys hsettled htext
      rw [hold] at hkeys
      cases hkeys
      exact ⟨_, hdone.keysAt_eq (hlegible contract hdone.contractFor), hfront⟩
    · refine ⟨keys, ?_, List.prefix_refl keys⟩
      rwa [keysAt, hdone.file?_eq, if_neg hplace]

/-- The tree after contracts were written into a directory, one after the other. -/
def run (files : FileTree) (directory : String) (calls : List Contract) : FileTree :=
  calls.foldl (fun files c => (write files c directory false).files) files

/-- Whatever is written in a run can be read again. -/
def LegibleRun (files : FileTree) (directory : String) : List Contract → Prop
  | [] => True
  | c :: calls =>
    (∀ contract, contractFor files (FilePath.join directory c.fileName) false c = .ok contract →
      Legible contract) ∧
    LegibleRun (write files c directory false).files directory calls

theorem legibleRun_append {directory : String} {before later : List Contract} :
    ∀ {files : FileTree}, LegibleRun files directory (before ++ later) →
      LegibleRun files directory before ∧ LegibleRun (run files directory before) directory later := by
  induction before with
  | nil => exact fun h => ⟨trivial, h⟩
  | cons c before ih =>
    intro files h
    obtain ⟨hc, h⟩ := h
    obtain ⟨hbefore, hlater⟩ := ih h
    exact ⟨⟨hc, hbefore⟩, hlater⟩

theorem Settled.run {directory : String} {c : Contract} {calls : List Contract} :
    ∀ {files : FileTree}, Settled files directory c →
      Settled (run files directory calls) directory c := by
  induction calls with
  | nil => exact fun h => h
  | cons other calls ih => exact fun h => ih (h.write other false)

/-- A run keeps the keys in all files. -/
theorem run_keeps {directory : String} {calls : List Contract} :
    ∀ {files : FileTree}, (∀ c ∈ calls, Settled files directory c) →
      LegibleRun files directory calls → Keeps files (run files directory calls) := by
  induction calls with
  | nil => exact fun {files} _ _ => Keeps.refl files
  | cons c calls ih =>
    intro files hsettled hlegible
    obtain ⟨hc, hcalls⟩ := List.forall_mem_cons.1 hsettled
    -- what was settled before the first call is settled after it
    have hrest : ∀ other ∈ calls, Settled (write files c directory false).files directory other :=
      fun other hother => (hcalls other hother).write c false
    exact (write_keeps hc hlegible.1).trans (ih hrest hlegible.2)

/-- In a run of calls into one directory a call that fails leaves every file as it is. A call that
    succeeds changes no file but its own; what its own file listed stays in front; and the keys of
    the interactions that were given are in that file from then on. -/
theorem run_keys_kept (files : FileTree) (directory : String) (before later : List Contract)
    (c : Contract) (hsettled : ∀ call ∈ before ++ c :: later, Settled files directory call)
    (hlegible : LegibleRun files directory (before ++ c :: later)) :
    let start := run files directory before
    let written := write start c directory false
    (∀ error, written.result = .error error →
      ∀ place, written.files.file? place = start.file? place) ∧
    ∀ path, written.result = .ok path → path = FilePath.join directory c.fileName ∧
      ∃ place, written.files.placeOf path = .ok place ∧
        (∀ other, other ≠ place → written.files.file? other = start.file? other) ∧
        (∀ text, start.file? place = some text → ∃ old new, keysIn text = some old ∧
          keysAt written.files place = some new ∧ old <+: new) ∧
        ∀ middle, middle <+: later →
          ∃ keys, keysAt (run written.files directory middle) place = some keys ∧
            ∀ i ∈ c.interactions, i.key ∈ keys := by
  intro start written
  have hc : Settled start directory c :=
    (hsettled c (List.mem_append_right _ List.mem_cons_self)).run
  obtain ⟨-, hown, hlater⟩ := legibleRun_append hlegible
  refine ⟨fun error hresult => (write_failed hresult).file?_eq, fun path hresult => ?_⟩
  obtain ⟨contract, place, hdone⟩ := done_of_result hresult
  obtain rfl := hdone.result_eq hresult
  have hkeys := hdone.keysAt_eq (hown contract hdone.contractFor)
  refine ⟨rfl, place, hdone.placeOf_after, fun other hother => ?_, fun text htext => ?_, ?_⟩
  · exact (hdone.file?_eq other).trans (if_neg hother)
  · obtain ⟨old, hold, hfront⟩ := hdone.prefix_keys hc htext
    exact ⟨old, _, hold, hkeys, hfront⟩
  · rintro middle ⟨rest, rfl⟩
    -- the calls in between find the directory settled, so each keeps what the file lists by then
    have hmiddle : ∀ call ∈ middle, Settled written.files directory call := by
      intro call hcall
      have hcalls := hsettled call (List.mem_append_right _
        (List.mem_cons_of_mem _ (List.mem_append_left rest hcall)))
      exact hcalls.run.write c false
    have hkeeps := run_keeps hmiddle (legibleRun_append hlater).1
    obtain ⟨keys, hlast, hfront⟩ := hkeeps place _ hkeys
    exact ⟨keys, hlast, fun i hi => hfront.subset (hdone.mem_keys hi)⟩

/-- Where nothing stands at the path of a contract, it is written as it is. -/
theorem Done.eq_of_absent {files : FileTree} {c contract : Contract} {directory : String}
    {place : Place} (h : Done files c directory false contract place)
    (habsent : files.contains (FilePath.join directory c.fileName) = false) : contract = c := by
  rcases contractFor_eq_ok h.contractFor with ⟨-, hsame⟩ | ⟨found, text, -, hfound, hnode, -⟩
  · exact hsame
  · rw [contains_of_placeOf hfound hnode] at habsent
    cases habsent

def oneRequest (description : String) : Contract where
  interactions := [{ description }]

theorem legible_of_absent {c : Contract}
    (hbodies : ∀ i ∈ c.interactions, i.request.body = .absent ∧ i.response.body = .absent)
    (hextra : c.metadata.extra = .empty) : Legible c := by
  have hfits : ∀ m : Message, m.body = .absent → m.BodyFits Number.Rereads := by
    intro m hm v hv
    rw [hm] at hv
    cases hv
  apply Json.Storable.parseText_toPrettyText
  apply Contract.storable_toJson
  · exact fun i hi => ⟨hfits _ (hbodies i hi).1, hfits _ (hbodies i hi).2⟩
  · intro entry hentry
    rw [hextra] at hentry
    cases hentry

theorem legible_oneRequest (description : String) : Legible (oneRequest description) :=
  legible_of_absent (fun i hi => by rw [List.mem_singleton.1 hi]; exact ⟨rfl, rfl⟩) rfl

/-- What is read from the text of such a contract has the version besides. -/
theorem ofText_oneRequest (description : String) :
    Contract.ofText (oneRequest description).toJson.toPrettyText =
      .ok { oneRequest description with metadata := { specVersion := some "3.0.0" } } := by
  have hreadable : (oneRequest description).Readable := by
    refine ⟨fun i hi => ?_, fun _ _ => rfl⟩
    rw [List.mem_singleton.1 hi]
    have hmethod : Ascii.upper "GET" = "GET" := by decide
    exact ⟨⟨⟨RuleTable.wellFormed_empty, (fun _ he => nomatch he)⟩, hmethod⟩,
      Response.restorable_default.readable⟩
  rw [Contract.ofText_eq_ofJson (legible_oneRequest description), hreadable.ofJson_toJson]
  rfl

theorem legibleRun_oneRequest :
    LegibleRun {} "pacts" [oneRequest "a", oneRequest "b"] := by
  have hempty : ∀ place text, ({} : FileTree).node? place ≠ some (.file text) := by
    intro place text hnode
    unfold node? at hnode
    split at hnode <;> cases hnode
  refine ⟨fun contract h => ?_, fun contract h => ?_, trivial⟩
  · rcases contractFor_eq_ok h with ⟨-, rfl⟩ | ⟨place, text, -, -, hnode, -⟩
    · exact legible_oneRequest "a"
    · exact absurd hnode (hempty place text)
  · rcases contractFor_eq_ok h with ⟨-, rfl⟩ | ⟨place, text, existing, -, hnode, hread, hmerge⟩
    · exact legible_oneRequest "b"
    -- the second call finds what the first one wrote, and nothing else
    · have hresult : (write {} (oneRequest "a") "pacts" false).result = .ok "pacts/-.json" := rfl
      obtain ⟨contract', own, hdone⟩ := done_of_result hresult
      obtain rfl := hdone.eq_of_absent (by decide +kernel)
      have htext := hdone.file?_eq place
      rw [file?_eq_some_iff.2 hnode] at htext
      split at htext
      · obtain rfl := Option.some.inj htext
        rw [ofText_oneRequest] at hread
        obtain rfl := Except.ok.inj hread
        obtain rfl : _ = contract := congrArg Prod.fst hmerge
        refine legible_of_absent (fun i hi => ?_) rfl
        have hmem : i = { description := "a" } ∨ i = { description := "b" } := by
          simpa [Contract.merge, Contract.mergeInteractions, oneRequest, Interaction.key] using hi
        rcases hmem with rfl | rfl <;> exact ⟨rfl, rfl⟩
      · exact absurd (file?_eq_some_iff.1 htext.symm) (hempty place text)

/-- Two contracts with one file, written one after the other: the key of the first one stays. -/
theorem run_keys_kept_oneRequest :
    (write {} (oneRequest "a") "pacts" false).result = .ok "pacts/-.json" ∧
      ∃ place keys, keysAt (run (write {} (oneRequest "a") "pacts" false).files "pacts"
        [oneRequest "b"]) place = some keys ∧ ("a", none) ∈ keys := by
  have hresult : (write {} (oneRequest "a") "pacts" false).result = .ok "pacts/-.json" := rfl
  have hsettled : ∀ call ∈ [oneRequest "a", oneRequest "b"], Settled {} "pacts" call := by
    intro call hcall
    simp only [List.mem_cons, List.not_mem_nil, or_false] at hcall
    rcases hcall with rfl | rfl <;> exact Or.inr ⟨rooted_empty, by decide +kernel⟩
  have hkept := run_keys_kept {} "pacts" [] [oneRequest "b"] (oneRequest "a") hsettled
    legibleRun_oneRequest
  obtain ⟨-, place, -, -, -, hlater⟩ := hkept.2 "pacts/-.json" hresult
  obtain ⟨keys, hkeys, hmem⟩ := hlater [oneRequest "b"] (List.prefix_refl _)
  exact ⟨hresult, place, keys, hkeys, hmem { description := "a" } List.mem_cons_self⟩

end MockProvider.PactFile
