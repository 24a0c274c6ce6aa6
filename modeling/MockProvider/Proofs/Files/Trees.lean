import Mathlib.Data.List.Induction
import MockProvider.Files.Tree

/-!
# What operations do to a file tree

Making directories adds directories where nothing stood and leaves all else as it is: `Extends`. A
walk only looks at directories, so it leads to the same place in a tree with more of them. A
directory that was made is there, and one that is there is not made again.
-/

namespace MockProvider.FileTree

variable {t t' : FileTree}

/-- The text of the file at a place, if one stands there. -/
def file? (t : FileTree) (place : Place) : Option String :=
  match t.node? place with
  | some (.file text) => some text
  | _ => none

theorem file?_eq_some_iff {place : Place} {text : String} :
    t.file? place = some text ↔ t.node? place = some (.file text) := by
  unfold file?
  split
  · next h => simp [h]
  · next h =>
    constructor
    · intro hnone
      cases hnone
    · intro hnode
      exact absurd hnode (h text)

/-! ## Putting a node -/

theorem lookup_putNode (place other : Place) (node : FileNode) (nodes : List (Place × FileNode)) :
    (putNode place node nodes).lookup other =
      if other = place then some node else nodes.lookup other := by
  induction nodes with
  | nil =>
    by_cases h : other = place <;> simp [putNode, h]
  | cons entry nodes ih =>
    obtain ⟨at', node'⟩ := entry
    rw [putNode]
    by_cases hat : at' = place
    · subst hat
      by_cases h : other = at'
      · simp [h]
      · have hne : (other == at') = false := beq_eq_false_iff_ne.2 h
        simp [h, List.lookup_cons, hne]
    · rw [if_neg hat, List.lookup_cons, List.lookup_cons, ih]
      by_cases h : other = at'
      · subst h
        simp [hat]
      · have hne : (other == at') = false := beq_eq_false_iff_ne.2 h
        simp [hne]

theorem node?_put {place : Place} (hplace : place ≠ []) (node : FileNode) (other : Place) :
    (t.put place node).node? other = if other = place then some node else t.node? other := by
  unfold node? put
  by_cases hother : other = []
  · subst hother
    rw [if_neg (Ne.symm hplace)]
    rfl
  · have hempty : other.isEmpty = false := by simpa using hother
    rw [hempty, if_neg Bool.false_ne_true, if_neg Bool.false_ne_true, lookup_putNode]

theorem file?_put {place : Place} (hplace : place ≠ []) (text : String) (other : Place) :
    (t.put place (.file text)).file? other = if other = place then some text else t.file? other := by
  unfold file?
  rw [node?_put hplace]
  by_cases h : other = place
  · rw [if_pos h, if_pos h]
  · rw [if_neg h, if_neg h]

theorem node?_nil : t.node? [] = some .directory := rfl

theorem ne_nil_of_node? {place : Place} (h : t.node? place ≠ some .directory) : place ≠ [] := by
  rintro rfl
  exact h rfl

/-! ## Walks -/

/-- All directories of one tree are directories of another. -/
def Directories (t t' : FileTree) : Prop :=
  ∀ place, t.node? place = some .directory → t'.node? place = some .directory

theorem walk_mono (h : Directories t t') {steps : List String} :
    ∀ {place place' : Place}, t.walk place steps = .ok place' → t'.walk place steps = .ok place' := by
  induction steps with
  | nil => exact fun hwalk => hwalk
  | cons step steps ih =>
    intro place place' hwalk
    rw [walk] at hwalk
    split at hwalk
    · cases hwalk
    · cases hwalk
    -- a walk asks for directories only, so it goes on in the other tree
    · next hdirectory =>
      split at hwalk
      · cases hwalk
      · next hlength =>
        rw [walk, h place hdirectory]
        simp only [if_neg hlength]
        exact ih hwalk

theorem placeOf_eq_ok_iff {path : String} {place : Place} :
    t.placeOf path = .ok place ↔
      ∃ steps, FilePath.checked path = .ok steps ∧ t.walk [] steps = .ok place := by
  unfold placeOf
  cases FilePath.checked path with
  | error fault => simp [bind, Except.bind]
  | ok steps => simp [bind, Except.bind]

theorem placeOf_mono (h : Directories t t') {path : String} {place : Place}
    (hplace : t.placeOf path = .ok place) : t'.placeOf path = .ok place := by
  obtain ⟨steps, hsteps, hwalk⟩ := placeOf_eq_ok_iff.1 hplace
  exact placeOf_eq_ok_iff.2 ⟨steps, hsteps, walk_mono h hwalk⟩

/-- What is put where no directory stands keeps all directories. -/
theorem directories_put {place : Place} {node : FileNode} (h : t.node? place ≠ some .directory) :
    Directories t (t.put place node) := by
  intro other hother
  rw [node?_put (ne_nil_of_node? h), if_neg]
  · exact hother
  · rintro rfl
    exact h hother

theorem isDirectory_iff {steps : List String} :
    t.isDirectory steps = true ↔
      ∃ place, t.walk [] steps = .ok place ∧ t.node? place = some .directory := by
  unfold isDirectory
  split
  · next place hplace => simp [hplace]
  · next fault hfault => simp [hfault]

theorem isDirectory_mono (h : Directories t t') {steps : List String}
    (hsteps : t.isDirectory steps = true) : t'.isDirectory steps = true := by
  obtain ⟨place, hplace, hnode⟩ := isDirectory_iff.1 hsteps
  exact isDirectory_iff.2 ⟨place, walk_mono h hplace, h place hnode⟩

/-! ## Making directories -/

/-- A tree has all nodes of another one, and directories besides. -/
structure Extends (t t' : FileTree) : Prop where
  kept : ∀ place node, t.node? place = some node → t'.node? place = some node
  added : ∀ place node, t'.node? place = some node →
    t.node? place = some node ∨ node = .directory

theorem Extends.refl (t : FileTree) : Extends t t :=
  ⟨fun _ _ h => h, fun _ _ h => Or.inl h⟩

theorem Extends.trans {t'' : FileTree} (h : Extends t t') (h' : Extends t' t'') : Extends t t'' where
  kept place node hnode := h'.kept place node (h.kept place node hnode)
  added place node hnode := by
    rcases h'.added place node hnode with hnode | hnode
    · exact h.added place node hnode
    · exact Or.inr hnode

theorem Extends.directories (h : Extends t t') : Directories t t' :=
  fun place hnode => h.kept place .directory hnode

/-- Where only directories are added every file stays as it is. -/
theorem Extends.file?_eq (h : Extends t t') (place : Place) : t'.file? place = t.file? place := by
  refine Option.ext fun text => ?_
  rw [file?_eq_some_iff, file?_eq_some_iff]
  constructor
  · intro hnode
    rcases h.added place _ hnode with hnode | hfile
    · exact hnode
    · cases hfile
  · exact h.kept place _

theorem extends_put {place : Place} (h : t.node? place = none) :
    Extends t (t.put place .directory) := by
  have hplace : place ≠ [] := by
    rintro rfl
    cases h
  refine ⟨fun other node hnode => ?_, fun other node hnode => ?_⟩
  · rw [node?_put hplace, if_neg]
    · exact hnode
    · rintro rfl
      rw [h] at hnode
      cases hnode
  · rw [node?_put hplace] at hnode
    split at hnode
    · cases hnode
      exact Or.inr rfl
    · exact Or.inl hnode

/-- A directory is made at the place that the way leads to, where nothing stood. -/
theorem makeDirectory_eq_ok {steps : List String} (h : t.makeDirectory steps = .ok t') :
    ∃ place, t.walk [] steps = .ok place ∧ t.node? place = none ∧ t' = t.put place .directory := by
  unfold makeDirectory at h
  cases hplace : t.walk [] steps with
  | error fault =>
    rw [hplace] at h
    cases h
  | ok place =>
    simp only [hplace, bind, Except.bind] at h
    split at h
    · next hnone =>
      cases h
      exact ⟨place, rfl, hnone, rfl⟩
    · cases h

theorem ensureDirectory_extends (t : FileTree) (steps : List String) :
    Extends t (t.ensureDirectory steps).tree := by
  unfold ensureDirectory
  split
  · next made hmade =>
    obtain ⟨place, -, hnone, rfl⟩ := makeDirectory_eq_ok hmade
    exact extends_put hnone
  · exact Extends.refl t
  · exact Extends.refl t

theorem ensureDirectory_isDirectory {steps : List String}
    (h : (t.ensureDirectory steps).fault = none) :
    (t.ensureDirectory steps).tree.isDirectory steps = true := by
  unfold ensureDirectory at h ⊢
  split at h
  · next made hmade =>
    obtain ⟨place, hplace, hnone, rfl⟩ := makeDirectory_eq_ok hmade
    have hne : place ≠ [] := by
      rintro rfl
      cases hnone
    refine isDirectory_iff.2 ⟨place, walk_mono (extends_put hnone).directories hplace, ?_⟩
    rw [node?_put hne, if_pos rfl]
  · next hthere =>
    -- what was there already may be a file, and then the making has failed
    by_cases hdirectory : t.isDirectory steps = true
    · exact hdirectory
    · simp [hdirectory] at h
  · cases h

theorem ensureDirectory_of_isDirectory {steps : List String} (h : t.isDirectory steps = true) :
    t.ensureDirectory steps = ⟨t, none⟩ := by
  obtain ⟨place, hplace, hnode⟩ := isDirectory_iff.1 h
  have hthere : t.makeDirectory steps = .error .alreadyThere := by
    simp only [makeDirectory, hplace, hnode, bind, Except.bind]
  rw [ensureDirectory, hthere]
  simp [h]

/-- What every making of one directory keeps, the making of all directories of a way keeps. -/
theorem ensureAll_keeps {P : FileTree → Prop}
    (hstep : ∀ t steps, P t → P (FileTree.ensureDirectory t steps).tree) (h : P t) :
    ∀ way : List String, P (t.ensureAll way).tree
  | [] => h
  | step :: above => by
    unfold ensureAll
    simp only
    split
    · have habove := ensureAll_keeps hstep h above
      split
      · exact hstep _ _ habove
      · exact habove
    · exact hstep t _ h

theorem makeDirectories_keeps {P : FileTree → Prop}
    (hstep : ∀ t steps, P t → P (FileTree.ensureDirectory t steps).tree) (h : P t)
    (directory : String) : P (t.makeDirectories directory).tree := by
  unfold makeDirectories
  split
  · exact ensureAll_keeps hstep h _
  · exact h

theorem ensureAll_isDirectory {way : List String} (h : (t.ensureAll way).fault = none) :
    (t.ensureAll way).tree.isDirectory way.reverse = true := by
  cases way with
  | nil => rfl
  | cons step above =>
    unfold ensureAll at h ⊢
    simp only at h ⊢
    split at h
    · split at h
      · exact ensureDirectory_isDirectory h
      · next hfault =>
        rw [hfault] at h
        cases h
    · exact ensureDirectory_isDirectory h

theorem ensureAll_of_isDirectory {way : List String} (h : t.isDirectory way.reverse = true) :
    t.ensureAll way = ⟨t, none⟩ := by
  cases way with
  | nil => rfl
  | cons step above => simp only [ensureAll, ensureDirectory_of_isDirectory h]

/-- The directory at a path stands, if the path can be one at all. -/
def Stands (t : FileTree) (directory : String) : Prop :=
  ∀ steps, FilePath.checked directory = .ok steps → t.isDirectory steps = true

theorem makeDirectories_extends (t : FileTree) (directory : String) :
    Extends t (t.makeDirectories directory).tree :=
  makeDirectories_keeps (fun made steps h => h.trans (made.ensureDirectory_extends steps))
    (Extends.refl t) directory

/-- A directory that was made stands. -/
theorem makeDirectories_stands {directory : String}
    (h : (t.makeDirectories directory).fault = none) :
    (t.makeDirectories directory).tree.Stands directory := by
  intro steps hsteps
  rw [makeDirectories, hsteps] at h ⊢
  have hstands := ensureAll_isDirectory h
  rwa [List.reverse_reverse] at hstands

theorem checked_of_makeDirectories {directory : String}
    (h : (t.makeDirectories directory).fault = none) :
    ∃ steps, FilePath.checked directory = .ok steps := by
  unfold FileTree.makeDirectories at h
  split at h
  · next steps hsteps => exact ⟨steps, hsteps⟩
  · cases h

theorem Stands.makeDirectories_eq {directory : String} (h : t.Stands directory)
    {steps : List String} (hsteps : FilePath.checked directory = .ok steps) :
    t.makeDirectories directory = ⟨t, none⟩ := by
  have hway : t.isDirectory steps.reverse.reverse = true := by
    rw [List.reverse_reverse]
    exact h steps hsteps
  rw [FileTree.makeDirectories, hsteps]
  exact ensureAll_of_isDirectory hway

/-- A directory that stands is not made again. -/
theorem Stands.makeDirectories {directory : String} (h : t.Stands directory) :
    (t.makeDirectories directory).tree = t := by
  cases hsteps : FilePath.checked directory with
  | error fault => rw [FileTree.makeDirectories, hsteps]
  | ok steps => rw [h.makeDirectories_eq hsteps]

theorem Stands.mono (h : Directories t t') {directory : String} (hstands : t.Stands directory) :
    t'.Stands directory :=
  fun steps hsteps => isDirectory_mono h (hstands steps hsteps)

/-! ## Rooted trees -/

/-- Whatever stands somewhere stands in a directory. -/
def Rooted (t : FileTree) : Prop :=
  ∀ place node, t.node? place = some node → t.node? place.dropLast = some .directory

/-- A path leads down only. -/
def Downward (path : String) : Prop :=
  ".." ∉ FilePath.steps path

instance (path : String) : Decidable (Downward path) :=
  inferInstanceAs (Decidable (".." ∉ FilePath.steps path))

theorem rooted_empty : ({} : FileTree).Rooted := by
  intro place node hnode
  unfold node? at hnode
  split at hnode
  · next hplace =>
    rw [List.isEmpty_iff.1 hplace]
    rfl
  · cases hnode

theorem Rooted.put {place : Place} {node : FileNode} (h : t.Rooted)
    (hparent : t.node? place.dropLast = some .directory)
    (hplace : t.node? place ≠ some .directory) : (t.put place node).Rooted := by
  have hne := ne_nil_of_node? hplace
  intro other found hfound
  rw [node?_put hne] at hfound
  split at hfound
  · next heq =>
    subst heq
    exact directories_put hplace _ hparent
  · exact directories_put hplace _ (h other found hfound)

/-- A walk in a rooted tree ends in a directory's directory. -/
theorem Rooted.walk_parent (h : t.Rooted) {steps : List String} :
    ∀ {place place' : Place}, t.node? place.dropLast = some .directory →
      t.walk place steps = .ok place' → t.node? place'.dropLast = some .directory := by
  induction steps with
  | nil =>
    intro place place' hplace hwalk
    cases hwalk
    exact hplace
  | cons step steps ih =>
    intro place place' hplace hwalk
    rw [walk] at hwalk
    split at hwalk
    · cases hwalk
    · cases hwalk
    · next hdirectory =>
      split at hwalk
      · cases hwalk
      -- a step up ends where a directory stands already, a step down in the directory left
      · refine ih ?_ hwalk
        rw [stepFrom]
        split
        · exact h _ _ hplace
        · rw [List.dropLast_concat]
          exact hdirectory

theorem Rooted.makeDirectory {steps : List String} (h : t.Rooted)
    (hmade : t.makeDirectory steps = .ok t') : t'.Rooted := by
  obtain ⟨place, hplace, hnone, rfl⟩ := makeDirectory_eq_ok hmade
  refine h.put (h.walk_parent node?_nil hplace) ?_
  rw [hnone]
  simp

theorem Rooted.ensureDirectory (h : t.Rooted) (steps : List String) :
    (t.ensureDirectory steps).tree.Rooted := by
  unfold FileTree.ensureDirectory
  split
  · next made hmade => exact h.makeDirectory hmade
  · exact h
  · exact h

theorem Rooted.makeDirectories (h : t.Rooted) (directory : String) :
    (t.makeDirectories directory).tree.Rooted :=
  makeDirectories_keeps (fun _ steps h => h.ensureDirectory steps) h directory

/-- In a rooted tree everything above a node is a directory. -/
theorem Rooted.above (h : t.Rooted) {place : Place} {step : String} {steps : List String} :
    ∀ {node : FileNode}, t.node? (place ++ step :: steps) = some node →
      t.node? place = some .directory := by
  -- the last step is taken off, since a node is known to stand in the place without it
  induction steps using List.reverseRecOn with
  | nil =>
    intro node hnode
    have hparent := h _ _ hnode
    rwa [List.dropLast_concat] at hparent
  | append_singleton steps last ih =>
    intro node hnode
    have hparent := h _ _ hnode
    rw [← List.cons_append, ← List.append_assoc, List.dropLast_concat] at hparent
    exact ih hparent

/-- A walk down ends where its steps say. -/
theorem walk_of_downward {steps : List String} (hdown : ".." ∉ steps) :
    ∀ {place place' : Place}, t.walk place steps = .ok place' → place' = place ++ steps := by
  induction steps with
  | nil =>
    intro place place' hwalk
    cases hwalk
    exact (List.append_nil place).symm
  | cons step steps ih =>
    intro place place' hwalk
    obtain ⟨hstep, hdown⟩ := not_or.1 (mt List.mem_cons.2 hdown)
    rw [walk] at hwalk
    split at hwalk
    · cases hwalk
    · cases hwalk
    · split at hwalk
      · cases hwalk
      · rw [ih hdown hwalk, stepFrom, if_neg (Ne.symm hstep), List.append_assoc]
        rfl

/-- A way down that can be walked in some tree can be walked to every node of a rooted tree. -/
theorem Rooted.walk_down (h : t.Rooted) {steps : List String} (hdown : ".." ∉ steps) :
    ∀ {place place' : Place} {node : FileNode}, t'.walk place steps = .ok place' →
      t.node? (place ++ steps) = some node → t.walk place steps = .ok place' := by
  induction steps with
  | nil => exact fun hwalk _ => hwalk
  | cons step steps ih =>
    intro place place' node hwalk hnode
    obtain ⟨hstep, hdown⟩ := not_or.1 (mt List.mem_cons.2 hdown)
    have hplace : stepFrom place step = place ++ [step] := if_neg (Ne.symm hstep)
    -- every directory on the way stands above the node, so it stands in this tree too
    have hdirectory := h.above hnode
    rw [walk] at hwalk
    split at hwalk
    · cases hwalk
    · cases hwalk
    · split at hwalk
      · cases hwalk
      · next hlength =>
        rw [hplace] at hwalk
        rw [List.append_cons] at hnode
        rw [walk, hdirectory]
        simp only [if_neg hlength, hplace]
        exact ih hdown hwalk hnode

/-! ## Paths of files -/

/-- A path that leads to a node of a rooted tree, once directories were made, led there before. -/
theorem Rooted.placeOf_down (h : t.Rooted) {path : String} (hdown : Downward path) {place : Place}
    {node : FileNode} (hplace : t'.placeOf path = .ok place) (hnode : t.node? place = some node) :
    t.placeOf path = .ok place := by
  obtain ⟨steps, hsteps, hwalk⟩ := placeOf_eq_ok_iff.1 hplace
  have hdown : ".." ∉ steps := by
    unfold FilePath.checked at hsteps
    split at hsteps
    · cases hsteps
    · cases hsteps
      exact hdown
  have hend := walk_of_downward hdown hwalk
  rw [hend] at hnode
  exact placeOf_eq_ok_iff.2 ⟨steps, hsteps, h.walk_down hdown hwalk hnode⟩

theorem contains_of_placeOf {path : String} {place : Place} {node : FileNode}
    (hplace : t.placeOf path = .ok place) (hnode : t.node? place = some node) :
    t.contains path = true := by
  simp only [contains, hplace, hnode, Option.isSome_some]

theorem read_eq_ok {path text : String} (h : t.read path = .ok text) :
    ∃ place, t.placeOf path = .ok place ∧ t.node? place = some (.file text) := by
  unfold FileTree.read at h
  cases hplace : t.placeOf path with
  | error fault =>
    rw [hplace] at h
    cases h
  | ok place =>
    simp only [hplace, bind, Except.bind] at h
    split at h
    · next text' hnode =>
      cases h
      exact ⟨place, rfl, hnode⟩
    · cases h
    · cases h

theorem read_of_placeOf {path text : String} {place : Place} (hplace : t.placeOf path = .ok place)
    (hnode : t.node? place = some (.file text)) : t.read path = .ok text := by
  unfold FileTree.read
  simp only [hplace, hnode, bind, Except.bind]
  rfl

theorem write_eq_ok {path text : String} (h : t.write path text = .ok t') :
    ∃ place, t.placeOf path = .ok place ∧ t.node? place ≠ some .directory ∧
      t' = t.put place (.file text) := by
  unfold FileTree.write at h
  cases hplace : t.placeOf path with
  | error fault =>
    rw [hplace] at h
    cases h
  | ok place =>
    simp only [hplace, bind, Except.bind] at h
    split at h
    · cases h
    · next hdirectory =>
      cases h
      exact ⟨place, rfl, hdirectory, rfl⟩

theorem write_of_placeOf {path : String} {place : Place} (hplace : t.placeOf path = .ok place)
    (hnode : t.node? place ≠ some .directory) (text : String) :
    t.write path text = .ok (t.put place (.file text)) := by
  unfold FileTree.write
  simp only [hplace, bind, Except.bind]
  rfl

end MockProvider.FileTree
