import MockProvider.Text.Basic

/-!
# File trees

Directories and text files by their paths. A path is walked from the top of the tree through
directories, where two points lead back up; every step may fail, and each failure has a cause with a
number. Operations that fail leave all files as they are.
-/

namespace MockProvider

/-! ## Failures -/

/-- Why a file or directory cannot be reached, read or written. -/
inductive FileFault where
  | notFound
  | alreadyThere
  | notDirectory
  | isDirectory
  | nameTooLong
  | nulInPath
deriving DecidableEq, Repr

def FileFault.message : FileFault → String
  | .notFound => "No such file or directory (os error 2)"
  | .alreadyThere => "File exists (os error 17)"
  | .notDirectory => "Not a directory (os error 20)"
  | .isDirectory => "Is a directory (os error 21)"
  | .nameTooLong => "File name too long (os error 36)"
  | .nulInPath => "file name contained an unexpected NUL byte"

/-! ## Paths -/

/-- The steps of a way through directories, from the top. -/
abbrev Place := List String

namespace FilePath

/-- A path with a further part; one that begins with a slash stands for itself. -/
def join (path part : String) : String :=
  if "/".toList.isPrefixOf part.toList then part
  else if path.isEmpty ∨ "/".toList.isSuffixOf path.toList then path ++ part
  else path ++ "/" ++ part

/-- The steps of a path. Doubled slashes and single points mean nothing. -/
def steps (path : String) : List String :=
  (Text.split '/' path).filter fun step => !step.isEmpty && step != "."

/-- The steps of a path that the system takes at all. -/
def checked (path : String) : Except FileFault (List String) :=
  if path.toList.contains '\x00' then .error .nulInPath else .ok (steps path)

end FilePath

/-! ## Trees -/

/-- What stands at a place. -/
inductive FileNode where
  | file (text : String)
  | directory
deriving DecidableEq, Repr

/-- Directories and files by place; the top is a directory that always stands. -/
structure FileTree where
  nodes : List (Place × FileNode) := []
deriving DecidableEq, Repr

namespace FileTree

instance : Inhabited FileTree := ⟨{}⟩

/-- What stands at a place, if anything does. -/
def node? (t : FileTree) (place : Place) : Option FileNode :=
  if place.isEmpty then some .directory else t.nodes.lookup place

def putNode (place : Place) (node : FileNode) :
    List (Place × FileNode) → List (Place × FileNode)
  | [] => [(place, node)]
  | entry :: entries =>
    if entry.1 = place then (place, node) :: entries else entry :: putNode place node entries

def put (t : FileTree) (place : Place) (node : FileNode) : FileTree :=
  ⟨putNode place node t.nodes⟩

/-- The longest name of a file in octets. -/
def longestName : Nat := 255

def stepFrom (place : Place) (step : String) : Place :=
  if step = ".." then place.dropLast else place ++ [step]

/-- Walks from a place; all places passed on the way are directories. -/
def walk (t : FileTree) : Place → List String → Except FileFault Place
  | place, [] => .ok place
  | place, step :: steps =>
    match t.node? place with
    | none => .error .notFound
    | some (.file _) => .error .notDirectory
    | some .directory =>
      if longestName < step.utf8ByteSize then .error .nameTooLong
      else walk t (stepFrom place step) steps

/-- The place that a path leads to, whether anything stands there or not. -/
def placeOf (t : FileTree) (path : String) : Except FileFault Place := do
  walk t [] (← FilePath.checked path)

/-- Whether anything stands at a path. -/
def contains (t : FileTree) (path : String) : Bool :=
  match t.placeOf path with
  | .ok place => (t.node? place).isSome
  | .error _ => false

def read (t : FileTree) (path : String) : Except FileFault String := do
  match t.node? (← t.placeOf path) with
  | some (.file text) => return text
  | some .directory => .error .isDirectory
  | none => .error .notFound

def write (t : FileTree) (path text : String) : Except FileFault FileTree := do
  let place ← t.placeOf path
  match t.node? place with
  | some .directory => .error .isDirectory
  | _ => return t.put place (.file text)

def makeDirectory (t : FileTree) (steps : List String) : Except FileFault FileTree := do
  let place ← t.walk [] steps
  match t.node? place with
  | none => return t.put place .directory
  | some _ => .error .alreadyThere

def isDirectory (t : FileTree) (steps : List String) : Bool :=
  match t.walk [] steps with
  | .ok place => t.node? place == some .directory
  | .error _ => false

/-- A tree after an operation, and why it did not come to its end. -/
structure Change where
  tree : FileTree
  fault : Option FileFault

/-- Makes a directory, unless it is there. -/
def ensureDirectory (t : FileTree) (steps : List String) : Change :=
  match t.makeDirectory steps with
  | .ok made => ⟨made, none⟩
  | .error .alreadyThere => ⟨t, if t.isDirectory steps then none else some .alreadyThere⟩
  | .error fault => ⟨t, some fault⟩

/-- Makes the directory at the end of a way, given backwards, and all that it needs above. -/
def ensureAll (t : FileTree) : List String → Change
  | [] => ⟨t, none⟩
  | step :: above =>
    let steps := (step :: above).reverse
    match (t.ensureDirectory steps).fault with
    | some .notFound =>
      let changed := t.ensureAll above
      match changed.fault with
      | none => changed.tree.ensureDirectory steps
      | some _ => changed
    | _ => t.ensureDirectory steps

/-- Makes the directory at a path and all directories above it. -/
def makeDirectories (t : FileTree) (path : String) : Change :=
  match FilePath.checked path with
  | .ok steps => t.ensureAll steps.reverse
  | .error fault => ⟨t, some fault⟩

/-- The files below a directory, by the way that leads to each. -/
def filesBelow (t : FileTree) (directory : Place) : List Place :=
  t.nodes.filterMap fun (place, node) =>
    match node with
    | .file _ => if directory.isPrefixOf place then some (place.drop directory.length) else none
    | .directory => none

end FileTree

end MockProvider
