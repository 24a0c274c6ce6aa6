import MockProvider.Contract.Basic
import MockProvider.Server.Error

/-!
# Pact files

The pact document of a contract is kept in a file named after its parties. Writing it folds the
contract into the document that is there already, unless that is to be overwritten. Where the two
conflict nothing is written.
-/

namespace MockProvider.PactFile

/-- The contract to write where a document is there already: that document's contract with this
    one folded in. -/
def updated (existing : String) (c : Contract) : Except ContractError Contract := do
  let (merged, conflict) := (← Contract.ofText existing).merge c
  match conflict with
  | none => return merged
  | some conflict => .error (.mergeConflict conflict)

def contractFor (files : FileTree) (path : String) (overwrite : Bool) (c : Contract) :
    Except WriteFault Contract := do
  if !overwrite && files.contains path then
    let existing ← (files.read path).mapError .file
    (updated existing c).mapError .contract
  else return c

/-- A tree after an attempt to write, and where the document was written or why it was not. -/
structure Written where
  files : FileTree
  result : Except ServerError String

/-- Writes the pact document of a contract into a directory, which is made if it is missing. -/
def write (files : FileTree) (c : Contract) (directory : String) (overwrite : Bool) : Written :=
  let path := FilePath.join directory c.fileName
  let failed (files : FileTree) (fault : WriteFault) : Written :=
    ⟨files, .error (.write path fault)⟩
  match contractFor files path overwrite c with
  | .error fault => failed files fault
  | .ok contract =>
    let made := files.makeDirectories directory
    match made.fault with
    | some fault => failed made.tree (.file fault)
    | none =>
      match made.tree.write path contract.toJson.toPrettyText with
      | .ok written => ⟨written, .ok path⟩
      | .error fault => failed made.tree (.file fault)

end MockProvider.PactFile
