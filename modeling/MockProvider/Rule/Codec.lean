import MockProvider.DocPath.Parser
import MockProvider.Rule.Table

/-!
# Tables of rules in documents

A table is written by category: path and status have one list, queries and headers a list for each
name, bodies a list for each path. It is read in this form and in a flat one, whose keys are paths
that begin with the category. Rules at paths that cannot be read, and in categories that are not
known, are passed over.
-/

namespace MockProvider.RuleTable

/-! ## Writing -/

def nameKey (path : DocPath) : String :=
  match path.steps with
  | .field name :: _ => name
  | _ => path.render

/-- The entries of a category as they are written, when there are any. -/
def categoryJson (t : RuleTable) (category : Category) : Option Json :=
  match t.entries category with
  | [] => none
  | first :: rest =>
    match category with
    | .path | .status => some first.list.toJson
    | .query | .header =>
      some (.ofMembers ((first :: rest).map fun e => (nameKey e.path, e.list.toJson)))
    | .body => some (.ofMembers ((first :: rest).map fun e => (e.path.render, e.list.toJson)))

def toJson (t : RuleTable) : Json :=
  .ofMembers (Category.every.filterMap fun category =>
    (t.categoryJson category).map fun value => (category.name, value))

/-! ## Reading -/

/-- The table with the list of a flat entry, under the category and the name that its path begins
    with. -/
def addFlat (t : RuleTable) (path : DocPath) (list : RuleList) : RuleTable :=
  match path.steps with
  | .field first :: rest =>
    match Category.named? first, rest with
    | some .path, _ => t.addList .path .root list
    | some .status, _ => t.addList .status .root list
    | some .body, _ => t.addList .body path.dropFirst list
    | some .header, .field name :: _ => t.addList .header (namedPlace .header name) list
    | some .query, .field name :: _ => t.addList .query (namedPlace .query name) list
    | _, _ => t
  | _ => t

def readFlat (location : Location) :
    RuleTable → List (String × Json) → Except ContractError RuleTable
  | t, [] => .ok t
  | t, (key, definition) :: members =>
    match DocPath.parse key with
    | .error _ => readFlat location t members
    | .ok path => do
      let list ← RuleList.ofJson (location.key key) definition
      readFlat location (t.addFlat path list) members

/-- Reads the entries of a category with names or paths into a table. -/
def readNamed (location : Location) (category : Category) :
    RuleTable → List (String × Json) → Except ContractError RuleTable
  | t, [] => .ok t
  | t, (key, definition) :: members => do
    let list ← RuleList.ofJson (location.key key) definition
    if category = .body then
      match DocPath.parse key with
      | .error _ => readNamed location category t members
      | .ok path => readNamed location category (t.addList category path list) members
    else readNamed location category (t.addList category (namedPlace category key) list) members

/-- Reads what stands for one category into a table. An empty object stands for no rules. -/
def readCategory (location : Location) (category : Category) (t : RuleTable) (content : Json) :
    Except ContractError RuleTable :=
  if category = .path ∨ category = .status then
    match content with
    | .object [] => .ok t
    | _ => (RuleList.ofJson location content).map fun list => t.addList category .root list
  else
    match content.members? with
    | none => .error (.invalidField location .notObject)
    | some members => readNamed location category t members

def readCategories (location : Location) :
    RuleTable → List (String × Json) → Except ContractError RuleTable
  | t, [] => .ok t
  | t, (name, content) :: members =>
    match Category.named? name with
    | none => readCategories location t members
    | some category => do
      let t ← readCategory (location.field name) category t content
      readCategories location t members

def isFlatKey (key : String) : Bool :=
  ['$'].isPrefixOf key.toList

/-- Reads a table; null stands for an empty one. -/
def ofJson (location : Location) (value : Json) : Except ContractError RuleTable :=
  match value with
  | .null => .ok empty
  | .object members =>
    if members.any fun member => isFlatKey member.1 then readFlat location empty members
    else readCategories location empty members
  | _ => .error (.invalidField location .notObject)

end MockProvider.RuleTable
