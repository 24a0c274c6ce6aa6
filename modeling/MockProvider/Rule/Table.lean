import MockProvider.DocPath.Basic
import MockProvider.Rule.RuleList
import MockProvider.Text.Basic

/-!
# Tables of rules

The rules of a request or response, by category and path. In each category the entries stand in
the order in which their paths were first used, and no path has two entries.

`RuleTable.resolve` finds the rules for a place. An entry comes into question when its expression
fits the place or, if its list cascades, a place above. The longest expression wins, then the one
with more exact steps, then the earliest.

For this all entries of the category are weighed. `RuleTable.overflows` tells where a weight is too
large for a word: the weights wrap around there, and a build that checks its arithmetic stops.
-/

namespace MockProvider

/-- What part of a request or response rules are about. -/
inductive Category where
  | path
  | query
  | header
  | body
  | status
deriving DecidableEq, Repr

namespace Category

def named? : String → Option Category
  | "path" => some .path
  | "query" => some .query
  | "header" => some .header
  | "headers" => some .header
  | "body" => some .body
  | "status" => some .status
  | _ => none

def name : Category → String
  | .path => "path"
  | .query => "query"
  | .header => "header"
  | .body => "body"
  | .status => "status"

def every : List Category := [.path, .query, .header, .body, .status]

end Category

/-- A path and the rules that stand at it. -/
structure RuleEntry where
  path : DocPath
  list : RuleList
deriving DecidableEq

/-- The rules of a request or response. -/
structure RuleTable where
  path : List RuleEntry := []
  query : List RuleEntry := []
  header : List RuleEntry := []
  body : List RuleEntry := []
  status : List RuleEntry := []
deriving DecidableEq

namespace RuleTable

def empty : RuleTable := {}

instance : Inhabited RuleTable := ⟨empty⟩

def entries (t : RuleTable) : Category → List RuleEntry
  | .path => t.path
  | .query => t.query
  | .header => t.header
  | .body => t.body
  | .status => t.status

def withEntries (t : RuleTable) (category : Category) (entries : List RuleEntry) : RuleTable :=
  match category with
  | .path => { t with path := entries }
  | .query => { t with query := entries }
  | .header => { t with header := entries }
  | .body => { t with body := entries }
  | .status => { t with status := entries }

def isEmpty (t : RuleTable) : Bool :=
  Category.every.all fun category => (t.entries category).isEmpty

/-- The entries with a list at a path: its rules go to the end of the list that is there, or it
    makes a new entry at the end. -/
def addTo (path : DocPath) (list : RuleList) : List RuleEntry → List RuleEntry
  | [] => [⟨path, list⟩]
  | entry :: entries =>
    if entry.path = path then { entry with list := entry.list.append list.rules } :: entries
    else entry :: addTo path list entries

def addList (t : RuleTable) (category : Category) (path : DocPath) (list : RuleList) : RuleTable :=
  t.withEntries category (addTo path list (t.entries category))

def add (t : RuleTable) (category : Category) (path : DocPath) (rule : Rule) : RuleTable :=
  t.addList category path (.single rule)

/-! ## Finding rules -/

/-- The list that was found for a place, and whether it stands above the place. -/
structure Resolved where
  list : RuleList
  inherited : Bool
deriving DecidableEq

/-- The rules in force: of a list above only those that cascade. -/
def Resolved.rules (r : Resolved) : List Rule :=
  r.list.rules.filter fun rule => !r.inherited || rule.cascades

/-- The bounds on the number of items, of the first rule in force that has any. -/
def Resolved.bounds? (r : Resolved) : Option (Option UInt64 × Option UInt64) :=
  r.rules.findSome? fun
    | .minMax least most => some (least, most)
    | _ => none

/-- Whether some rule in force asks for the type of a value. -/
def Resolved.hasType (r : Resolved) : Bool :=
  r.rules.any Rule.cascades

/-- A candidate: the length and weight of its expression, and what it would give. -/
structure Candidate where
  length : Nat
  weight : Nat
  resolved : Resolved

/-- The candidate that an entry is for a place, if it is one. -/
def candidate? (place : DocPath) (entry : RuleEntry) : Option Candidate :=
  match entry.path.weightAgainst place with
  | none => none
  | some weight =>
    let inherited := entry.path.length < place.length
    if inherited ∧ !entry.list.cascades then none
    else some ⟨entry.path.length, weight, ⟨entry.list, inherited⟩⟩

/-- Whether a candidate is better than another one that was declared earlier. -/
def Candidate.beats (later earlier : Candidate) : Bool :=
  earlier.length < later.length ||
    (earlier.length == later.length && earlier.weight < later.weight)

/-- The best of the candidates, the earliest of equally good ones. -/
def best : List Candidate → Option Candidate
  | [] => none
  | c :: cs =>
    match best cs with
    | none => some c
    | some d => some (if d.beats c then d else c)

def resolve (t : RuleTable) (category : Category) (place : DocPath) : Option Resolved :=
  (best ((t.entries category).filterMap (candidate? place))).map Candidate.resolved

/-- Whether the search for the rules of a place meets a weight that is too large for a word. -/
def overflows (t : RuleTable) (category : Category) (place : DocPath) : Bool :=
  (t.entries category).any fun entry => entry.path.overflowsAgainst place

/-- The place of the rules for a name; names of headers are kept in lower case. -/
def namedPlace (category : Category) (name : String) : DocPath :=
  DocPath.root.field (if category = .header then Ascii.lower name else name)

/-- The rules for a header or a query parameter. -/
def resolveNamed (t : RuleTable) (category : Category) (name : String) : Option Resolved :=
  t.resolve category (namedPlace category name)

end RuleTable

end MockProvider
