import MockProvider.Matching.Body

/-!
# Where rules are looked up

When bodies are compared, rules are looked up place by place, and each time all of their entries are
weighed. The lists here have the places in the order in which the comparison gets to them. It does
not go below a container that is judged as a whole, and it passes over what only one of the bodies
has.

A weight that is too large for a word wraps around. A build that checks its arithmetic stops there,
and `Request.overflows` tells when. Paths, status codes, headers and query parameters have their
rules at the root or one step below it, where no weight is too large.
-/

namespace MockProvider

namespace Matching

/-- Goes through the parts of a container as the rules for it ask. -/
def comparedParts {α : Type} (resolved : Option RuleTable.Resolved) (place : DocPath)
    (lookups : List (Walk α DocPath)) (parts : List α) : List DocPath :=
  if typeOnly resolved then checkTemplates place lookups parts
  else checkPaired place 0 lookups parts

/-! ## Documents -/

mutual

/-- The places of a value at which rules are looked up. -/
def lookupsOf (rules : RuleTable) : Json → Walk Json DocPath
  | .object expected, place, actual =>
    place ::
      if (wholeRules? (rules.resolve .body place)).isSome then []
      else actual.members?.elim [] (memberLookups rules expected place)
  | .array expected, place, actual =>
    let resolved := rules.resolve .body place
    place ::
      if (wholeRules? resolved).isSome then []
      else actual.items?.elim [] (comparedParts resolved place (itemLookups rules expected))
  | _, place, _ => [place]

def itemLookups (rules : RuleTable) : List Json → List (Walk Json DocPath)
  | [] => []
  | item :: items => lookupsOf rules item :: itemLookups rules items

def memberLookups (rules : RuleTable) :
    List (String × Json) → DocPath → List (String × Json) → List DocPath
  | [], _, _ => []
  | (key, value) :: members, place, actual =>
    ((Assoc.get? actual key).elim [] fun received => lookupsOf rules value (place.field key) received) ++
      memberLookups rules members place actual

end

def jsonLookups (rules : RuleTable) (expected actual : Bytes) : List DocPath :=
  match Json.parse expected, Json.parse actual with
  | .ok e, .ok a => lookupsOf rules e .root a
  | _, _ => []

/-! ## Elements -/

open Xml (Element)

def attributeLookups (place : DocPath) (expected actual : Dict String) : List DocPath :=
  (expected.toList.filter fun entry => actual.contains entry.1).map fun entry =>
    attributePlace place entry.1

def textLookups (place : DocPath) (lenient : Bool) (expected actual : String) : List DocPath :=
  if expected.isEmpty ∧ (lenient ∨ actual.isEmpty) then [] else [place.field "#text"]

/-- The places of siblings, those of one name after another. -/
def groupLookups (rules : RuleTable) (place : DocPath)
    (lookups : List (String × Walk Element DocPath)) (actual : List Element) : List DocPath :=
  (distinct (lookups.map Prod.fst)).flatMap fun name =>
    let group := lookups.filter fun lookup => lookup.1 == name
    place.field name ::
      comparedParts (rules.resolve .body (place.field name)) (place.field name)
        (group.map Prod.snd) (withName name actual)

/-- The places of two elements, the children of the expected one given by their own places. -/
def comparedElement (rules : RuleTable) (attributes : Dict String) (text : String)
    (lookups : List (String × Walk Element DocPath)) (place : DocPath) (actual : Element) :
    List DocPath :=
  place :: attributeLookups place attributes actual.attributes ++
    textLookups place (typeOnly (rules.resolve .body place)) text actual.text ++
    groupLookups rules place lookups actual.children

mutual

/-- The places of an element at which rules are looked up. -/
def elementLookups (rules : RuleTable) : Element → Walk Element DocPath
  | .mk _ attributes text children =>
    comparedElement rules attributes text (childLookups rules children)

def childLookups (rules : RuleTable) : List Element → List (String × Walk Element DocPath)
  | [] => []
  | child :: children => (child.name, elementLookups rules child) :: childLookups rules children

end

def xmlLookups (rules : RuleTable) (expected actual : Bytes) : List DocPath :=
  match Xml.parse expected, Xml.parse actual with
  | .ok e, .ok a =>
    if e.name = a.name then elementLookups rules e (DocPath.root.field e.name) a else []
  | _, _ => []

/-! ## Bodies -/

def kindLookups (rules : RuleTable) (kind : BodyKind) (expected actual : Bytes) : List DocPath :=
  match kind with
  | .json => jsonLookups rules expected actual
  | .xml => xmlLookups rules expected actual
  | .text => [.root]
  | .binary => [.root]

/-- The places at which rules are looked up when the bodies of two messages are compared. -/
def bodyLookups (expected actual : Message) : List DocPath :=
  match expected.body, actual.body with
  | .present bytes type, .present received receivedType =>
    if type.kind = receivedType.kind then kindLookups expected.rules type.kind bytes received else []
  | _, _ => []

end Matching

/-- Whether comparing a received request meets a weight that is too large for a word. -/
def Request.overflows (expected actual : Request) : Bool :=
  (Matching.bodyLookups expected.toMessage actual.toMessage).any fun place =>
    expected.rules.overflows .body place

end MockProvider
