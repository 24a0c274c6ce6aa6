import MockProvider.Matching.Structure
import MockProvider.Xml.Parser

/-!
# Comparing XML

XML bodies are compared element by element. The place of an element is given by its name and its
position among its siblings of the same name, that of an attribute by its name after an at sign,
and that of a text by a sign of its own. The order among siblings of different names does not
matter.

An expected element is turned into a check, which takes the place and the received element. Where a
rule asks for the type only, further attributes, texts and elements are allowed.
-/

namespace MockProvider.Matching

open Xml (Element)

/-- Finds the mismatches of an element. -/
abbrev ElementCheck := Walk Element Mismatch

/-- An expected element by its name, with the check that it makes. -/
abbrev NamedCheck := String × ElementCheck

/-! ## Attributes and text -/

def attributePlace (place : DocPath) (name : String) : DocPath :=
  place.field ("@" ++ name)

def expectedAttributes (rules : RuleTable) (place : DocPath) (expected actual : Dict String) :
    List Mismatch :=
  expected.toList.flatMap fun (name, value) =>
    match actual.get? name with
    | some received =>
      compareLeaf rules (attributePlace place name) (.string value) (.string received)
    | none =>
      [bodyMismatch (attributePlace place name) (.string value) .null
        ("Expected attribute '" ++ name ++ "' but was missing")]

def unexpectedAttributes (place : DocPath) (expected actual : Dict String) : List Mismatch :=
  actual.toList.filterMap fun (name, value) =>
    if expected.contains name then none
    else
      some (bodyMismatch (attributePlace place name) .null (.string value)
        ("Unexpected attribute '" ++ name ++ "'"))

/-- Compares texts; with `lenient` a text that is not expected does not matter. -/
def compareText (rules : RuleTable) (place : DocPath) (lenient : Bool) (expected actual : String) :
    List Mismatch :=
  if expected.isEmpty ∧ (lenient ∨ actual.isEmpty) then []
  else compareLeaf rules (place.field "#text") (.string expected) (.string actual)

/-! ## Groups of siblings -/

/-- Names in the order in which they first stand, each once. -/
def distinct : List String → List String
  | [] => []
  | name :: names => name :: (distinct names).filter (· != name)

def countMismatch (place : DocPath) (expected actual : Nat) (description : String) : Mismatch :=
  bodyMismatch place (.ofNat expected) (.ofNat actual) description

/-- Whether bounds allow that there is no element. -/
def allowsNone (resolved : Option RuleTable.Resolved) : Bool :=
  match resolved.bind RuleTable.Resolved.bounds? with
  | some (least, _) => least.getD 0 == 0
  | none => false

/-- Compares the siblings of one name. -/
def checkGroup (rules : RuleTable) (place : DocPath) (name : String) (checks : List ElementCheck)
    (actual : List Element) : List Mismatch :=
  let resolved := rules.resolve .body place
  let count (description : Option String) : List Mismatch :=
    description.toList.map (countMismatch place checks.length actual.length)
  if actual.isEmpty then
    count
      (if allowsNone resolved then none
        else some ("Expected child element <" ++ name ++ "> but was missing"))
  else if typeOnly resolved then
    let bounds := resolved.bind RuleTable.Resolved.bounds?
    count (bounds.bind fun (least, most) => boundsFailure actual.length least most) ++
      checkTemplates place checks actual
  else
    count
      (if checks.length = actual.length then none
        else some ("Expected " ++ toString checks.length ++ " <" ++ name ++
          "> element(s) but received " ++ toString actual.length)) ++
      checkPaired place 0 checks actual

def withName (name : String) (es : List Element) : List Element :=
  es.filter fun e => e.name == name

def checkGroups (rules : RuleTable) (place : DocPath) (checks : List NamedCheck)
    (actual : List Element) : List Mismatch :=
  (distinct (checks.map Prod.fst)).flatMap fun name =>
    let group := checks.filter fun check => check.1 == name
    checkGroup rules (place.field name) name (group.map Prod.snd) (withName name actual)

/-- The mismatches of received groups of siblings that are not expected. -/
def unexpectedGroups (place : DocPath) (checks : List NamedCheck) (actual : List Element) :
    List Mismatch :=
  (distinct (actual.map Element.name)).filterMap fun name =>
    if checks.any fun check => check.1 == name then none
    else
      some (bodyMismatch (place.field name) .null (.ofNat (withName name actual).length)
        ("Unexpected child element <" ++ name ++ ">"))

/-! ## Elements -/

/-- Compares two elements, the children of the expected one given by their checks. -/
def compareElement (rules : RuleTable) (attributes : Dict String) (text : String)
    (checks : List NamedCheck) (place : DocPath) (actual : Element) : List Mismatch :=
  let lenient := typeOnly (rules.resolve .body place)
  expectedAttributes rules place attributes actual.attributes ++
    (if lenient then [] else unexpectedAttributes place attributes actual.attributes) ++
    compareText rules place lenient text actual.text ++
    checkGroups rules place checks actual.children ++
    (if lenient then [] else unexpectedGroups place checks actual.children)

mutual

/-- The check that an expected element makes. -/
def elementCheck (rules : RuleTable) : Element → ElementCheck
  | .mk _ attributes text children =>
    compareElement rules attributes text (childChecks rules children)

/-- The checks of the children of an expected element, by name. -/
def childChecks (rules : RuleTable) : List Element → List NamedCheck
  | [] => []
  | child :: children => (child.name, elementCheck rules child) :: childChecks rules children

end

def matchXml (rules : RuleTable) (expected actual : Bytes) : List Mismatch :=
  match Xml.parse expected with
  | .error e => [unreadable "XML" "expected" e.message (.string expected.toStringLossy) .null]
  | .ok e =>
    match Xml.parse actual with
    | .error a => [unreadable "XML" "actual" a.message .null (.string actual.toStringLossy)]
    | .ok a =>
      if e.name = a.name then elementCheck rules e (DocPath.root.field e.name) a
      else
        [bodyMismatch .root (.string e.name) (.string a.name)
          ("Expected root element <" ++ e.name ++ "> but received <" ++ a.name ++ ">")]

end MockProvider.Matching
