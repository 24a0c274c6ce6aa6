import MockProvider.Dict.Basic
import MockProvider.Text.Basic
import MockProvider.Text.Utf8

/-!
# XML elements and their reader

The elements of a document are kept as they are compared: local names, attributes by local name, the
text right inside an element without the blanks around it, and the elements inside it. Comments
and processing instructions leave no trace.

`Xml.parse` reads a document and gives its root element. A document has one root element, with
blanks, comments and processing instructions around it, and may begin with a declaration and after
it a document type. Prefixes have to be declared, no two attributes have one name, and references
are to characters by number or to one of five names. Line ends and blanks in attributes are kept as
they are.
-/

namespace MockProvider.Xml

/-! ## Trees of elements -/

inductive Element where
  | mk (name : String) (attributes : Dict String) (text : String) (children : List Element)

namespace Element

def name : Element → String
  | mk name _ _ _ => name

def attributes : Element → Dict String
  | mk _ attributes _ _ => attributes

/-- The text right inside an element. -/
def text : Element → String
  | mk _ _ text _ => text

/-- The elements right inside an element. -/
def children : Element → List Element
  | mk _ _ _ children => children

end Element

/-! ## Faults -/

/-- Why octets are no document. -/
inductive Fault where
  | notText
  | malformed
  | badReference
  | duplicateAttribute
  | emptyNamespace
  | undeclaredNamespace
  | wrongEndTag
  | unfinished
deriving DecidableEq, Repr

def Fault.message : Fault → String
  | .notText => "not UTF-8"
  | .malformed => "not well formed"
  | .badReference => "unknown reference"
  | .duplicateAttribute => "an attribute stands twice"
  | .emptyNamespace => "a namespace is empty"
  | .undeclaredNamespace => "a namespace is not declared"
  | .wrongEndTag => "an end tag has another name"
  | .unfinished => "the document ends too early"

/-! ## Characters and names -/

def isSpace (c : Char) : Bool :=
  c == ' ' || c == '\t' || c == '\n' || c == '\r'

/-- Characters that begin a name; colons are left out. -/
def isNameStart (c : Char) : Bool :=
  let n := c.toNat
  c.isAlpha || c == '_' || (0xC0 ≤ n && n ≤ 0xD6) || (0xD8 ≤ n && n ≤ 0xF6) ||
    (0xF8 ≤ n && n ≤ 0x2FF) || (0x370 ≤ n && n ≤ 0x37D) || (0x37F ≤ n && n ≤ 0x1FFF) ||
    (0x200C ≤ n && n ≤ 0x200D) || (0x2070 ≤ n && n ≤ 0x218F) || (0x2C00 ≤ n && n ≤ 0x2FEF) ||
    (0x3001 ≤ n && n ≤ 0xD7FF) || (0xF900 ≤ n && n ≤ 0xFDCF) || (0xFDF0 ≤ n && n ≤ 0xFFFD) ||
    (0x10000 ≤ n && n ≤ 0xEFFFF)

/-- Characters inside a name; colons are left out. -/
def isNamePart (c : Char) : Bool :=
  let n := c.toNat
  isNameStart c || c == '-' || c == '.' || c.isDigit || n == 0xB7 ||
    (0x300 ≤ n && n ≤ 0x36F) || (0x203F ≤ n && n ≤ 0x2040)

/-- A name, perhaps with a prefix. -/
structure Name where
  space : Option String
  part : String
deriving DecidableEq, Repr

/-- The text without the blanks in front. -/
def skipSpace (cs : List Char) : List Char :=
  cs.dropWhile isSpace

def startsBlank : List Char → Bool
  | c :: _ => isSpace c
  | [] => false

def after? (word : String) (cs : List Char) : Option (List Char) :=
  if word.toList.isPrefixOf cs then some (cs.drop word.length) else none

/-- The text after the first place where a word stands, and the text before it. -/
def until? (word : String) : List Char → Option (List Char × List Char)
  | [] => none
  | c :: cs =>
    match after? word (c :: cs) with
    | some rest => some ([], rest)
    | none => (until? word cs).map fun (before, rest) => (c :: before, rest)

/-- Reads a name without a prefix. -/
def localName (cs : List Char) : Except Fault (String × List Char) :=
  match cs with
  | [] => .error .unfinished
  | c :: rest =>
    if isNameStart c then
      .ok (String.ofList (c :: rest.takeWhile isNamePart), rest.dropWhile isNamePart)
    else .error .malformed

/-- Reads a name, perhaps with a prefix. -/
def qualifiedName (cs : List Char) : Except Fault (Name × List Char) := do
  let (first, rest) ← localName cs
  match rest with
  | ':' :: rest => do
    let (part, rest) ← localName rest
    return (⟨some first, part⟩, rest)
  | rest => return (⟨none, first⟩, rest)

/-- Reads a name in which colons mean nothing. -/
def plainName (cs : List Char) : Except Fault (String × List Char) :=
  match cs with
  | [] => .error .unfinished
  | c :: rest =>
    if isNameStart c ∨ c = ':' then
      let inside (c : Char) : Bool := isNamePart c || c == ':'
      .ok (String.ofList (c :: rest.takeWhile inside), rest.dropWhile inside)
    else .error .malformed

/-! ## References -/

/-- The character with a number, when there is one. -/
def charNumbered? (n : Nat) : Option Char :=
  if n < 0xD800 ∨ (0xDFFF < n ∧ n < 0x110000) then some (Char.ofNat n) else none

/-- The value of digits in a base, bounded so that it stays small. -/
def digitsValue? (base : Nat) (digits : List Char) : Option Nat :=
  if digits.isEmpty then none
  else
    digits.foldlM (fun n c =>
      let d :=
        if c.isDigit then c.toNat - 48
        else if 'a' ≤ c ∧ c ≤ 'f' then c.toNat - 87
        else if 'A' ≤ c ∧ c ≤ 'F' then c.toNat - 55
        else base
      if d < base then some (min (n * base + d) 0x110000) else none) 0

def charNamed? : String → Option Char
  | "lt" => some '<'
  | "gt" => some '>'
  | "amp" => some '&'
  | "quot" => some '"'
  | "apos" => some '\''
  | _ => none

/-- What stands between the ampersand and the semicolon of a reference. -/
def referent? (inside : List Char) : Option Char :=
  match inside with
  | '#' :: 'x' :: digits => (digitsValue? 16 digits).bind charNumbered?
  | '#' :: digits => (digitsValue? 10 digits).bind charNumbered?
  | name => charNamed? (String.ofList name)

/-- Reads a reference whose ampersand has been read. -/
def reference (cs : List Char) : Except Fault (Char × List Char) :=
  match until? ";" cs with
  | none => .error .malformed
  | some (inside, rest) =>
    match referent? inside with
    | some c => .ok (c, rest)
    | none => .error .badReference

/-! ## Attributes -/

/-- Reads a value up to its closing quote, in at most `fuel` steps. -/
def quotedText (quote : Char) : (fuel : Nat) → List Char → Except Fault (List Char × List Char)
  | 0, _ => .error .unfinished
  | _ + 1, [] => .error .unfinished
  | fuel + 1, c :: rest =>
    if c = quote then .ok ([], rest)
    else if c = '<' then .error .malformed
    else if c = '&' then do
      let (d, rest) ← reference rest
      let (text, rest) ← quotedText quote fuel rest
      return (d :: text, rest)
    else do
      let (text, rest) ← quotedText quote fuel rest
      return (c :: text, rest)

/-- Reads an equals sign with blanks around it. -/
def equals (cs : List Char) : Except Fault (List Char) :=
  match skipSpace cs with
  | '=' :: rest => .ok (skipSpace rest)
  | _ => .error .malformed

/-- An attribute as it stands in a tag. -/
structure Attribute where
  name : Name
  value : String
deriving DecidableEq, Repr

def oneAttribute (cs : List Char) : Except Fault (Attribute × List Char) := do
  let (name, rest) ← qualifiedName cs
  let rest ← equals rest
  match rest with
  | [] => .error .unfinished
  | quote :: rest =>
    if quote = '"' ∨ quote = '\'' then do
      let (value, rest) ← quotedText quote (rest.length + 1) rest
      return (⟨name, String.ofList value⟩, rest)
    else .error .malformed

/-- Reads the attributes of a tag up to its end, at most `fuel` of them: the attributes, and whether
    the tag closes its element. -/
def attributes : (fuel : Nat) → List Char → Except Fault (List Attribute × Bool × List Char)
  | 0, _ => .error .unfinished
  | fuel + 1, cs =>
    match skipSpace cs with
    | '/' :: '>' :: rest => .ok ([], true, rest)
    | '>' :: rest => .ok ([], false, rest)
    | rest =>
      if startsBlank cs then do
        let (first, rest) ← oneAttribute rest
        let (others, closed, rest) ← attributes fuel rest
        return (first :: others, closed, rest)
      else .error .malformed

def hasDuplicate : List Name → Bool
  | [] => false
  | name :: names => names.contains name || hasDuplicate names

def Attribute.declares (a : Attribute) : Bool :=
  a.name.space == some "xmlns"

/-- Attributes that declare a namespace, with or without a prefix. -/
def Attribute.isNamespace (a : Attribute) : Bool :=
  a.declares || a.name == ⟨none, "xmlns"⟩

def Name.isDeclared (name : Name) (declared : List String) : Bool :=
  match name.space with
  | none => true
  | some space => declared.contains space

/-- The prefixes that are declared inside a tag with these attributes. -/
def scope (declared : List String) (attributes : List Attribute) : List String :=
  (attributes.filter Attribute.declares).map (·.name.part) ++ declared

/-- The attributes of an element by local name; of two with one local name the earlier counts. -/
def byLocalName (attributes : List Attribute) : Dict String :=
  .ofList (attributes.reverse.map fun a => (a.name.part, a.value))

/-- Checks the names of a tag and gives the attributes that are not declarations. -/
def checkedAttributes (declared : List String) (name : Name) (attributes : List Attribute) :
    Except Fault (Dict String) :=
  let plain := attributes.filter fun a => !a.isNamespace
  if hasDuplicate (attributes.map Attribute.name) then .error .duplicateAttribute
  else if attributes.any fun a => a.declares && a.value.isEmpty then .error .emptyNamespace
  else if name.isDeclared declared ∧ plain.all fun a => a.name.isDeclared declared then
    .ok (byLocalName plain)
  else .error .undeclaredNamespace

/-! ## Comments and instructions -/

/-- Passes over a comment whose begin has been read; two hyphens may stand only at its end. -/
def comment (cs : List Char) : Except Fault (List Char) :=
  match until? "--" cs with
  | some (_, '>' :: rest) => .ok rest
  | _ => .error .malformed

/-- Passes over a processing instruction whose begin has been read. -/
def instruction (cs : List Char) : Except Fault (List Char) := do
  let (target, rest) ← plainName cs
  if (target.toList.map Char.toLower) = "xml".toList then .error .malformed
  else
    match after? "?>" rest with
    | some rest => return rest
    | none =>
      if startsBlank rest then
        match until? "?>" rest with
        | some (_, rest) => return rest
        | none => .error .unfinished
      else .error .malformed

/-! ## Elements -/

/-- Reads the end of an element whose end tag has been begun. -/
def endTag (name : Name) (cs : List Char) : Except Fault (List Char) := do
  let (other, rest) ← qualifiedName cs
  match skipSpace rest with
  | '>' :: rest => if other = name then return rest else .error .wrongEndTag
  | _ => .error .malformed

mutual

/-- Reads an element whose opening bracket has been read. -/
def element : (fuel : Nat) → (declared : List String) → List Char →
    Except Fault (Element × List Char)
  | 0, _, _ => .error .unfinished
  | fuel + 1, declared, cs => do
    let (name, rest) ← qualifiedName cs
    let (given, closed, rest) ← attributes (rest.length + 1) rest
    let inside := scope declared given
    let attributes ← checkedAttributes inside name given
    if closed then return (.mk name.part attributes "" [], rest)
    else do
      let (text, children, rest) ← content fuel inside rest
      let rest ← endTag name rest
      return (.mk name.part attributes (String.ofList (Text.trimChars text)) children, rest)

/-- Reads the content of an element up to the begin of its end tag: its text and the elements inside
    it. -/
def content : (fuel : Nat) → (declared : List String) → List Char →
    Except Fault (List Char × List Element × List Char)
  | 0, _, _ => .error .unfinished
  | fuel + 1, declared, cs =>
    match cs with
    | [] => .error .unfinished
    | '<' :: '/' :: rest => .ok ([], [], rest)
    | '<' :: '!' :: '-' :: '-' :: rest => do
      let rest ← comment rest
      content fuel declared rest
    | '<' :: '!' :: rest =>
      match (after? "[CDATA[" rest).bind (until? "]]>") with
      | none => .error .malformed
      | some (data, rest) => do
        let (text, children, rest) ← content fuel declared rest
        return (data ++ text, children, rest)
    | '<' :: '?' :: rest => do
      let rest ← instruction rest
      content fuel declared rest
    | '<' :: rest => do
      let (child, rest) ← element fuel declared rest
      let (text, children, rest) ← content fuel declared rest
      return (text, child :: children, rest)
    | '&' :: rest => do
      let (c, rest) ← reference rest
      let (text, children, rest) ← content fuel declared rest
      return (c :: text, children, rest)
    | ']' :: ']' :: '>' :: _ => .error .malformed
    | c :: rest => do
      let (text, children, rest) ← content fuel declared rest
      return (c :: text, children, rest)

end

/-! ## Documents -/

/-- Passes over blanks, comments and instructions, at most `fuel` of them, as far as there are any. -/
def misc : (fuel : Nat) → List Char → Except Fault (List Char)
  | 0, cs => .ok cs
  | fuel + 1, cs =>
    match skipSpace cs with
    | '<' :: '!' :: '-' :: '-' :: rest => do
      let rest ← comment rest
      misc fuel rest
    | '<' :: '?' :: rest =>
      -- a declaration is no instruction
      match instruction rest with
      | .ok rest => misc fuel rest
      | .error _ => .ok ('<' :: '?' :: rest)
    | rest => .ok rest

def quotedSuch (test : List Char → Bool) (cs : List Char) : Except Fault (List Char) :=
  match cs with
  | [] => .error .unfinished
  | quote :: rest =>
    if quote = '"' ∨ quote = '\'' then
      match rest.dropWhile (· != quote) with
      | [] => .error .unfinished
      | _ :: after => if test (rest.takeWhile (· != quote)) then .ok after else .error .malformed
    else .error .malformed

/-- Reads a part of the declaration, if it is there. -/
def declarationPart (word : String) (test : List Char → Bool) (cs : List Char) :
    Except Fault (Option (List Char)) :=
  if startsBlank cs then
    match after? word (skipSpace cs) with
    | none => .ok none
    | some rest => do
      let rest ← equals rest
      let rest ← quotedSuch test rest
      return some rest
  else .ok none

def isVersion : List Char → Bool
  | '1' :: '.' :: digits => !digits.isEmpty && digits.all Char.isDigit
  | _ => false

def isEncoding : List Char → Bool
  | [] => false
  | c :: rest => c.isAlpha && rest.all fun d => d.isAlphanum || d == '.' || d == '_' || d == '-'

def declaration (cs : List Char) : Except Fault (List Char) := do
  match ← declarationPart "version" isVersion cs with
  | none => .error .malformed
  | some rest => do
    let rest := (← declarationPart "encoding" isEncoding rest).getD rest
    let standalone (v : List Char) : Bool := v == "yes".toList || v == "no".toList
    let rest := (← declarationPart "standalone" standalone rest).getD rest
    match after? "?>" (skipSpace rest) with
    | some rest => return rest
    | none => .error .malformed

/-- Passes over the identifier of an external document type, if there is one. -/
def externalId (cs : List Char) : Except Fault (List Char) :=
  let rest := skipSpace cs
  match after? "SYSTEM" rest with
  | some rest => quotedSuch (fun _ => true) (skipSpace rest)
  | none =>
    match after? "PUBLIC" rest with
    | some rest => do
      let rest ← quotedSuch (fun _ => true) (skipSpace rest)
      quotedSuch (fun _ => true) (skipSpace rest)
    | none => .ok cs

def documentType (cs : List Char) : Except Fault (List Char) := do
  if startsBlank cs then
    let (_, rest) ← plainName (skipSpace cs)
    let rest ← externalId rest
    let rest :=
      match skipSpace rest with
      | '[' :: inside => (inside.dropWhile (· != ']')).drop 1
      | rest => rest
    match skipSpace rest with
    | '>' :: rest => return rest
    | _ => .error .malformed
  else .error .malformed

/-- Passes over what stands before the root element. Only after a declaration there may be a
    document type. -/
def prolog (cs : List Char) : Except Fault (List Char) := do
  let rest ← misc cs.length cs
  match after? "<?xml" rest with
  | none => return rest
  | some rest => do
    let rest ← declaration rest
    let rest ← misc rest.length rest
    match after? "<!DOCTYPE" rest with
    | none => return rest
    | some rest => do
      let rest ← documentType rest
      misc rest.length rest

def ofChars (cs : List Char) : Except Fault Element := do
  let rest ← prolog cs
  match rest with
  | '<' :: rest => do
    let (root, rest) ← element (rest.length + 1) ["xml"] rest
    let rest ← misc rest.length rest
    if rest.isEmpty then return root else .error .malformed
  | _ => .error .malformed

def parse (bytes : Bytes) : Except Fault Element :=
  match Utf8.decode? bytes with
  | none => .error .notText
  | some cs => ofChars cs

end MockProvider.Xml
