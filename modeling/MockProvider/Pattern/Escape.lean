import MockProvider.Pattern.Basic
import MockProvider.Pattern.Flags
import MockProvider.Text.Basic

/-!
# Escapes of patterns

What a backslash and the characters after it stand for: a character, a set of characters or an
assertion. Narrow patterns know ASCII sets only, and none of them can be negated.
-/

namespace MockProvider.Pattern

/-- What an escape or a single character stands for, with the room that its set takes. -/
inductive Primitive where
  | literal (c : Char)
  | set (accepts : CharSet) (room : Nat)
  | look (assertion : Look)

def isMeta (c : Char) : Bool :=
  ['\\', '.', '+', '*', '?', '(', ')', '|', '[', ']', '\x7b', '\x7d', '^', '$', '#', '&', '-',
    '~'].contains c

/-- Characters that a backslash may stand before without changing them. -/
def isEscapable (c : Char) : Bool :=
  isMeta c || (c.toNat < 0x80 && !c.isAlphanum && c != '<' && c != '>')

def charOfHex (digits : List Char) : Option Char := do
  let n ← digits.foldlM (fun n c => (Ascii.hexValue? c.toNat).map (n * 16 + ·)) 0
  if n < 0xD800 ∨ (0xDFFF < n ∧ n < 0x110000) then some (Char.ofNat n) else none

/-- Reads exactly `count` hexadecimal digits; layout may stand between them and after them. -/
def hexDigits (f : Flags) : (count : Nat) → List Char → Option (List Char × List Char)
  | 0, cs => some ([], cs)
  | _ + 1, [] => none
  | count + 1, c :: rest =>
    if (Ascii.hexValue? c.toNat).isSome then
      (hexDigits f count (f.skip rest)).map fun (digits, rest) => (c :: digits, rest)
    else none

/-- Reads characters up to a closing brace, and the brace; layout is passed over. -/
def upToBrace (f : Flags) : (fuel : Nat) → List Char → Option (List Char × List Char)
  | 0, _ => none
  | fuel + 1, cs =>
    match f.skip cs with
    | [] => none
    | c :: rest =>
      if c = '\x7d' then some ([], rest)
      else (upToBrace f fuel rest).map fun (inside, rest) => (c :: inside, rest)

/-- Reads a character by number, of which `x`, `u` or `U` has been read. -/
def hexEscape (f : Flags) (kind : Char) (cs : List Char) : Option (Primitive × List Char) :=
  match f.skip cs with
  | [] => none
  | c :: rest =>
    if c = '\x7b' then do
      let (digits, rest) ← upToBrace f (rest.length + 1) rest
      if digits.isEmpty then none
      else
        let c ← charOfHex digits
        some (.literal c, f.skip rest)
    else do
      let count := if kind = 'x' then 2 else if kind = 'u' then 4 else 8
      let (digits, rest) ← hexDigits f count (c :: rest)
      let c ← charOfHex digits
      -- two digits name an octet, and outside ASCII an octet is no character
      if kind = 'x' ∧ !f.wide ∧ 0x80 ≤ c.toNat then none else some (.literal c, rest)

/-- The parts of a text before and after the first place where `mark` stands. -/
def cutAt (mark : List Char) : List Char → Option (List Char × List Char)
  | [] => none
  | c :: rest =>
    if mark.isPrefixOf (c :: rest) then some ([], (c :: rest).drop mark.length)
    else (cutAt mark rest).map fun (before, after) => (c :: before, after)

/-- The set that the text between the braces of a property names. -/
def propertySet (inside : List Char) : Option CharSet :=
  match cutAt ['!', '='] inside with
  | some (name, value) => CharSet.valued? name value
  | none =>
    match cutAt [':'] inside with
    | some (name, value) => CharSet.valued? name value
    | none =>
      match cutAt ['='] inside with
      | some (name, value) => CharSet.valued? name value
      | none => CharSet.named? inside

/-- Reads the name of a property, of which `p` or `P` has been read. -/
def propertyEscape (f : Flags) (negated : Bool) (cs : List Char) :
    Option (Primitive × List Char) := do
  let (accepts, rest) ←
    match f.skip cs with
    | [] => none
    | c :: rest =>
      if c = '\x7b' then do
        let (inside, rest) ← upToBrace f (rest.length + 1) rest
        let accepts ← propertySet inside
        some (accepts, rest)
      else if c = '\\' then none
      else do
        let accepts ← CharSet.named? [c]
        some (accepts, f.skip rest)
  if f.wide then
    let accepts := if f.ignoreCase then CharSet.foldCase true accepts else accepts
    some (.set (if negated then CharSet.compl accepts else accepts) 20000, rest)
  else none

/-- The set of a class such as digits, and the room it takes. -/
def classEscape (f : Flags) (c : Char) : Option (CharSet × Nat) :=
  let chosen :=
    match c.toLower with
    | 'd' => (CharSet.digit f.wide, 5000)
    | 's' => (CharSet.space f.wide, 700)
    | _ => (CharSet.word f.wide, 46000)
  if c.isUpper then
    if f.wide then some (CharSet.compl chosen.1, chosen.2) else none
  else if f.wide then some chosen
  else some (chosen.1, 64)

def isBoundaryChar (c : Char) : Bool :=
  c.isAlpha || c == '-'

def boundaryNamed? (wide : Bool) (name : List Char) : Option Look :=
  match String.ofList name with
  | "start" => some (.wordStart wide)
  | "end" => some (.wordEnd wide)
  | "start-half" => some (.wordStartHalf wide)
  | "end-half" => some (.wordEndHalf wide)
  | _ => none

/-- Reads a boundary, which may have a name in braces; braces that begin with another character
    are left for a repetition. -/
def boundaryEscape (f : Flags) (cs : List Char) : Option (Primitive × List Char) :=
  match cs with
  | '\x7b' :: rest =>
    match f.skip rest with
    | [] => none
    | c :: inside =>
      if isBoundaryChar c then do
        let (name, rest) ← upToBrace f (inside.length + 2) (c :: inside)
        let look ← boundaryNamed? f.wide name
        some (.look look, rest)
      else some (.look (.boundary f.wide), cs)
  | _ => some (.look (.boundary f.wide), cs)

def controlNamed? (c : Char) : Option Char :=
  match c with
  | 'a' => some '\x07'
  | 'f' => some '\x0C'
  | 't' => some '\t'
  | 'n' => some '\n'
  | 'r' => some '\r'
  | 'v' => some '\x0B'
  | _ => none

/-- The assertion that a character other than `b` stands for. -/
def lookNamed? (wide : Bool) (c : Char) : Option Look :=
  match c with
  | 'A' => some .textStart
  | 'z' => some .textEnd
  | 'B' => some (.noBoundary wide)
  | '<' => some (.wordStart wide)
  | '>' => some (.wordEnd wide)
  | _ => none

/-- Reads an escape whose backslash has been read. -/
def escape (f : Flags) : List Char → Option (Primitive × List Char)
  | [] => none
  | c :: rest =>
    if c = 'x' ∨ c = 'u' ∨ c = 'U' then hexEscape f c rest
    else if c = 'p' ∨ c = 'P' then propertyEscape f (c == 'P') rest
    else if ['d', 's', 'w', 'D', 'S', 'W'].contains c then
      (classEscape f c).map fun (accepts, room) => (.set accepts room, rest)
    else if isEscapable c then some (.literal c, rest)
    else if c = 'b' then boundaryEscape f rest
    else
      match controlNamed? c with
      | some control => some (.literal control, rest)
      | none => (lookNamed? f.wide c).map fun look => (.look look, rest)

end MockProvider.Pattern
