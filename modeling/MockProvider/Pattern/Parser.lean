import MockProvider.Pattern.Bracket

/-!
# Reading patterns

`Pattern.ofText?` reads a regular expression. Choice binds loosest, then sequence, then repetition.
A group in parentheses may set flags, which last to its end, and a group that holds nothing else
sets them for the rest of the group around it. Groups may have names, each of which is used once;
there is no way to refer back to a group or to look ahead of the place.

Two bounds keep patterns small: constructs nest at most 250 deep, and a pattern with its counted
repetitions written out takes up no more room than ten mebibytes.
-/

namespace MockProvider.Pattern

/-- A pattern that has been read, with the depth of its constructs and the room it takes. -/
structure Reading where
  pattern : Pattern
  depth : Nat
  room : Nat

/-- What goes along from left to right: the flags in force and the names of the groups so far. -/
structure Context where
  flags : Flags := {}
  names : List (List Char) := []

/-- A sequence that has been read, with the number of its parts. -/
structure Sequence where
  pattern : Pattern := .empty
  count : Nat := 0
  depth : Nat := 0
  room : Nat := 0

/-- The sequence with a part in front. Setting flags is a part that matches nothing. -/
def Sequence.cons (first : Reading) (s : Sequence) : Sequence :=
  { pattern := if s.count = 0 then first.pattern else .seq first.pattern s.pattern
    count := s.count + 1
    depth := max first.depth s.depth
    room := first.room + s.room }

/-- The sequence as a whole; two or more parts are a construct of their own. -/
def Sequence.close (s : Sequence) : Reading :=
  ⟨s.pattern, if s.count < 2 then s.depth else s.depth + 1, s.room⟩

/-! ## Single characters -/

def literal (f : Flags) (c : Char) : Reading :=
  if f.ignoreCase then ⟨.set (f.fold (CharSet.single c)), 0, 48 * c.utf8Size⟩
  else ⟨.set (CharSet.single c), 0, 32 * c.utf8Size⟩

/-- What a point matches: any character but the end of a line, or with the flag for it any. Narrow
    patterns have no such set. -/
def dot (f : Flags) : Option Reading :=
  if f.wide then
    let accepts : CharSet :=
      if f.dotAll then CharSet.all
      else if f.crlf then fun c => c != '\n' && c != '\r'
      else fun c => c != '\n'
    some ⟨.set accepts, 0, 400⟩
  else none

def startSign (f : Flags) : Look :=
  if f.multiLine then (if f.crlf then .lineStartCrlf else .lineStart) else .textStart

/-- What a dollar sign asserts. -/
def endSign (f : Flags) : Look :=
  if f.multiLine then (if f.crlf then .lineEndCrlf else .lineEnd) else .textEnd

def Primitive.reading (f : Flags) : Primitive → Reading
  | .literal c => Pattern.literal f c
  | .set accepts room => ⟨.set accepts, 0, room⟩
  | .look assertion => ⟨.look assertion, 0, 32⟩

/-! ## Repetition -/

def countBound : Nat := 0x100000000

/-- Reads digits, with layout between them; at most `fuel` of them. -/
def countDigits (f : Flags) : (fuel : Nat) → List Char → List Char × List Char
  | 0, cs => ([], cs)
  | fuel + 1, cs =>
    match cs with
    | [] => ([], [])
    | c :: rest =>
      if c.isDigit then
        let (digits, rest) := countDigits f fuel (f.skip rest)
        (c :: digits, rest)
      else ([], c :: rest)

/-- The text without the blanks in front, which may stand around a count in any layout. -/
def skipAround (f : Flags) (cs : List Char) : List Char :=
  f.skip (cs.dropWhile Text.isBlank)

/-- Reads a count, with blanks around it; `none` stands for no digits. -/
def count (f : Flags) (cs : List Char) : Option (Option Nat × List Char) :=
  let (digits, rest) := countDigits f (cs.length + 1) (cs.dropWhile Text.isBlank)
  let n := digits.foldl (fun n c => n * 10 + (c.toNat - '0'.toNat)) 0
  if digits.isEmpty then some (none, skipAround f rest)
  else if n < countBound then some (some n, skipAround f rest)
  else none

/-- Reads the bounds of a repetition up to the closing brace; the opening one has been read. -/
def bounds (f : Flags) (cs : List Char) : Option ((Nat × Option Nat) × List Char) := do
  let (least, rest) ← count f (f.skip cs)
  match rest with
  | '\x7d' :: rest =>
    let least ← least
    some ((least, some least), rest)
  | ',' :: rest =>
    match f.skip rest with
    | '\x7d' :: rest =>
      let least ← least
      some ((least, none), rest)
    | rest => do
      let least ← least
      let (most, rest) ← count f rest
      let most ← most
      match rest with
      | '\x7d' :: rest => if least ≤ most then some ((least, some most), rest) else none
      | _ => none
  | _ => none

/-- The text without a question mark in front: what is preferred among several matches does not
    matter here. -/
def skipLazy (cs : List Char) : List Char :=
  match cs with
  | '?' :: rest => rest
  | _ => cs

def Reading.repeat (r : Reading) (least : Nat) (most : Option Nat) : Reading :=
  ⟨.repeat r.pattern least most, r.depth + 1, r.room * max least (most.getD (max least 1)) + 64⟩

/-- Reads the operators that repeat what has been read, at most `fuel` of them. -/
def repetitions (f : Flags) : (fuel : Nat) → Reading → List Char → Option (Reading × List Char)
  | 0, r, cs => some (r, cs)
  | fuel + 1, r, cs =>
    match f.skip cs with
    | '?' :: rest => repetitions f fuel (r.repeat 0 (some 1)) (skipLazy rest)
    | '*' :: rest => repetitions f fuel (r.repeat 0 none) (skipLazy rest)
    | '+' :: rest => repetitions f fuel (r.repeat 1 none) (skipLazy rest)
    | '\x7b' :: rest => do
      let ((least, most), rest) ← bounds f rest
      repetitions f fuel (r.repeat least most) (skipLazy (f.skip rest))
    | rest => some (r, rest)

/-! ## Groups -/

def isNameChar (first : Bool) (c : Char) : Bool :=
  if first then
    c == '_' || (if c.toNat < 0x80 then c.isAlpha else Unicode.Property.isAlphabetic c.toNat)
  else c == '_' || c == '.' || c == '[' || c == ']' || Unicode.Property.isAlphanumeric c

def isGroupName : List Char → Bool
  | [] => false
  | c :: rest => isNameChar true c && rest.all (isNameChar false)

/-- How a group begins. -/
inductive Opening where
  | group (context : Context)
  | flagsOnly (flags : Flags)

/-- Reads the name of a group up to the angle bracket that ends it. -/
def groupName (ctx : Context) (cs : List Char) : Option (Opening × List Char) :=
  let name := cs.takeWhile (· != '>')
  match cs.dropWhile (· != '>') with
  | [] => none
  | _ :: rest =>
    if isGroupName name ∧ !ctx.names.contains name then
      some (.group { ctx with names := name :: ctx.names }, rest)
    else none

def opening (ctx : Context) (cs : List Char) : Option (Opening × List Char) :=
  match ctx.flags.skip cs with
  | '?' :: '=' :: _ => none
  | '?' :: '!' :: _ => none
  | '?' :: '<' :: '=' :: _ => none
  | '?' :: '<' :: '!' :: _ => none
  | '?' :: 'P' :: '<' :: rest => groupName ctx rest
  | '?' :: '<' :: rest => groupName ctx rest
  | '?' :: rest =>
    match flagItem ctx.flags [] true false rest with
    | some (flags, some_flag, ')' :: rest) => if some_flag then some (.flagsOnly flags, rest) else none
    | some (flags, _, ':' :: rest) => some (.group { ctx with flags := flags }, rest)
    | _ => none
  | rest => some (.group ctx, rest)

mutual

/-- Reads sequences between bars, up to the end of the group. -/
def choice : (fuel : Nat) → Context → List Char → Option (Reading × Bool × Context × List Char)
  | 0, _, _ => none
  | fuel + 1, ctx, cs => do
    let (first, ctx, rest) ← sequence fuel ctx cs
    let first := first.close
    match rest with
    | '|' :: rest => do
      let (others, _, ctx, rest) ← choice fuel ctx rest
      some (⟨.alt first.pattern others.pattern, max first.depth others.depth,
        first.room + others.room + 32⟩, true, ctx, rest)
    | rest => some (first, false, ctx, rest)

/-- Reads the parts of a sequence, up to a bar or the end of the group. -/
def sequence : (fuel : Nat) → Context → List Char → Option (Sequence × Context × List Char)
  | 0, _, _ => none
  | fuel + 1, ctx, cs =>
    match ctx.flags.skip cs with
    | [] => some ({}, ctx, [])
    | '|' :: rest => some ({}, ctx, '|' :: rest)
    | ')' :: rest => some ({}, ctx, ')' :: rest)
    | c :: rest => do
      let (first, ctx, rest) ← part fuel ctx c rest
      let (others, ctx, rest) ← sequence fuel ctx rest
      some (others.cons first, ctx, rest)

/-- Reads a part of a sequence whose first character has been read, and the operators that repeat
    it. Setting flags cannot be repeated. -/
def part : (fuel : Nat) → Context → Char → List Char → Option (Reading × Context × List Char)
  | 0, _, _, _ => none
  | fuel + 1, ctx, c, rest =>
    let f := ctx.flags
    let repeated (r : Reading) (ctx : Context) (rest : List Char) :
        Option (Reading × Context × List Char) :=
      (repetitions f (rest.length + 1) r rest).map fun (r, rest) => (r, ctx, rest)
    match c with
    | '(' =>
      match opening ctx rest with
      | none => none
      | some (.flagsOnly flags, rest) =>
        -- an operator after it has nothing to repeat
        some (⟨.empty, 0, 0⟩, { ctx with flags := flags }, rest)
      | some (.group inner, rest) => do
        let (body, several, inner, rest) ← choice fuel inner rest
        match rest with
        | ')' :: rest =>
          let depth := if several then body.depth + 2 else body.depth + 1
          repeated ⟨body.pattern, depth, body.room + 64⟩ { ctx with names := inner.names } rest
        | _ => none
    | '[' => do
      let (b, rest) ← bracket f (2 * rest.length + 2) rest
      repeated ⟨.set b.accepts, b.depth, b.room⟩ ctx rest
    | '\\' => do
      let (primitive, rest) ← escape f rest
      repeated (primitive.reading f) ctx rest
    | '.' => do
      let r ← dot f
      repeated r ctx rest
    | '^' => repeated ⟨.look (startSign f), 0, 32⟩ ctx rest
    | '$' => repeated ⟨.look (endSign f), 0, 32⟩ ctx rest
    | '?' => none
    | '*' => none
    | '+' => none
    | '\x7b' => none
    | c => repeated (literal f c) ctx rest

end

/-! ## Whole patterns -/

/-- How deep constructs may nest. -/
def maxDepth : Nat := 250

/-- How much room a pattern may take. -/
def maxRoom : Nat := 10 * 0x100000

def ofChars? (cs : List Char) : Option Pattern := do
  let (r, several, _, rest) ← choice (3 * cs.length + 3) {} cs
  let depth := if several then r.depth + 1 else r.depth
  if rest.isEmpty ∧ depth ≤ maxDepth ∧ r.room ≤ maxRoom then some r.pattern else none

def ofText? (text : String) : Option Pattern :=
  ofChars? text.toList

end MockProvider.Pattern
