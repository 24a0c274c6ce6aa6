import MockProvider.Pattern.Escape

/-!
# Bracketed sets

A set in brackets lists characters, ranges, classes and further bracketed sets. Lists are combined
by intersection, difference and symmetric difference, which are taken from left to right. With the
flag for it, case variants are added before a set is negated.

A narrow pattern has no characters outside ASCII in its sets, so none of them can be negated.
-/

namespace MockProvider.Pattern

/-- A set that has been read: its depth counts the constructs nested in it, and its room tells how
    much it adds to the size of a pattern. -/
structure Bracket where
  accepts : CharSet
  depth : Nat
  room : Nat

/-- The members that have been read since the last operator. -/
structure Members where
  accepts : CharSet := CharSet.none
  count : Nat := 0
  depth : Nat := 0
  room : Nat := 0

def Members.add (m : Members) (accepts : CharSet) (depth room : Nat) : Members :=
  ⟨CharSet.union m.accepts accepts, m.count + 1, max m.depth depth, m.room + room⟩

/-- The members as one set; a list of two or more is a construct of its own. -/
def Members.close (m : Members) : Bracket :=
  ⟨m.accepts, if m.count < 2 then m.depth else m.depth + 1, m.room⟩

/-- How two lists of members are combined. -/
inductive Operator where
  | inter
  | diff
  | symDiff
deriving DecidableEq, Repr

def Operator.apply : Operator → CharSet → CharSet → CharSet
  | .inter => CharSet.inter
  | .diff => CharSet.diff
  | .symDiff => CharSet.symDiff

/-- The set with its case variants, when the flags ask for them. -/
def Flags.fold (f : Flags) (accepts : CharSet) : CharSet :=
  if f.ignoreCase then CharSet.foldCase f.wide accepts else accepts

/-- The set, negated when asked for; narrow sets are not negated. -/
def Flags.negate (f : Flags) (negated : Bool) (accepts : CharSet) : Option CharSet :=
  if negated then
    if f.wide then some (CharSet.compl accepts) else none
  else some accepts

/-- What stands left of the members that are being read, and the operator between. -/
abbrev Left := Option (Bracket × Operator)

def Members.combine (f : Flags) (left : Left) (m : Members) : Bracket :=
  let right := m.close
  match left with
  | none => right
  | some (left, operator) =>
    ⟨operator.apply (f.fold left.accepts) (f.fold right.accepts), max left.depth right.depth + 1,
      left.room + right.room⟩

/-- Reads an ASCII class such as `:alpha:` and its closing bracket; its opening bracket has been
    read. -/
def asciiClass (f : Flags) (cs : List Char) : Option (Option CharSet × List Char) :=
  match cs with
  | ':' :: rest =>
    let (negated, rest) : Bool × List Char :=
      match rest with
      | '^' :: rest => (true, rest)
      | _ => (false, rest)
    match rest.dropWhile (· != ':') with
    | _ :: ']' :: after =>
      (CharSet.asciiClass? (String.ofList (rest.takeWhile (· != ':')))).map fun set =>
        (f.negate negated (f.fold set), after)
    | _ => none
  | _ => none

/-- Whether a character can be a member of a set by itself. -/
def Flags.admits (f : Flags) (c : Char) : Bool :=
  f.wide || c.toNat < 0x80

/-- Reads a member that is no bracketed set: a character or an escape. -/
def memberPrimitive (f : Flags) : List Char → Option (Primitive × List Char)
  | [] => none
  | c :: rest => if c = '\\' then escape f rest else some (.literal c, rest)

/-- The next character that means something after a hyphen. -/
def afterHyphen (f : Flags) (cs : List Char) : Option Char :=
  (f.skip cs).head?

def member (f : Flags) (m : Members) (cs : List Char) : Option (Members × List Char) := do
  let (first, rest) ← memberPrimitive f cs
  let isRange :=
    match f.skip rest with
    | '-' :: after => afterHyphen f after != some ']' && afterHyphen f after != some '-'
    | _ => false
  if isRange then
    let (second, rest) ← memberPrimitive f (f.skip ((f.skip rest).drop 1))
    match first, second with
    | .literal low, .literal high =>
      if low ≤ high ∧ f.admits low ∧ f.admits high then
        some (m.add (CharSet.range low high) 0 (if high.toNat < 0x80 then 8 else 200), rest)
      else none
    | _, _ => none
  else
    match first with
    | .literal c =>
      if f.admits c then some (m.add (CharSet.single c) 0 (8 * c.utf8Size), rest) else none
    | .set accepts room => some (m.add accepts 0 room, rest)
    | .look _ => none

def negationSign (f : Flags) (cs : List Char) : Bool × List Char :=
  match cs with
  | '^' :: rest => (true, f.skip rest)
  | _ => (false, cs)

/-- Reads hyphens that stand for themselves, at most `fuel` of them. -/
def leadingHyphens (f : Flags) (m : Members) : (fuel : Nat) → List Char → Members × List Char
  | 0, cs => (m, cs)
  | fuel + 1, cs =>
    match cs with
    | '-' :: rest => leadingHyphens f (m.add (CharSet.single '-') 0 8) fuel (f.skip rest)
    | _ => (m, cs)

/-- Reads what may stand only at the begin of a list: hyphens, or else a closing bracket that stands
    for itself. -/
def leadingMembers (f : Flags) (cs : List Char) : Members × List Char :=
  match leadingHyphens f {} cs.length cs with
  | (m, ']' :: rest) =>
    if m.count = 0 then (m.add (CharSet.single ']') 0 8, f.skip rest) else (m, ']' :: rest)
  | (m, rest) => (m, rest)

mutual

/-- Reads a bracketed set whose opening bracket has been read. -/
def bracket (f : Flags) : (fuel : Nat) → List Char → Option (Bracket × List Char)
  | 0, _ => none
  | fuel + 1, cs => do
    let (negated, rest) := negationSign f (f.skip cs)
    let (m, rest) := leadingMembers f rest
    let (inside, rest) ← members f fuel none m rest
    let accepts ← f.negate negated (f.fold inside.accepts)
    some (⟨accepts, inside.depth + 1, inside.room + (if negated then 400 else 40)⟩, rest)

/-- Reads members up to the closing bracket of their set. -/
def members (f : Flags) : (fuel : Nat) → Left → Members → List Char → Option (Bracket × List Char)
  | 0, _, _, _ => none
  | fuel + 1, left, m, cs =>
    match f.skip cs with
    | [] => none
    | '[' :: rest =>
      match asciiClass f rest with
      | some (none, _) => none
      | some (some accepts, rest) => members f fuel left (m.add accepts 0 40) rest
      | none => do
        let (b, rest) ← bracket f fuel rest
        members f fuel left (m.add b.accepts b.depth b.room) rest
    | ']' :: rest => some (m.combine f left, rest)
    | '&' :: '&' :: rest => members f fuel (some (m.combine f left, .inter)) {} rest
    | '-' :: '-' :: rest => members f fuel (some (m.combine f left, .diff)) {} rest
    | '~' :: '~' :: rest => members f fuel (some (m.combine f left, .symDiff)) {} rest
    | c :: rest => do
      let (m, rest) ← member f m (c :: rest)
      members f fuel left m rest

end

end MockProvider.Pattern
