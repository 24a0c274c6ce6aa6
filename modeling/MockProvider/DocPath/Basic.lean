import MockProvider.Unicode.Property

/-!
# Paths into documents

A path leads from the root of a document down through fields and items. With wildcards among its
steps it is an expression that stands for many places; without, it names one place.

* `DocPath.weightAgainst` tells how well an expression fits a place: each exact step weighs two and
  each wildcard one, and the weights are multiplied. An expression also fits all places below.
* Weights are machine words. Where a product does not fit into one, `DocPath.overflowsAgainst`, it
  wraps around, or the program stops there if it was built to check its arithmetic.
* `DocPath.render` writes a path. A field is written after a point when its name is plain, and in
  brackets and quotes otherwise.
-/

namespace MockProvider

/-- A step down into a document. -/
inductive DocPath.Step where
  | field (name : String)
  | index (position : Nat)
  | anyChild
  | anyIndex
deriving DecidableEq, Repr

/-- The steps from the root of a document. -/
structure DocPath where
  steps : List DocPath.Step
deriving DecidableEq, Repr

namespace DocPath

def root : DocPath := ⟨[]⟩

instance : Inhabited DocPath := ⟨root⟩

def isRoot (p : DocPath) : Bool :=
  p.steps.isEmpty

/-- The number of steps, that to the root included. -/
def length (p : DocPath) : Nat :=
  p.steps.length + 1

def push (p : DocPath) (step : Step) : DocPath :=
  ⟨p.steps ++ [step]⟩

def field (p : DocPath) (name : String) : DocPath :=
  p.push (.field name)

def index (p : DocPath) (position : Nat) : DocPath :=
  p.push (.index position)

/-- The path without its first step below the root. -/
def dropFirst (p : DocPath) : DocPath :=
  ⟨p.steps.drop 1⟩

/-! ## Weights -/

/-- The weight of a step of an expression against a step of a place, when it fits. -/
def Step.weight : Step → Step → Option UInt64
  | .field a, .field b => if a = b then some 2 else none
  | .index a, .index b => if a = b then some 2 else none
  | .anyChild, .field _ => some 1
  | .anyChild, .index _ => some 1
  | .anyIndex, .index _ => some 1
  | _, _ => none

/-- Multiplies a weight with those of the steps, when there are no more of them than the place has
    and all of them fit. The product wraps around. -/
def stepsWeight (weight : UInt64) : List Step → List Step → Option UInt64
  | [], _ => some weight
  | _ :: _, [] => none
  | e :: es, a :: as =>
    match e.weight a with
    | some w => stepsWeight (weight * w) es as
    | none => none

/-- The weight of an expression against a place, when it fits the place or one above it. The root
    counts as an exact step. -/
def weightAgainst (expression place : DocPath) : Option Nat :=
  (stepsWeight 2 expression.steps place.steps).map UInt64.toNat

/-- Whether some product of a weight with those of the steps is too large for a word, before there is
    a step that does not fit. -/
def stepsOverflow (weight : UInt64) : List Step → List Step → Bool
  | e :: es, a :: as =>
    match e.weight a with
    | some w => UInt64.size ≤ weight.toNat * w.toNat || stepsOverflow (weight * w) es as
    | none => false
  | _, _ => false

/-- Whether the weight of an expression against a place wraps around on the way. An expression that
    is longer than the place is not weighed at all. -/
def overflowsAgainst (expression place : DocPath) : Bool :=
  expression.length ≤ place.length && stepsOverflow 2 expression.steps place.steps

/-! ## Writing -/

def isPlainChar (c : Char) : Bool :=
  Unicode.Property.isAlphanumeric c || c == '_' || c == '-' || c == '@' || c == '#' || c == ':'

def isPlain (name : List Char) : Bool :=
  !name.isEmpty && name.all isPlainChar

def Step.chars : Step → List Char
  | .field name =>
    if isPlain name.toList then '.' :: name.toList
    else '[' :: '\'' :: (name.toList ++ ['\'', ']'])
  | .index position => '[' :: (Nat.toDigits 10 position ++ [']'])
  | .anyChild => ['.', '*']
  | .anyIndex => ['[', '*', ']']

def chars (p : DocPath) : List Char :=
  '$' :: p.steps.flatMap Step.chars

def render (p : DocPath) : String :=
  String.ofList p.chars

end DocPath

end MockProvider
