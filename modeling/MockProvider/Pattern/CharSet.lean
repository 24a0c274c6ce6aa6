import MockProvider.Unicode.CaseFolding
import MockProvider.Unicode.Property
import MockProvider.Unicode.Script

/-!
# Sets of characters

A set is given by the test whether a character belongs to it. Classes such as digits and words come
in a wide form, over all characters, and in a narrow form, over ASCII alone.
-/

namespace MockProvider

/-- A set of characters, as a test. -/
abbrev CharSet := Char → Bool

namespace CharSet

def none : CharSet := fun _ => false

def all : CharSet := fun _ => true

def single (c : Char) : CharSet := fun d => d == c

/-- The characters from `low` to `high`, both included. -/
def range (low high : Char) : CharSet := fun c => low ≤ c && c ≤ high

def union (a b : CharSet) : CharSet := fun c => a c || b c

def inter (a b : CharSet) : CharSet := fun c => a c && b c

/-- The characters of the first set that are not in the second. -/
def diff (a b : CharSet) : CharSet := fun c => a c && !b c

def symDiff (a b : CharSet) : CharSet := fun c => a c != b c

def compl (a : CharSet) : CharSet := fun c => !a c

/-- The characters whose code points pass a test. -/
def ofCodePoints (test : Nat → Bool) : CharSet := fun c => test c.toNat

/-- The set with every case variant of its characters; among ASCII letters alone in the narrow
    form. -/
def foldCase (wide : Bool) (a : CharSet) : CharSet := fun c =>
  if wide then (Unicode.CaseFolding.variants c.toNat).any fun n => a (Char.ofNat n)
  else a c || a c.toLower || a c.toUpper

/-! ## Named classes -/

def digit (wide : Bool) : CharSet := fun c =>
  if wide ∧ 0x80 ≤ c.toNat then Unicode.Category.decimalNumber.contains c.toNat else c.isDigit

def space (wide : Bool) : CharSet := fun c =>
  if wide then Unicode.Property.whiteSpace.contains c.toNat
  else c == ' ' || ('\t' ≤ c && c ≤ '\r')

/-- Characters of words: letters, marks, digits, connectors and the two joiners. -/
def word (wide : Bool) : CharSet := fun c =>
  let n := c.toNat
  if wide ∧ 0x80 ≤ n then
    Unicode.Property.isAlphabetic n || Unicode.Category.isMark n ||
      Unicode.Category.decimalNumber.contains n ||
      Unicode.Category.connectorPunctuation.contains n || Unicode.Property.joinControl.contains n
  else c.isAlphanum || c == '_'

def asciiClass? (name : String) : Option CharSet :=
  match name with
  | "alnum" => some Char.isAlphanum
  | "alpha" => some Char.isAlpha
  | "ascii" => some fun c => c.toNat < 0x80
  | "blank" => some fun c => c == '\t' || c == ' '
  | "cntrl" => some fun c => c.toNat < 0x20 || c.toNat == 0x7F
  | "digit" => some Char.isDigit
  | "graph" => some (range '!' '~')
  | "lower" => some Char.isLower
  | "print" => some (range ' ' '~')
  | "punct" => some fun c =>
    range '!' '/' c || range ':' '@' c || range '[' '\x60' c || range '\x7b' '~' c
  | "space" => some (space false)
  | "upper" => some Char.isUpper
  | "word" => some (word false)
  | "xdigit" => some fun c => c.isDigit || range 'A' 'F' c || range 'a' 'f' c
  | _ => Option.none

/-- The name of a property without blanks, hyphens and underscores, in lower case and without a
    leading `is`. -/
def looseName (name : List Char) : String :=
  let rest : List Char :=
    match name with
    | i :: s :: rest => if i.toLower = 'i' ∧ s.toLower = 's' then rest else name
    | _ => name
  let kept := (rest.filter fun c => c.toNat < 0x80 && c != ' ' && c != '_' && c != '-').map
    Char.toLower
  -- with `is` in front of it the letter is no category but a property for comments
  if rest.length < name.length ∧ kept = ['c'] then "isc" else String.ofList kept

/-- The set that the name of a property, category or script stands for. -/
def named? (name : List Char) : Option CharSet :=
  let loose := looseName name
  let found :=
    match Unicode.Property.named? loose with
    | some test => some test
    | Option.none =>
      match Unicode.Category.named? loose with
      | some test => some test
      | Option.none => Unicode.Script.named? loose
  found.map ofCodePoints

def valued? (name value : List Char) : Option CharSet :=
  let loose := looseName value
  let found :=
    match looseName name with
    | "gc" | "generalcategory" => Unicode.Category.named? loose
    | "sc" | "script" => Unicode.Script.named? loose
    | "scx" | "scriptextensions" => Unicode.Script.extended? loose
    | _ => Option.none
  found.map ofCodePoints

end CharSet

end MockProvider
