import MockProvider.Pattern.CharSet

/-!
# Regular expressions

A pattern is built from sets of characters and assertions about neighbouring characters by
sequence, choice and repetition.

The matcher keeps the set of places in the text that it may have come to, as one mark for each
place: before every character and at the end. `Pattern.run` takes the places where a pattern may
begin to the places where it may end, so the time it takes does not depend on how often parts of
the text could be matched in different ways. `Pattern.found` asks for a match anywhere in the text.
-/

namespace MockProvider

/-- What an assertion asks of the characters around a place. Words are made of wide or narrow word
    characters. -/
inductive Look where
  | textStart
  | textEnd
  | lineStart
  | lineEnd
  | lineStartCrlf
  | lineEndCrlf
  | boundary (wide : Bool)
  | noBoundary (wide : Bool)
  | wordStart (wide : Bool)
  | wordEnd (wide : Bool)
  | wordStartHalf (wide : Bool)
  | wordEndHalf (wide : Bool)
deriving DecidableEq, Repr

/-- A regular expression. A repetition has a least and perhaps a greatest number of rounds. -/
inductive Pattern where
  | empty
  | set (accepts : CharSet)
  | look (assertion : Look)
  | seq (first second : Pattern)
  | alt (first second : Pattern)
  | repeat (body : Pattern) (least : Nat) (most : Option Nat)

/-- Whether a neighbour is there and is a word character. -/
def Look.isWord (wide : Bool) (c : Option Char) : Bool :=
  c.any (CharSet.word wide)

def Look.holds (look : Look) (before after : Option Char) : Bool :=
  match look with
  | .textStart => before.isNone
  | .textEnd => after.isNone
  | .lineStart => before.isNone || before == some '\n'
  | .lineEnd => after.isNone || after == some '\n'
  | .lineStartCrlf =>
    before.isNone || before == some '\n' || (before == some '\r' && after != some '\n')
  | .lineEndCrlf =>
    after.isNone || after == some '\r' || (after == some '\n' && before != some '\r')
  | .boundary wide => isWord wide before != isWord wide after
  | .noBoundary wide => isWord wide before == isWord wide after
  | .wordStart wide => !isWord wide before && isWord wide after
  | .wordEnd wide => isWord wide before && !isWord wide after
  | .wordStartHalf wide => !isWord wide before
  | .wordEndHalf wide => !isWord wide after

namespace Pattern

/-- One mark for each place of a text: before each character and at the end. -/
abbrev Marks := List Bool

def join (a b : Marks) : Marks :=
  a.zipWith (· || ·) b

/-- The places after one character of a set: the mark of each place but the last decides about the
    next one. -/
def advance (accepts : CharSet) : (text : List Char) → Marks → Marks
  | c :: text, m :: marks => (m && accepts c) :: advance accepts text marks
  | _, _ => []

/-- The marked places where an assertion holds. -/
def keep (look : Look) (before : Option Char) : (text : List Char) → Marks → Marks
  | [], m :: _ => [m && look.holds before none]
  | c :: text, m :: marks => (m && look.holds before (some c)) :: keep look (some c) text marks
  | _, [] => []

/-- What `step` gives when it is applied `rounds` times. -/
def times (step : Marks → Marks) : (rounds : Nat) → Marks → Marks
  | 0, marks => marks
  | rounds + 1, marks => if marks.any id then times step rounds (step marks) else marks

/-- The places that at most `rounds` applications of `step` lead to. -/
def upTo (step : Marks → Marks) : (rounds : Nat) → Marks → Marks
  | 0, marks => marks
  | rounds + 1, marks =>
    let wider := join marks (step marks)
    if wider = marks then marks else upTo step rounds wider

/-- From the places where a pattern may begin to those where it may end. As many rounds as there
    are places stand for any number of them. -/
def run (text : List Char) : Pattern → Marks → Marks
  | .empty, marks => marks
  | .set accepts, marks => false :: advance accepts text marks
  | .look assertion, marks => keep assertion none text marks
  | .seq first second, marks => run text second (run text first marks)
  | .alt first second, marks => join (run text first marks) (run text second marks)
  | .repeat body least most, marks =>
    let begun := times (run text body) least marks
    match most with
    | some most => upTo (run text body) (most - least) begun
    | none => upTo (run text body) (text.length + 1) begun

/-- Whether the pattern matches some part of the text. -/
def found (p : Pattern) (text : List Char) : Bool :=
  (p.run text (List.replicate (text.length + 1) true)).any id

end Pattern

end MockProvider
