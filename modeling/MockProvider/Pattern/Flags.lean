import MockProvider.Text.Basic

/-!
# Flags of patterns

Flags change how the rest of a group is read. In the extended layout blanks mean nothing and a
number sign begins a comment that ends with the line.
-/

namespace MockProvider.Pattern

/-- How a part of a pattern is read. -/
structure Flags where
  ignoreCase : Bool := false
  multiLine : Bool := false
  dotAll : Bool := false
  swapGreed : Bool := false
  wide : Bool := true
  crlf : Bool := false
  extended : Bool := false
deriving DecidableEq, Repr

def Flags.letters : List Char := ['i', 'm', 's', 'U', 'u', 'R', 'x']

def Flags.put (f : Flags) (letter : Char) (on : Bool) : Flags :=
  match letter with
  | 'i' => { f with ignoreCase := on }
  | 'm' => { f with multiLine := on }
  | 's' => { f with dotAll := on }
  | 'U' => { f with swapGreed := on }
  | 'u' => { f with wide := on }
  | 'R' => { f with crlf := on }
  | 'x' => { f with extended := on }
  | _ => f

/-- The text without the blanks and comments in front. -/
def dropLayout (inComment : Bool) : List Char → List Char
  | [] => []
  | c :: rest =>
    if inComment then dropLayout (c != '\n') rest
    else if Text.isBlank c then dropLayout false rest
    else if c = '#' then dropLayout true rest
    else c :: rest

/-- The text from the next character that means something. -/
def Flags.skip (f : Flags) (cs : List Char) : List Char :=
  if f.extended then dropLayout false cs else cs

/-- The flags that an item such as `i-s` sets and clears, up to the colon or parenthesis that ends
    it: the flags after it, whether it set or cleared any, and the text from that character on. -/
def flagItem (f : Flags) (seen : List Char) (on dangling : Bool) :
    List Char → Option (Flags × Bool × List Char)
  | [] => none
  | c :: rest =>
    if c = ':' ∨ c = ')' then
      if dangling then none else some (f, !seen.isEmpty || !on, c :: rest)
    else if c = '-' then
      if on then flagItem f seen false true rest else none
    else if Flags.letters.contains c ∧ !seen.contains c then
      flagItem (f.put c on) (c :: seen) on false rest
    else none

end MockProvider.Pattern
