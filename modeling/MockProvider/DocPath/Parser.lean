import MockProvider.DocPath.Basic

/-!
# Reading path expressions

`DocPath.parse` reads an expression: the root sign and any number of steps. A step is a field after
a point or in brackets and quotes, an index in brackets, or one of the two wildcards. A name after
a point goes on up to the next point or opening bracket, and a quoted name up to the next quote;
nothing is escaped.
-/

namespace MockProvider

namespace DocPath

/-- Why a text is no path expression. -/
inductive Reason where
  | noRoot
  | emptyField
  | openQuote
  | unclosedField
  | unclosedWildcard
  | badIndex
  | openIndex
  | openBracket
  | stray (c : Char)
deriving DecidableEq, Repr

def Reason.message : Reason → String
  | .noRoot => "expression must start with '$'"
  | .emptyField => "empty field name"
  | .openQuote => "unterminated quoted field"
  | .unclosedField => "expected ']' after quoted field"
  | .unclosedWildcard => "expected ']' after '*'"
  | .badIndex => "array index must be a number"
  | .openIndex => "unterminated array index"
  | .openBracket => "unterminated '['"
  | .stray c => "unexpected character '" ++ String.singleton c ++ "'"

/-- A text that is no path expression, and why. -/
structure ParseError where
  expression : String
  reason : Reason
deriving DecidableEq, Repr

def ParseError.message (e : ParseError) : String :=
  "Invalid path expression '" ++ e.expression ++ "': " ++ e.reason.message

def indexBound : Nat := 0x10000000000000000

def digitsValue (digits : List Char) : Nat :=
  digits.foldl (fun n c => n * 10 + (c.toNat - '0'.toNat)) 0

def isNameChar (c : Char) : Bool :=
  c != '.' && c != '['

def afterPoint (cs : List Char) : Except Reason (Step × List Char) :=
  match cs with
  | '*' :: rest => .ok (.anyChild, rest)
  | _ =>
    let name := cs.takeWhile isNameChar
    if name.isEmpty then .error .emptyField
    else .ok (.field (String.ofList name), cs.dropWhile isNameChar)

def afterQuote (cs : List Char) : Except Reason (Step × List Char) :=
  match cs.dropWhile (· != '\'') with
  | [] => .error .openQuote
  | _ :: ']' :: rest => .ok (.field (String.ofList (cs.takeWhile (· != '\''))), rest)
  | _ => .error .unclosedField

def afterIndex (cs : List Char) : Except Reason (Step × List Char) :=
  match cs.dropWhile Char.isDigit with
  | [] => .error .openIndex
  | ']' :: rest =>
    let digits := cs.takeWhile Char.isDigit
    let position := digitsValue digits
    if digits.isEmpty ∨ indexBound ≤ position then .error .badIndex
    else .ok (.index position, rest)
  | _ => .error .badIndex

def afterBracket (cs : List Char) : Except Reason (Step × List Char) :=
  match cs with
  | [] => .error .openBracket
  | '\'' :: rest => afterQuote rest
  | '*' :: ']' :: rest => .ok (.anyIndex, rest)
  | '*' :: _ => .error .unclosedWildcard
  | _ => afterIndex cs

def step (c : Char) (rest : List Char) : Except Reason (Step × List Char) :=
  if c = '.' then afterPoint rest
  else if c = '[' then afterBracket rest
  else .error (.stray c)

/-- Reads steps up to the end of the text, at most `fuel` of them. -/
def stepsOf : (fuel : Nat) → List Char → Except Reason (List Step)
  | _, [] => .ok []
  | 0, c :: _ => .error (.stray c)
  | fuel + 1, c :: rest => do
    let (first, rest) ← step c rest
    let others ← stepsOf fuel rest
    return first :: others

def ofChars (cs : List Char) : Except Reason DocPath :=
  match cs with
  | '$' :: rest => (stepsOf rest.length rest).map DocPath.mk
  | _ => .error .noRoot

def parse (expression : String) : Except ParseError DocPath :=
  match ofChars expression.toList with
  | .ok path => .ok path
  | .error reason => .error ⟨expression, reason⟩

end DocPath

end MockProvider
