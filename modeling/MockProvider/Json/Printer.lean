import MockProvider.Json.Basic
import MockProvider.Text.Basic
import MockProvider.Text.Utf8

/-!
# Writing JSON

Two layouts: `Json.toChars` writes a value without any blanks, `Json.toPrettyText` puts every item
and member on a line of its own, two blanks further in than its container. Strings escape the
quote, the backslash and the control characters below U+0020, and nothing else.
-/

namespace MockProvider.Json

def escapeChar (c : Char) : List Char :=
  if c = '"' then ['\\', '"']
  else if c = '\\' then ['\\', '\\']
  else if c.toNat < 0x20 then
    match c.toNat with
    | 0x08 => ['\\', 'b']
    | 0x09 => ['\\', 't']
    | 0x0A => ['\\', 'n']
    | 0x0C => ['\\', 'f']
    | 0x0D => ['\\', 'r']
    | n => ['\\', 'u', '0', '0', Ascii.hexDigitLower (n / 16), Ascii.hexDigitLower (n % 16)]
  else [c]

def stringChars (s : String) : List Char :=
  '"' :: (s.toList.flatMap escapeChar ++ ['"'])

mutual

/-- A value as it is written without blanks. -/
def toChars : Json → List Char
  | .null => ['n', 'u', 'l', 'l']
  | .bool true => ['t', 'r', 'u', 'e']
  | .bool false => ['f', 'a', 'l', 's', 'e']
  | .number n => n.toChars
  | .string s => stringChars s
  | .array items => '[' :: (itemsChars items ++ [']'])
  | .object members => '\x7b' :: (membersChars members ++ ['\x7d'])

def itemsChars : List Json → List Char
  | [] => []
  | [item] => toChars item
  | item :: items => toChars item ++ ',' :: itemsChars items

def membersChars : List (String × Json) → List Char
  | [] => []
  | [(key, value)] => stringChars key ++ ':' :: toChars value
  | (key, value) :: members => stringChars key ++ ':' :: (toChars value ++ ',' :: membersChars members)

end

/-- A value as it is written without blanks. -/
def toText (value : Json) : String :=
  String.ofList value.toChars

/-- The octets of a value as it is written without blanks. -/
def toBytes (value : Json) : Bytes :=
  Utf8.encode value.toChars

/-- A new line, indented by `depth` steps of two blanks. -/
def newLine (depth : Nat) : List Char :=
  '\n' :: List.replicate (2 * depth) ' '

mutual

/-- A value with its items and members on lines of their own. -/
def prettyChars (depth : Nat) : Json → List Char
  | .null => ['n', 'u', 'l', 'l']
  | .bool true => ['t', 'r', 'u', 'e']
  | .bool false => ['f', 'a', 'l', 's', 'e']
  | .number n => n.toChars
  | .string s => stringChars s
  | .array [] => ['[', ']']
  | .array items => '[' :: (prettyItems (depth + 1) items ++ newLine depth ++ [']'])
  | .object [] => ['\x7b', '\x7d']
  | .object members => '\x7b' :: (prettyMembers (depth + 1) members ++ newLine depth ++ ['\x7d'])

/-- The items of an array, each on a line of its own. -/
def prettyItems (depth : Nat) : List Json → List Char
  | [] => []
  | [item] => newLine depth ++ prettyChars depth item
  | item :: items => newLine depth ++ prettyChars depth item ++ ',' :: prettyItems depth items

/-- The members of an object, each on a line of its own. -/
def prettyMembers (depth : Nat) : List (String × Json) → List Char
  | [] => []
  | [(key, value)] => newLine depth ++ stringChars key ++ ':' :: ' ' :: prettyChars depth value
  | (key, value) :: members =>
    newLine depth ++ stringChars key ++ ':' :: ' ' :: (prettyChars depth value ++
      ',' :: prettyMembers depth members)

end

def toPrettyText (value : Json) : String :=
  String.ofList (prettyChars 0 value)

end MockProvider.Json
