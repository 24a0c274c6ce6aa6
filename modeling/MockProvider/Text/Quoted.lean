import MockProvider.Text.Basic
import MockProvider.Unicode.Property

/-!
# Quoted texts

Texts in quotes, as descriptions list them. Quotes and backslashes get a backslash, and characters
that would not be seen, or would melt into the one before them, are written by number.
-/

namespace MockProvider.Quoted

/-- Characters that are written by number: all without a form of their own, blanks other than the
    common one, and those that extend a grapheme. -/
def isHidden (c : Char) : Bool :=
  let n := c.toNat
  if n < 0x80 then n < 0x20 || n == 0x7F
  else
    Unicode.Property.isGraphemeExtend n || Unicode.Category.isSeparator n ||
      Unicode.Category.isOther n

/-- The hexadecimal digits of a number, letters in lower case. -/
def hexChars (n : Nat) : List Char :=
  Nat.toDigits 16 n

def quoteChar (c : Char) : List Char :=
  if c = '\x00' then ['\\', '0']
  else if c = '\t' then ['\\', 't']
  else if c = '\r' then ['\\', 'r']
  else if c = '\n' then ['\\', 'n']
  else if c = '"' then ['\\', '"']
  else if c = '\\' then ['\\', '\\']
  else if isHidden c then '\\' :: 'u' :: '\x7b' :: (hexChars c.toNat ++ ['\x7d'])
  else [c]

def quote (s : String) : String :=
  String.ofList ('"' :: (s.toList.flatMap quoteChar ++ ['"']))

def quoteList (texts : List String) : String :=
  "[" ++ Text.join ", " (texts.map quote) ++ "]"

end MockProvider.Quoted
