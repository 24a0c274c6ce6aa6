import MockProvider.Unicode.Category.Letter
import MockProvider.Unicode.Category.Mark
import MockProvider.Unicode.Category.Numeral
import MockProvider.Unicode.Category.Other
import MockProvider.Unicode.Category.Punctuation
import MockProvider.Unicode.Category.Symbol

/-!
# General categories

Every code point has one general category; categories with the same first letter form a group.
`Category.named?` finds a category or a group by one of its names, written in lower case without
spaces, hyphens and underscores.
-/

namespace MockProvider.Unicode.Category

/-- Letters of every kind. -/
def isLetter (n : Nat) : Bool :=
  uppercaseLetter.contains n || lowercaseLetter.contains n || titlecaseLetter.contains n ||
    modifierLetter.contains n || otherLetter.contains n

def isCasedLetter (n : Nat) : Bool :=
  uppercaseLetter.contains n || lowercaseLetter.contains n || titlecaseLetter.contains n

/-- Marks of every kind. -/
def isMark (n : Nat) : Bool :=
  nonspacingMark.contains n || spacingMark.contains n || enclosingMark.contains n

/-- Numbers of every kind. -/
def isNumber (n : Nat) : Bool :=
  decimalNumber.contains n || letterNumber.contains n || otherNumber.contains n

/-- Punctuation of every kind. -/
def isPunctuation (n : Nat) : Bool :=
  connectorPunctuation.contains n || dashPunctuation.contains n || openPunctuation.contains n ||
    closePunctuation.contains n || initialPunctuation.contains n ||
    finalPunctuation.contains n || otherPunctuation.contains n

/-- Symbols of every kind. -/
def isSymbol (n : Nat) : Bool :=
  mathSymbol.contains n || currencySymbol.contains n || modifierSymbol.contains n ||
    otherSymbol.contains n

/-- Separators of every kind. -/
def isSeparator (n : Nat) : Bool :=
  spaceSeparator.contains n || lineSeparator.contains n || paragraphSeparator.contains n

/-- Code points that have been given a meaning; surrogates count among them. -/
def isAssigned (n : Nat) : Bool :=
  isLetter n || isMark n || isNumber n || isPunctuation n || isSymbol n || isSeparator n ||
    control.contains n || format.contains n || privateUse.contains n ||
    (0xD800 ≤ n && n ≤ 0xDFFF)

/-- Code points without a visible form: control codes, format characters, code points for private
    use and unassigned ones. -/
def isOther (n : Nat) : Bool :=
  control.contains n || format.contains n || privateUse.contains n || !isAssigned n

/-- The category or group with a name. -/
def named? (name : String) : Option (Nat → Bool) :=
  match name with
  | "l" | "letter" => some isLetter
  | "lc" | "casedletter" => some isCasedLetter
  | "lu" | "uppercaseletter" => some uppercaseLetter.contains
  | "ll" | "lowercaseletter" => some lowercaseLetter.contains
  | "lt" | "titlecaseletter" => some titlecaseLetter.contains
  | "lm" | "modifierletter" => some modifierLetter.contains
  | "lo" | "otherletter" => some otherLetter.contains
  | "m" | "mark" | "combiningmark" => some isMark
  | "mn" | "nonspacingmark" => some nonspacingMark.contains
  | "mc" | "spacingmark" => some spacingMark.contains
  | "me" | "enclosingmark" => some enclosingMark.contains
  | "n" | "number" => some isNumber
  | "nd" | "decimalnumber" | "digit" => some decimalNumber.contains
  | "nl" | "letternumber" => some letterNumber.contains
  | "no" | "othernumber" => some otherNumber.contains
  | "p" | "punctuation" | "punct" => some isPunctuation
  | "pc" | "connectorpunctuation" => some connectorPunctuation.contains
  | "pd" | "dashpunctuation" => some dashPunctuation.contains
  | "ps" | "openpunctuation" => some openPunctuation.contains
  | "pe" | "closepunctuation" => some closePunctuation.contains
  | "pi" | "initialpunctuation" => some initialPunctuation.contains
  | "pf" | "finalpunctuation" => some finalPunctuation.contains
  | "po" | "otherpunctuation" => some otherPunctuation.contains
  | "s" | "symbol" => some isSymbol
  | "sm" | "mathsymbol" => some mathSymbol.contains
  | "sc" | "currencysymbol" => some currencySymbol.contains
  | "sk" | "modifiersymbol" => some modifierSymbol.contains
  | "so" | "othersymbol" => some otherSymbol.contains
  | "z" | "separator" => some isSeparator
  | "zs" | "spaceseparator" => some spaceSeparator.contains
  | "zl" | "lineseparator" => some lineSeparator.contains
  | "zp" | "paragraphseparator" => some paragraphSeparator.contains
  | "c" | "other" => some isOther
  | "cc" | "control" | "cntrl" => some control.contains
  | "cf" | "format" => some format.contains
  | "cn" | "unassigned" => some fun n => !isAssigned n
  | "co" | "privateuse" => some privateUse.contains
  | "any" => some fun _ => true
  | "assigned" => some isAssigned
  | "ascii" => some fun n => n < 0x80
  | _ => none

end MockProvider.Unicode.Category
