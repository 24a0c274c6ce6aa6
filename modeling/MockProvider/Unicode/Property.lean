import MockProvider.Unicode.Category
import MockProvider.Unicode.Property.Contributory
import MockProvider.Unicode.Property.Tables

/-!
# Properties of characters

Properties that follow from general categories and a few contributory tables, and
`Property.named?`, which finds a property by one of its names, written in lower case without
spaces, hyphens and underscores.
-/

namespace MockProvider.Unicode.Property

open Category

def isLowercase (n : Nat) : Bool :=
  lowercaseLetter.contains n || otherLowercase.contains n

def isUppercase (n : Nat) : Bool :=
  uppercaseLetter.contains n || otherUppercase.contains n

def isCased (n : Nat) : Bool :=
  isLowercase n || isUppercase n || titlecaseLetter.contains n

/-- Characters of words: letters, letter numbers and some marks and symbols. -/
def isAlphabetic (n : Nat) : Bool :=
  isLetter n || letterNumber.contains n || otherLowercase.contains n ||
    otherUppercase.contains n || otherAlphabetic.contains n

/-- Characters that do not count when the case of their neighbours is asked for. -/
def isCaseIgnorable (n : Nat) : Bool :=
  nonspacingMark.contains n || enclosingMark.contains n || format.contains n ||
    modifierLetter.contains n || modifierSymbol.contains n || midWord.contains n

def isMath (n : Nat) : Bool :=
  mathSymbol.contains n || otherMath.contains n

/-- Characters that extend the grapheme before them. -/
def isGraphemeExtend (n : Nat) : Bool :=
  nonspacingMark.contains n || enclosingMark.contains n || otherGraphemeExtend.contains n

/-- Characters that can carry a grapheme. -/
def isGraphemeBase (n : Nat) : Bool :=
  !(isOther n || (0xD800 ≤ n && n ≤ 0xDFFF) || lineSeparator.contains n ||
    paragraphSeparator.contains n || isGraphemeExtend n)

/-- Characters that the patterns of texts keep for themselves; they are in no identifier. -/
def isReserved (n : Nat) : Bool :=
  patternSyntax.contains n || patternWhiteSpace.contains n

/-- Characters that begin an identifier. -/
def isIdStart (n : Nat) : Bool :=
  (isLetter n || letterNumber.contains n || otherIdStart.contains n) && !isReserved n

/-- Characters inside an identifier. -/
def isIdContinue (n : Nat) : Bool :=
  isIdStart n ||
    ((nonspacingMark.contains n || spacingMark.contains n || decimalNumber.contains n ||
      connectorPunctuation.contains n || otherIdContinue.contains n) && !isReserved n)

/-- Letters and numbers in the wide sense. -/
def isAlphanumeric (c : Char) : Bool :=
  let n := c.toNat
  if n < 0x80 then c.isAlphanum else isAlphabetic n || isNumber n

def named? (name : String) : Option (Nat → Bool) :=
  match name with
  | "alpha" | "alphabetic" => some isAlphabetic
  | "lower" | "lowercase" => some isLowercase
  | "upper" | "uppercase" => some isUppercase
  | "cased" => some isCased
  | "ci" | "caseignorable" => some isCaseIgnorable
  | "math" => some isMath
  | "grext" | "graphemeextend" => some isGraphemeExtend
  | "grbase" | "graphemebase" => some isGraphemeBase
  | "ids" | "idstart" => some isIdStart
  | "idc" | "idcontinue" => some isIdContinue
  | "xids" | "xidstart" => some fun n => isIdStart n && !outsideXidStart.contains n
  | "xidc" | "xidcontinue" => some fun n => isIdContinue n && !outsideXidContinue.contains n
  | "olower" | "otherlowercase" => some otherLowercase.contains
  | "oupper" | "otheruppercase" => some otherUppercase.contains
  | "oalpha" | "otheralphabetic" => some otherAlphabetic.contains
  | "omath" | "othermath" => some otherMath.contains
  | "ogrext" | "othergraphemeextend" => some otherGraphemeExtend.contains
  | "oids" | "otheridstart" => some otherIdStart.contains
  | "oidc" | "otheridcontinue" => some otherIdContinue.contains
  | "whitespace" | "wspace" | "space" => some whiteSpace.contains
  | "patws" | "patternwhitespace" => some patternWhiteSpace.contains
  | "patsyn" | "patternsyntax" => some patternSyntax.contains
  | "ahex" | "asciihexdigit" => some asciiHexDigit.contains
  | "hex" | "hexdigit" => some hexDigit.contains
  | "bidic" | "bidicontrol" => some bidiControl.contains
  | "bidim" | "bidimirrored" => some bidiMirrored.contains
  | "dash" => some dash.contains
  | "di" | "defaultignorablecodepoint" => some defaultIgnorable.contains
  | "dep" | "deprecated" => some deprecatedCodePoint.contains
  | "dia" | "diacritic" => some diacritic.contains
  | "emoji" => some emoji.contains
  | "ecomp" | "emojicomponent" => some emojiComponent.contains
  | "emod" | "emojimodifier" => some emojiModifier.contains
  | "ebase" | "emojimodifierbase" => some emojiModifierBase.contains
  | "epres" | "emojipresentation" => some emojiPresentation.contains
  | "extpict" | "extendedpictographic" => some extendedPictographic.contains
  | "ext" | "extender" => some extender.contains
  | "idsb" | "idsbinaryoperator" => some idsBinaryOperator.contains
  | "idst" | "idstrinaryoperator" => some idsTrinaryOperator.contains
  | "ideo" | "ideographic" => some ideographic.contains
  | "joinc" | "joincontrol" => some joinControl.contains
  | "loe" | "logicalorderexception" => some logicalOrderException.contains
  | "nchar" | "noncharactercodepoint" => some noncharacter.contains
  | "qmark" | "quotationmark" => some quotationMark.contains
  | "radical" => some radical.contains
  | "ri" | "regionalindicator" => some regionalIndicator.contains
  | "sterm" | "sentenceterminal" => some sentenceTerminal.contains
  | "sd" | "softdotted" => some softDotted.contains
  | "term" | "terminalpunctuation" => some terminalPunctuation.contains
  | "uideo" | "unifiedideograph" => some unifiedIdeograph.contains
  | "vs" | "variationselector" => some variationSelector.contains
  | _ => none

end MockProvider.Unicode.Property
