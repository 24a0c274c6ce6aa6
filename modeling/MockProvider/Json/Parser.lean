import MockProvider.Json.Basic
import MockProvider.Text.Basic
import MockProvider.Text.Utf8

/-!
# Reading JSON

`Json.parse` reads a document from octets. Every reader here takes octets and gives what it read
next to the octets after it, or a fault.

* Whole numbers keep their value up to 64 bits; every other number is rounded to floating point.
  Its first digits, as many as fit 64 bits, are scaled by a power of ten.
* Of two members with one key the later counts.
* Containers nest up to 127 deep.
* A fault tells its cause and how many octets were left at its place; `ParseError` gives the place
  as a line and the number of octets read in that line.
-/

namespace MockProvider.Json

/-! ## Faults -/

/-- Why octets are not a document. -/
inductive Cause where
  | endOfValue
  | endOfList
  | endOfObject
  | endOfString
  | expectedValue
  | expectedIdent
  | expectedColon
  | expectedCommaOrBracket
  | expectedCommaOrBrace
  | keyMustBeString
  | trailingComma
  | trailingCharacters
  | invalidNumber
  | numberOutOfRange
  | invalidEscape
  | loneSurrogate
  | unfinishedPair
  | controlCharacter
  | invalidCodePoint
  | tooDeep
deriving DecidableEq, Repr

def Cause.message : Cause → String
  | .endOfValue => "EOF while parsing a value"
  | .endOfList => "EOF while parsing a list"
  | .endOfObject => "EOF while parsing an object"
  | .endOfString => "EOF while parsing a string"
  | .expectedValue => "expected value"
  | .expectedIdent => "expected ident"
  | .expectedColon => "expected \x60:\x60"
  | .expectedCommaOrBracket => "expected \x60,\x60 or \x60]\x60"
  | .expectedCommaOrBrace => "expected \x60,\x60 or \x60\x7d\x60"
  | .keyMustBeString => "key must be a string"
  | .trailingComma => "trailing comma"
  | .trailingCharacters => "trailing characters"
  | .invalidNumber => "invalid number"
  | .numberOutOfRange => "number out of range"
  | .invalidEscape => "invalid escape"
  | .loneSurrogate => "lone leading surrogate in hex escape"
  | .unfinishedPair => "unexpected end of hex escape"
  | .controlCharacter => "control character (\\u0000-\\u001F) found while parsing a string"
  | .invalidCodePoint => "invalid unicode code point"
  | .tooDeep => "recursion limit exceeded"

/-- A cause and the number of octets that were left where it was noticed. -/
structure Fault where
  cause : Cause
  left : Nat
deriving DecidableEq, Repr

def fail {α : Type} (cause : Cause) (rest : Bytes) : Except Fault α :=
  .error ⟨cause, rest.length⟩

/-- A fault at the first of the octets that are left: that octet counts as read. -/
def failAt {α : Type} (cause : Cause) (rest : Bytes) : Except Fault α :=
  .error ⟨cause, rest.length - 1⟩

/-! ## Blanks, digits and words -/

def isBlank (b : UInt8) : Bool :=
  b == 0x20 || b == 0x0A || b == 0x0D || b == 0x09

/-- The octets without the blanks in front. -/
def skipBlanks (input : Bytes) : Bytes :=
  input.dropWhile isBlank

def digit? (b : UInt8) : Option Nat :=
  if 0x30 ≤ b ∧ b ≤ 0x39 then some (b.toNat - 0x30) else none

def isDigit (b : UInt8) : Bool :=
  (digit? b).isSome

/-- Reads the octets of a word, of which the first has been read. -/
def word : (expected : Bytes) → Bytes → Except Fault Bytes
  | [], input => .ok input
  | _ :: _, [] => fail .endOfValue []
  | e :: expected, b :: rest =>
    if b = e then word expected rest else fail .expectedIdent rest

/-! ## Numbers -/

/-- Reads digits onto a significand while it stays below `2 ^ 64`: the significand, how many digits
    it took, and the octets after them. -/
def gather (significand taken : Nat) : Bytes → Nat × Nat × Bytes
  | [] => (significand, taken, [])
  | b :: rest =>
    match digit? b with
    | none => (significand, taken, b :: rest)
    | some d =>
      if significand * 10 + d < 0x10000000000000000 then gather (significand * 10 + d) (taken + 1) rest
      else (significand, taken, b :: rest)

/-- How many digits stand in front, and the octets after them. -/
def countDigits (input : Bytes) : Nat × Bytes :=
  ((input.takeWhile isDigit).length, input.dropWhile isDigit)

/-- A significand below `2 ^ 64` as a floating point number. -/
def ofSignificand (negative : Bool) (significand : Nat) : Binary64 :=
  (Binary64.ofRatio? negative significand 1).getD (Binary64.zero negative)

/-- The largest power of ten that a floating point number can be scaled by at once. -/
def maxPower : Nat := 308

/-- Scales by a power of ten, rounding at each of at most `fuel` steps; no answer where that is
    infinite. -/
def scale (x : Binary64) : (fuel : Nat) → Int → Option Binary64
  | 0, _ => some x
  | fuel + 1, exponent =>
    if exponent.natAbs ≤ maxPower then
      match Binary64.ofNat? (Nat.pow 10 exponent.natAbs) with
      | some power => if 0 ≤ exponent then x.mul? power else x.div? power
      | none => none
    else if x.isZero then some x
    else if 0 ≤ exponent then none
    else
      match Binary64.ofNat? (Nat.pow 10 maxPower) with
      | some power => (x.div? power).bind fun y => scale y fuel (exponent + maxPower)
      | none => none

/-- The floating point number `significand · 10 ^ exponent`. -/
def scaledNumber (negative : Bool) (significand : Nat) (exponent : Int) (rest : Bytes) :
    Except Fault (Number × Bytes) :=
  match scale (ofSignificand negative significand) 4 exponent with
  | some x => .ok (.float x, rest)
  | none => fail .numberOutOfRange rest

/-- The number without point and exponent; what no integer of 64 bits can hold, and minus zero, is
    a floating point number. -/
def wholeNumber (negative : Bool) (significand : Nat) : Number :=
  if negative then
    if 0 < significand ∧ significand ≤ 0x8000000000000000 then .ofNeg significand
    else .float (ofSignificand true significand)
  else if significand < 0x10000000000000000 then .ofNat significand
  else .float (ofSignificand false significand)

/-- Exponents from here on are not added up. -/
def exponentBound : Nat := 0x80000000

/-- Reads the digits of an exponent onto `exponent`: its value, or `none` right after the digit
    that made it too large. -/
def exponentDigits (exponent : Nat) : Bytes → Option Nat × Bytes
  | [] => (some exponent, [])
  | b :: rest =>
    match digit? b with
    | none => (some exponent, b :: rest)
    | some d =>
      if exponent * 10 + d < exponentBound then exponentDigits (exponent * 10 + d) rest
      else (none, rest)

/-- Reads the sign of an exponent; true for a minus sign. -/
def exponentSign : Bytes → Bool × Bytes
  | [] => (false, [])
  | b :: rest =>
    if b = 0x2D then (true, rest)
    else if b = 0x2B then (false, rest)
    else (false, b :: rest)

/-- Reads an exponent, its mark left out, and ends the number. -/
def exponentPart (negative : Bool) (significand : Nat) (places : Int) (input : Bytes) :
    Except Fault (Number × Bytes) :=
  let (down, input) := exponentSign input
  match input with
  | [] => fail .endOfValue []
  | b :: rest =>
    match digit? b with
    | none => fail .invalidNumber rest
    | some d =>
      match exponentDigits d rest with
      | (some e, rest) =>
        scaledNumber negative significand (if down then places - e else places + e) rest
      | (none, rest) =>
        if significand ≠ 0 ∧ down = false then fail .numberOutOfRange rest
        else .ok (.float (Binary64.zero negative), rest.dropWhile isDigit)

def isExponentMark (b : UInt8) : Bool :=
  b == 0x65 || b == 0x45

/-- Reads the digits after the point, and ends the number. -/
def decimalPart (negative : Bool) (significand : Nat) (places : Int) (input : Bytes) :
    Except Fault (Number × Bytes) :=
  let (significand, taken, rest) := gather significand 0 input
  let (dropped, rest) := countDigits rest
  if taken = 0 ∧ dropped = 0 then
    match rest with
    | [] => fail .endOfValue []
    | _ :: _ => failAt .invalidNumber rest
  else
    let places := places - taken
    match rest with
    | [] => scaledNumber negative significand places []
    | b :: rest =>
      if isExponentMark b then exponentPart negative significand places rest
      else scaledNumber negative significand places (b :: rest)

/-- Reads what follows the digits of the whole part, of which the last `dropped` did not fit the
    significand. -/
def afterWhole (negative : Bool) (significand dropped : Nat) (input : Bytes) : Except Fault (Number × Bytes) :=
  let plain : Except Fault (Number × Bytes) :=
    if dropped = 0 then .ok (wholeNumber negative significand, input)
    else scaledNumber negative significand dropped input
  match input with
  | [] => plain
  | b :: rest =>
    if b = 0x2E then decimalPart negative significand dropped rest
    else if isExponentMark b then exponentPart negative significand dropped rest
    else plain

/-- Reads a number whose sign has been read. -/
def unsignedNumber (negative : Bool) : Bytes → Except Fault (Number × Bytes)
  | [] => fail .endOfValue []
  | b :: rest =>
    match digit? b with
    | none => fail .invalidNumber rest
    | some 0 =>
      match rest with
      | [] => afterWhole negative 0 0 []
      | next :: _ => if isDigit next then failAt .invalidNumber rest else afterWhole negative 0 0 rest
    | some d =>
      let (significand, _, rest) := gather d 0 rest
      let (dropped, rest) := countDigits rest
      afterWhole negative significand dropped rest

/-! ## Strings -/

def hexQuad? (a b c d : UInt8) : Option Nat := do
  let a ← Ascii.hexValue? a.toNat
  let b ← Ascii.hexValue? b.toNat
  let c ← Ascii.hexValue? c.toNat
  let d ← Ascii.hexValue? d.toNat
  return ((a * 16 + b) * 16 + c) * 16 + d

def hexEscape : Bytes → Except Fault (Nat × Bytes)
  | a :: b :: c :: d :: rest =>
    match hexQuad? a b c d with
    | some n => .ok (n, rest)
    | none => fail .invalidEscape rest
  | _ => fail .endOfString []

/-- Reads an octet inside a pair of escapes. -/
def pairOctet (expected : UInt8) : Bytes → Except Fault Bytes
  | [] => fail .endOfString []
  | b :: rest => if b = expected then .ok rest else fail .unfinishedPair rest

/-- Reads the digits of an escape by number; a leading surrogate takes a second escape, with the
    trailing one, along. -/
def numberEscape (input : Bytes) : Except Fault (Char × Bytes) := do
  let (n, rest) ← hexEscape input
  if 0xDC00 ≤ n ∧ n ≤ 0xDFFF then fail .loneSurrogate rest
  else if 0xD800 ≤ n ∧ n ≤ 0xDBFF then
    let rest ← pairOctet 0x5C rest
    let rest ← pairOctet 0x75 rest
    let (m, rest) ← hexEscape rest
    if 0xDC00 ≤ m ∧ m ≤ 0xDFFF then
      return (Char.ofNat (0x10000 + (n - 0xD800) * 0x400 + (m - 0xDC00)), rest)
    else fail .loneSurrogate rest
  else return (Char.ofNat n, rest)

/-- The character that an octet after a backslash stands for. -/
def escaped? (b : UInt8) : Option Char :=
  if b = 0x22 then some '"'
  else if b = 0x5C then some '\\'
  else if b = 0x2F then some '/'
  else if b = 0x62 then some '\x08'
  else if b = 0x66 then some '\x0C'
  else if b = 0x6E then some '\n'
  else if b = 0x72 then some '\r'
  else if b = 0x74 then some '\t'
  else none

/-- Reads an escape whose backslash has been read. -/
def escape : Bytes → Except Fault (Char × Bytes)
  | [] => fail .endOfString []
  | b :: rest =>
    if b = 0x75 then numberEscape rest
    else
      match escaped? b with
      | some c => .ok (c, rest)
      | none => fail .invalidEscape rest

/-- Reads the octets of a string up to its closing quote, with at most `fuel` steps. -/
def stringBytes : (fuel : Nat) → Bytes → Except Fault (Bytes × Bytes)
  | 0, input => fail .endOfString input
  | _ + 1, [] => fail .endOfString []
  | fuel + 1, b :: rest =>
    if b = 0x22 then .ok ([], rest)
    else if b = 0x5C then do
      let (c, rest) ← escape rest
      let (bytes, rest) ← stringBytes fuel rest
      return (Utf8.encodeChar c ++ bytes, rest)
    else if b < 0x20 then fail .controlCharacter rest
    else do
      let (bytes, rest) ← stringBytes fuel rest
      return (b :: bytes, rest)

/-- Reads a string whose opening quote has been read. -/
def stringAfterQuote (input : Bytes) : Except Fault (String × Bytes) := do
  let (bytes, rest) ← stringBytes (input.length + 1) input
  match Bytes.toString? bytes with
  | some s => return (s, rest)
  | none => fail .invalidCodePoint rest

/-! ## Values -/

abbrev ValueReader := Bytes → Except Fault (Json × Bytes)

/-- Reads the items of an array after the first, up to the closing bracket. -/
def moreItems (item : ValueReader) : (fuel : Nat) → Bytes → Except Fault (List Json × Bytes)
  | 0, input => fail .endOfList input
  | fuel + 1, input =>
    match skipBlanks input with
    | [] => fail .endOfList []
    | b :: rest =>
      if b = 0x5D then .ok ([], rest)
      else if b = 0x2C then
        match skipBlanks rest with
        | [] => fail .endOfValue []
        | c :: after =>
          if c = 0x5D then failAt .trailingComma (c :: after)
          else do
            let (value, rest) ← item (c :: after)
            let (values, rest) ← moreItems item fuel rest
            return (value :: values, rest)
      else failAt .expectedCommaOrBracket (b :: rest)

/-- Reads the items of an array whose opening bracket has been read. -/
def items (item : ValueReader) (input : Bytes) : Except Fault (List Json × Bytes) :=
  match skipBlanks input with
  | [] => fail .endOfList []
  | b :: rest =>
    if b = 0x5D then .ok ([], rest)
    else do
      let (value, rest) ← item (b :: rest)
      let (values, rest) ← moreItems item (rest.length + 1) rest
      return (value :: values, rest)

/-- Reads the colon between a key and its value. -/
def colon (input : Bytes) : Except Fault Bytes :=
  match skipBlanks input with
  | [] => fail .endOfObject []
  | b :: rest => if b = 0x3A then .ok rest else failAt .expectedColon (b :: rest)

/-- Reads a member whose opening quote has been read. The reader of its value may look at the key. -/
def member {α : Type} (value : String → Bytes → Except Fault (α × Bytes)) (input : Bytes) :
    Except Fault ((String × α) × Bytes) := do
  let (key, rest) ← stringAfterQuote input
  let rest ← colon rest
  let (v, rest) ← value key rest
  return ((key, v), rest)

/-- Reads the members of an object after the first, up to the closing brace. -/
def moreMembers {α : Type} (value : String → Bytes → Except Fault (α × Bytes)) :
    (fuel : Nat) → Bytes → Except Fault (List (String × α) × Bytes)
  | 0, input => fail .endOfObject input
  | fuel + 1, input =>
    match skipBlanks input with
    | [] => fail .endOfObject []
    | b :: rest =>
      if b = 0x7D then .ok ([], rest)
      else if b = 0x2C then
        match skipBlanks rest with
        | [] => fail .endOfValue []
        | c :: after =>
          if c = 0x22 then do
            let (first, rest) ← member value after
            let (others, rest) ← moreMembers value fuel rest
            return (first :: others, rest)
          else if c = 0x7D then failAt .trailingComma (c :: after)
          else failAt .keyMustBeString (c :: after)
      else failAt .expectedCommaOrBrace (b :: rest)

/-- Reads the members of an object whose opening brace has been read, in the order in which they
    stand. -/
def members {α : Type} (value : String → Bytes → Except Fault (α × Bytes)) (input : Bytes) :
    Except Fault (List (String × α) × Bytes) :=
  match skipBlanks input with
  | [] => fail .endOfObject []
  | b :: rest =>
    if b = 0x7D then .ok ([], rest)
    else if b = 0x22 then do
      let (first, rest) ← member value rest
      let (others, rest) ← moreMembers value (rest.length + 1) rest
      return (first :: others, rest)
    else failAt .keyMustBeString (b :: rest)

/-- Reads a value; what is inside a container is read by `nested`, and without it no container is
    read. -/
def valueWith (nested : Option ValueReader) : ValueReader := fun input =>
  match skipBlanks input with
  | [] => fail .endOfValue []
  | b :: rest =>
    if b = 0x6E then do
      let rest ← word [0x75, 0x6C, 0x6C] rest
      return (.null, rest)
    else if b = 0x74 then do
      let rest ← word [0x72, 0x75, 0x65] rest
      return (.bool true, rest)
    else if b = 0x66 then do
      let rest ← word [0x61, 0x6C, 0x73, 0x65] rest
      return (.bool false, rest)
    else if b = 0x2D then do
      let (n, rest) ← unsignedNumber true rest
      return (.number n, rest)
    else if isDigit b then do
      let (n, rest) ← unsignedNumber false (b :: rest)
      return (.number n, rest)
    else if b = 0x22 then do
      let (s, rest) ← stringAfterQuote rest
      return (.string s, rest)
    else if b = 0x5B then
      match nested with
      | none => failAt .tooDeep (b :: rest)
      | some item => do
        let (values, rest) ← items item rest
        return (.array values, rest)
    else if b = 0x7B then
      match nested with
      | none => failAt .tooDeep (b :: rest)
      | some item => do
        let (pairs, rest) ← members (fun _ => item) rest
        return (ofMembers pairs, rest)
    else failAt .expectedValue (b :: rest)

/-- Reads a value whose containers nest at most `depth` deep. -/
def value : (depth : Nat) → ValueReader
  | 0 => valueWith none
  | depth + 1 => valueWith (some (value depth))

/-- How deep containers may nest. -/
def maxDepth : Nat := 127

/-! ## Documents -/

/-- Why and where octets are not a document. -/
structure ParseError where
  cause : Cause
  line : Nat
  column : Nat
deriving DecidableEq, Repr

def ParseError.message (e : ParseError) : String :=
  e.cause.message ++ " at line " ++ toString e.line ++ " column " ++ toString e.column

/-- The error of a fault in a document: lines count from one, columns are the octets read since the
    last new line. -/
def Fault.inDocument (fault : Fault) (document : Bytes) : ParseError :=
  let before := document.take (document.length - fault.left)
  { cause := fault.cause
    line := before.count 0x0A + 1
    column := (before.reverse.takeWhile (· != 0x0A)).length }

/-- Reads a whole document with a reader: after the value only blanks may follow. -/
def document {α : Type} (reader : Bytes → Except Fault (α × Bytes)) (input : Bytes) : Except ParseError α :=
  match reader input with
  | .error fault => .error (fault.inDocument input)
  | .ok (v, rest) =>
    match skipBlanks rest with
    | [] => .ok v
    | b :: rest => .error (Fault.inDocument ⟨.trailingCharacters, (b :: rest).length - 1⟩ input)

def parse (input : Bytes) : Except ParseError Json :=
  document (value maxDepth) input

def parseText (text : String) : Except ParseError Json :=
  parse (Bytes.ofString text)

end MockProvider.Json
