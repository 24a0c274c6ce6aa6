import MockProvider.Decimal.Shortest

/-!
# Numbers in JSON documents

A number is an integer of 64 bits, with or without a sign, or a binary floating point number. The
two kinds stay apart: `1` and `1.0` are different numbers. `Number.toChars` writes a number; a
floating point number gets the shortest decimal that stands for it, with a point or an exponent.
-/

namespace MockProvider

/-- A number of a JSON document. -/
inductive Number where
  | integer (value : Int) (inRange : -0x8000000000000000 ≤ value ∧ value < 0x10000000000000000)
  | float (value : Binary64)
deriving DecidableEq

namespace Number

/-- Whether two numbers are equal: integers by value, floating point numbers by value with the two
    zeros equal, and never an integer and a floating point number. -/
def same : Number → Number → Bool
  | .integer a _, .integer b _ => a == b
  | .float a, .float b => a.sameValue b
  | _, _ => false

/-- A count; one that needs more than 64 bits is held by the largest number of 64 bits. -/
def ofNat (n : Nat) : Number :=
  if h : n < 0x10000000000000000 then .integer n ⟨by omega, by omega⟩
  else .integer 0xFFFFFFFFFFFFFFFF (by decide)

/-- The negative of a count; one that needs more than 63 bits is held by the least number. -/
def ofNeg (n : Nat) : Number :=
  if h : n ≤ 0x8000000000000000 then .integer (-n) ⟨by omega, by omega⟩
  else .integer (-0x8000000000000000) (by decide)

/-- An integer, held within its range. -/
def ofInt (n : Int) : Number :=
  if 0 ≤ n then ofNat n.toNat else ofNeg n.natAbs

/-- The integer as a natural number of 64 bits, when it is one. -/
def toUInt64? : Number → Option UInt64
  | .integer value _ => if 0 ≤ value then some (UInt64.ofNat value.toNat) else none
  | .float _ => none

def natChars (n : Nat) : List Char :=
  Nat.toDigits 10 n

/-- The digits of an integer, after a minus sign when it is negative. -/
def intChars : Int → List Char
  | .ofNat n => natChars n
  | .negSucc n => '-' :: natChars (n + 1)

/-- Positional notation ends where more than this many places would stand before the point. -/
def placesBeforePoint : Int := 16

/-- Positional notation ends where this many zeros would stand right after the point. -/
def zerosAfterPoint : Int := 5

/-- A decimal: positional, with at least one digit on either side of the point, or with an
    exponent, whose sign is always written. -/
def decimalChars (d : Shortest.Decimal) : List Char :=
  let digits := natChars d.digits
  let point : Int := digits.length + d.exponent
  if 0 ≤ d.exponent ∧ point ≤ placesBeforePoint then
    digits ++ List.replicate d.exponent.toNat '0' ++ ['.', '0']
  else if 0 < point ∧ point ≤ placesBeforePoint then
    digits.take point.toNat ++ '.' :: digits.drop point.toNat
  else if -zerosAfterPoint < point ∧ point ≤ 0 then
    '0' :: '.' :: (List.replicate (-point).toNat '0' ++ digits)
  else
    let exponent := point - 1
    let significand := match digits with
      | [] => []
      | [c] => [c]
      | c :: rest => c :: '.' :: rest
    let mark := if exponent < 0 then ['e', '-'] else ['e', '+']
    significand ++ mark ++ natChars exponent.natAbs

def floatChars (x : Binary64) : List Char :=
  let magnitude := if x.isZero then ['0', '.', '0'] else decimalChars (Shortest.digits x.rank)
  if x.negative then '-' :: magnitude else magnitude

def toChars : Number → List Char
  | .integer value _ => intChars value
  | .float value => floatChars value

def toText (n : Number) : String :=
  String.ofList n.toChars

end Number

end MockProvider
