import MockProvider.Text.Basic
import MockProvider.Text.Utf8

/-!
# Percent escapes

An octet can be written as a percent sign and two hexadecimal digits. Writing keeps letters, digits
and the marks - _ . ~ and escapes every other octet of the UTF-8 form. Reading takes a percent sign
that two hexadecimal digits do not follow as it stands.
-/

namespace MockProvider.Percent

def isPlain (b : UInt8) : Bool :=
  let n := b.toNat
  (48 ≤ n && n ≤ 57) || (65 ≤ n && n ≤ 90) || (97 ≤ n && n ≤ 122) ||
    n == 45 || n == 95 || n == 46 || n == 126

def encodeByte (b : UInt8) : List Char :=
  if isPlain b then [Char.ofNat b.toNat]
  else ['%', Ascii.hexDigit (b.toNat / 16), Ascii.hexDigit (b.toNat % 16)]

/-- A text in which only plain characters and escapes are left. -/
def encode (s : String) : String :=
  String.ofList ((Bytes.ofString s).flatMap encodeByte)

/-- The octets with every escape replaced by the octet it stands for. -/
def decodeBytes : Bytes → Bytes
  | [] => []
  | [a] => [a]
  | [a, b] => [a, b]
  | a :: b :: c :: rest =>
    if a = 37 then
      match Ascii.hexValue? b.toNat, Ascii.hexValue? c.toNat with
      | some high, some low => UInt8.ofNat (high * 16 + low) :: decodeBytes rest
      | _, _ => a :: decodeBytes (b :: c :: rest)
    else a :: decodeBytes (b :: c :: rest)

/-- The text with its escapes read, when what they spell is UTF-8. -/
def decode? (s : String) : Option String :=
  Bytes.toString? (decodeBytes (Bytes.ofString s))

end MockProvider.Percent
