/-!
# UTF-8

Octets and the text they stand for.

* `Utf8.encode` writes characters as octets.
* `Utf8.units` reads octets back, one unit at a time: a character, or `none` for a longest run of
  octets that begins like a character and cannot be finished.
* `Utf8.decode?` accepts only octets without such runs; `Utf8.lossy` puts U+FFFD in their place.

The reader is a machine that looks at one octet at a time, so it recurses on the octets alone.
-/

namespace MockProvider

/-- Octets as they travel or lie in a file. -/
abbrev Bytes := List UInt8

namespace Utf8

/-! ## Writing -/

/-- The octets of one character: one to four, the first of which tells how many follow. -/
def encodeChar (c : Char) : Bytes :=
  let n := c.toNat
  if n < 0x80 then [UInt8.ofNat n]
  else if n < 0x800 then [UInt8.ofNat (0xC0 + n / 64), UInt8.ofNat (0x80 + n % 64)]
  else if n < 0x10000 then
    [UInt8.ofNat (0xE0 + n / 4096), UInt8.ofNat (0x80 + n / 64 % 64), UInt8.ofNat (0x80 + n % 64)]
  else
    [UInt8.ofNat (0xF0 + n / 262144), UInt8.ofNat (0x80 + n / 4096 % 64),
      UInt8.ofNat (0x80 + n / 64 % 64), UInt8.ofNat (0x80 + n % 64)]

def encode (text : List Char) : Bytes :=
  text.flatMap encodeChar

/-! ## Reading -/

/-- What the reader owes: nothing, or `more` further octets, the next one between `low` and
    `high`, to finish the character whose leading bits are `bits`. -/
inductive Pending where
  | idle
  | within (more : Nat) (low high : Nat) (bits : Nat)
deriving DecidableEq, Repr

/-- Reads the first octet of a character. Overlong forms, surrogates and numbers above U+10FFFF are
    shut out by the range of the second octet. -/
def start (b : Nat) : List (Option Char) × Pending :=
  if b < 0x80 then ([some (Char.ofNat b)], .idle)
  else if b < 0xC2 then ([none], .idle)
  else if b < 0xE0 then ([], .within 1 0x80 0xBF (b - 0xC0))
  else if b < 0xF0 then
    ([], .within 2 (if b = 0xE0 then 0xA0 else 0x80) (if b = 0xED then 0x9F else 0xBF) (b - 0xE0))
  else if b < 0xF5 then
    ([], .within 3 (if b = 0xF0 then 0x90 else 0x80) (if b = 0xF4 then 0x8F else 0xBF) (b - 0xF0))
  else ([none], .idle)

/-- Reads one octet. An octet that cannot go on with the pending character ends it as a bad unit
    and is read again as a first octet. -/
def step : Pending → Nat → List (Option Char) × Pending
  | .idle, b => start b
  | .within more low high bits, b =>
    if low ≤ b ∧ b ≤ high then
      let bits := bits * 64 + (b - 0x80)
      if more ≤ 1 then ([some (Char.ofNat bits)], .idle) else ([], .within (more - 1) 0x80 0xBF bits)
    else
      let (out, next) := start b
      (none :: out, next)

/-- The units of the octets, read from a state. -/
def unitsFrom : Pending → Bytes → List (Option Char)
  | .idle, [] => []
  | .within .., [] => [none]
  | p, b :: rest =>
    let (out, next) := step p b.toNat
    out ++ unitsFrom next rest

/-- The units of the octets: characters, and `none` for each longest bad run. -/
def units (bytes : Bytes) : List (Option Char) :=
  unitsFrom .idle bytes

/-- The text of the octets, when all of them are UTF-8. -/
def decode? (bytes : Bytes) : Option (List Char) :=
  (units bytes).mapM id

/-- The text of the octets, with U+FFFD for each longest bad run. -/
def lossy (bytes : Bytes) : List Char :=
  (units bytes).map (·.getD '\uFFFD')

end Utf8

def Bytes.ofString (s : String) : Bytes :=
  Utf8.encode s.toList

/-- The string that the octets spell, when they are UTF-8. -/
def Bytes.toString? (bytes : Bytes) : Option String :=
  (Utf8.decode? bytes).map String.ofList

/-- The string that the octets spell, with U+FFFD for what is not UTF-8. -/
def Bytes.toStringLossy (bytes : Bytes) : String :=
  String.ofList (Utf8.lossy bytes)

end MockProvider
