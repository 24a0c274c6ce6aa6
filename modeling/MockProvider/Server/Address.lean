import MockProvider.Config

/-!
# Socket addresses

The addresses that servers listen at: an address of the internet protocol in one of its two forms,
and the number of a socket there. `SocketAddress.resolve` reads an address as people write it, with
a name for the own machine or a shortened number in place of the full form.

Readers take characters and give what they read with the rest, or nothing.
-/

namespace MockProvider

/-- An address of the internet protocol. -/
inductive IpAddress where
  | v4 (a b c d : UInt8)
  | v6 (groups : List UInt16) (scope : UInt32)
deriving DecidableEq, Repr

/-- An address and the number of a socket there. -/
structure SocketAddress where
  ip : IpAddress
  socket : UInt16
deriving DecidableEq, Repr

/-! ## Writing -/

namespace IpAddress

def loopback : IpAddress := .v4 127 0 0 1

def renderV4 (a b c d : UInt8) : String :=
  Text.join "." [toString a.toNat, toString b.toNat, toString c.toNat, toString d.toNat]

def zerosInFront (groups : List UInt16) : Nat :=
  (groups.takeWhile (· == 0)).length

/-- The longest run of zero groups, the first of equally long ones: its begin and its length. -/
def longestZeros : (position : Nat) → List UInt16 → Nat × Nat
  | _, [] => (0, 0)
  | position, g :: gs =>
    let here := zerosInFront (g :: gs)
    let later := longestZeros (position + 1) gs
    if later.2 ≤ here then (position, here) else later

/-- Groups in hexadecimal, with colons between them. -/
def renderGroups (groups : List UInt16) : String :=
  Text.join ":" (groups.map fun g => String.ofList (Nat.toDigits 16 g.toNat))

/-- Eight groups; the longest run of several zeros is left out. -/
def renderV6 (groups : List UInt16) : String :=
  match groups with
  | [0, 0, 0, 0, 0, 0xFFFF, high, low] =>
    "::ffff:" ++ renderV4 (high >>> 8).toUInt8 high.toUInt8 (low >>> 8).toUInt8 low.toUInt8
  | groups =>
    let (start, length) := longestZeros 0 groups
    if 1 < length then
      renderGroups (groups.take start) ++ "::" ++ renderGroups (groups.drop (start + length))
    else renderGroups groups

end IpAddress

/-- An address in a text, the number of the socket given as a text. -/
def SocketAddress.renderWith (socket : String) (a : SocketAddress) : String :=
  match a.ip with
  | .v4 x y z w => IpAddress.renderV4 x y z w ++ ":" ++ socket
  | .v6 groups scope =>
    let scope := if scope = 0 then "" else "%" ++ toString scope.toNat
    "[" ++ IpAddress.renderV6 groups ++ scope ++ "]:" ++ socket

def SocketAddress.render (a : SocketAddress) : String :=
  a.renderWith (toString a.socket.toNat)

/-! ## Reading full addresses -/

namespace AddressReader

def digit? (base : Nat) (c : Char) : Option Nat :=
  (Ascii.hexValue? c.toNat).filter (· < base)

def valueOf (base : Nat) (digits : List Char) : Nat :=
  digits.foldl (fun n c => n * base + (digit? base c).getD 0) 0

/-- Reads a number below a bound, of at most `most` digits. -/
def number (base most bound : Nat) (zerosAllowed : Bool) (cs : List Char) :
    Option (Nat × List Char) :=
  let digits := cs.takeWhile fun c => (digit? base c).isSome
  let n := valueOf base digits
  let padded := digits.head? == some '0' && digits.length != 1
  if digits.isEmpty ∨ most < digits.length ∨ bound ≤ n ∨ (padded ∧ !zerosAllowed) then none
  else some (n, cs.drop digits.length)

def sign (c : Char) : List Char → Option (List Char)
  | d :: rest => if c = d then some rest else none
  | [] => none

def octet (cs : List Char) : Option (UInt8 × List Char) :=
  (number 10 3 256 false cs).map fun (n, rest) => (n.toUInt8, rest)

def four (cs : List Char) : Option ((UInt8 × UInt8 × UInt8 × UInt8) × List Char) := do
  let (a, cs) ← octet cs
  let (b, cs) ← octet (← sign '.' cs)
  let (c, cs) ← octet (← sign '.' cs)
  let (d, cs) ← octet (← sign '.' cs)
  return ((a, b, c, d), cs)

def pair (a b : UInt8) : UInt16 :=
  a.toUInt16 <<< 8 ||| b.toUInt16

/-- Reads a colon, unless at the begin. -/
def separator (first : Bool) (cs : List Char) : Option (List Char) :=
  if first then some cs else sign ':' cs

/-- Reads up to `limit` groups, as far as they go; four octets may stand for the last two. Tells
    whether they did. -/
def groups (first : Bool) : (limit : Nat) → List Char → List UInt16 × Bool × List Char
  | 0, cs => ([], false, cs)
  | limit + 1, cs =>
    match if 0 < limit then (separator first cs).bind four else none with
    | some ((a, b, c, d), rest) => ([pair a b, pair c d], true, rest)
    | none =>
      match (separator first cs).bind (number 16 4 65536 true) with
      | none => ([], false, cs)
      | some (g, rest) =>
        let (gs, mixed, rest) := groups false limit rest
        (g.toUInt16 :: gs, mixed, rest)

/-- Reads eight groups; a doubled colon stands for as many zeros as are missing. -/
def eight (cs : List Char) : Option (List UInt16 × List Char) :=
  match groups true 8 cs with
  | (front, mixed, rest) =>
    if front.length = 8 then some (front, rest)
    else if mixed then none
    else do
      let rest ← sign ':' rest
      let rest ← sign ':' rest
      let (back, _, rest) := groups true (7 - front.length) rest
      return (front ++ List.replicate (8 - front.length - back.length) 0 ++ back, rest)

/-- Reads a colon and the number of a socket. -/
def socket (cs : List Char) : Option (UInt16 × List Char) := do
  let cs ← sign ':' cs
  let (n, rest) ← number 10 cs.length 65536 true cs
  return (n.toUInt16, rest)

def socketV4 (cs : List Char) : Option (SocketAddress × List Char) := do
  let ((a, b, c, d), cs) ← four cs
  let (n, cs) ← socket cs
  return (⟨.v4 a b c d, n⟩, cs)

/-- Reads a scope, if there is one. -/
def scope (cs : List Char) : Option (UInt32 × List Char) :=
  match cs with
  | '%' :: rest =>
    (number 10 rest.length UInt32.size true rest).map fun (n, rest) => (n.toUInt32, rest)
  | cs => some (0, cs)

def socketV6 (cs : List Char) : Option (SocketAddress × List Char) := do
  let cs ← sign '[' cs
  let (groups, cs) ← eight cs
  let (scope, cs) ← scope cs
  let cs ← sign ']' cs
  let (n, cs) ← socket cs
  return (⟨.v6 groups scope, n⟩, cs)

/-- What was read, when nothing is left. -/
def whole (result : Option (α × List Char)) : Option α :=
  match result with
  | some (a, []) => some a
  | _ => none

end AddressReader

namespace SocketAddress

open AddressReader

def parse? (text : String) : Option SocketAddress :=
  (whole (socketV4 text.toList)).or (whole (socketV6 text.toList))

/-! ## Hosts -/

/-- Reads a part of a number for a host; the base shows in front of it. -/
def hostPart (cs : List Char) : Option Nat :=
  let (base, digits) : Nat × List Char :=
    match cs with
    | '0' :: 'x' :: digits => (16, digits)
    | '0' :: 'X' :: digits => (16, digits)
    | '0' :: digits => (8, '0' :: digits)
    | digits => (10, digits)
  (whole (number base digits.length 0x100000000 true digits))

/-- The address with a number of 32 bits. -/
def ofNumber (n : Nat) : IpAddress :=
  .v4 (n >>> 24).toUInt8 (n >>> 16).toUInt8 (n >>> 8).toUInt8 n.toUInt8

/-- The address with one to four parts; the last one fills all octets that are left. -/
def ofParts : List Nat → Option IpAddress
  | [a] => some (ofNumber a)
  | [a, b] => if a < 256 ∧ b < 0x1000000 then some (ofNumber (a <<< 24 + b)) else none
  | [a, b, c] =>
    if a < 256 ∧ b < 256 ∧ c < 0x10000 then some (ofNumber (a <<< 24 + b <<< 16 + c)) else none
  | [a, b, c, d] =>
    if a < 256 ∧ b < 256 ∧ c < 256 ∧ d < 256 then
      some (ofNumber (a <<< 24 + b <<< 16 + c <<< 8 + d))
    else none
  | _ => none

/-- The address of a host: a number in a short form, eight groups without brackets, or the name of
    the own machine. Other names are not known. -/
def hostAddress? (host : String) : Option IpAddress :=
  if Ascii.sameIgnoringCase host "localhost" then some .loopback
  else
    let short := ((Text.splitChars '.' host.toList).mapM hostPart).bind ofParts
    short.or ((whole (eight host.toList)).map fun groups => .v6 groups 0)

/-- The parts before and after the last colon. -/
def cutLast? (text : String) : Option (String × String) :=
  let back := text.toList.reverse
  match back.dropWhile (· != ':') with
  | [] => none
  | _ :: front =>
    some (String.ofList front.reverse, String.ofList (back.takeWhile (· != ':')).reverse)

/-- Reads an address as it is written, in full or with a host. -/
def resolve (text : String) : Option SocketAddress :=
  match parse? text with
  | some address => some address
  | none => do
    let (host, numberText) ← cutLast? text
    let ip ← hostAddress? host
    match readNumber 65536 numberText with
    | .ok n => return ⟨ip, n.toUInt16⟩
    | .error _ => none

end SocketAddress

end MockProvider
