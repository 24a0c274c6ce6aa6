import MockProvider.Server.Error

/-!
# Listening

Where servers can listen on a machine that no network reaches: at any address of four octets, and of
the others only at those that stand for such ones or for all. Two servers cannot listen at one
socket of one address. The socket number zero asks for one that no server has had.
-/

namespace MockProvider

namespace IpAddress

/-- The four octets that an address stands for, in one number; zero stands for every address. -/
def number? : IpAddress → Option Nat
  | .v4 a b c d =>
    some (a.toNat <<< 24 + b.toNat <<< 16 + c.toNat <<< 8 + d.toNat)
  | .v6 [0, 0, 0, 0, 0, 0xFFFF, high, low] _ => some (high.toNat <<< 16 + low.toNat)
  | .v6 [0, 0, 0, 0, 0, 0, 0, 0] _ => some 0
  | .v6 _ _ => none

/-- Whether an address is one of a group of machines, or of a single link. -/
def isGroupOrLink : IpAddress → Bool
  | .v6 (first :: _) _ => first &&& 0xFF00 == 0xFF00 || first &&& 0xFFC0 == 0xFE80
  | _ => false

def fault? (ip : IpAddress) : Option BindFault :=
  if ip.number?.isSome then none
  else if ip.isGroupOrLink then some .invalid
  else some .notAvailable

/-- Whether two addresses have a machine in common. -/
def overlaps (a b : IpAddress) : Bool :=
  let m := a.number?
  let n := b.number?
  m == n || m == some 0 || n == some 0

end IpAddress

namespace SocketAddress

/-- Whether only one of two addresses can be listened at. -/
def conflicts (a b : SocketAddress) : Bool :=
  a.socket == b.socket && a.ip.overlaps b.ip

/-- The first of the socket numbers that are given away. -/
def firstGiven : Nat := 32768

/-- A socket number that is not among the used ones. -/
def freshSocket (used : List UInt16) : UInt16 :=
  let numbers := (List.range (used.length + 1)).map fun n => (firstGiven + n).toUInt16
  (numbers.find? fun n => !used.contains n).getD 0

def listen (a : SocketAddress) (listening : List SocketAddress) (used : List UInt16) :
    Except BindFault SocketAddress :=
  match a.ip.fault? with
  | some fault => .error fault
  | none =>
    if a.socket = 0 then .ok { a with socket := freshSocket used }
    else if listening.any a.conflicts then .error .inUse
    else .ok a

end SocketAddress

end MockProvider
