import MockProvider.Body.ContentType
import MockProvider.Json.Printer
import MockProvider.Text.Utf8

/-!
# Bodies

A body of a request or response. Nothing is expected of an absent body; an empty one has no octets;
a present one has octets and a content type. A contract gives a body as a value of a document,
and the network gives it as octets. In a document octets that are no text stand in base 64.
-/

namespace MockProvider

/-! ## Base 64

Octets as letters, digits, `+` and `/`: three octets make four characters, and `=` fills the last
four up.
-/

namespace Base64

/-- The character of a number below sixty-four. -/
def digit (n : Nat) : Char :=
  if n < 26 then Char.ofNat (65 + n)
  else if n < 52 then Char.ofNat (71 + n)
  else if n < 62 then Char.ofNat (n - 4)
  else if n = 62 then '+'
  else '/'

def encodeChars : Bytes → List Char
  | [] => []
  | [a] =>
    let n := a.toNat * 65536
    [digit (n / 262144), digit (n / 4096 % 64), '=', '=']
  | [a, b] =>
    let n := a.toNat * 65536 + b.toNat * 256
    [digit (n / 262144), digit (n / 4096 % 64), digit (n / 64 % 64), '=']
  | a :: b :: c :: rest =>
    let n := a.toNat * 65536 + b.toNat * 256 + c.toNat
    digit (n / 262144) :: digit (n / 4096 % 64) :: digit (n / 64 % 64) :: digit (n % 64) ::
      encodeChars rest

def encode (bytes : Bytes) : String :=
  String.ofList (encodeChars bytes)

end Base64

/-! ## Bodies -/

/-- The body of a request or response. -/
inductive Body where
  | absent
  | empty
  | present (bytes : Bytes) (type : ContentType)
deriving DecidableEq, Repr

namespace Body

instance : Inhabited Body := ⟨absent⟩

/-- The body that a contract declares: strings stand for their text, every other value for itself
    as a document, and null for no body. -/
def ofContract (value : Option Json) (header : Option String) : Body :=
  match value with
  | none | some .null => .absent
  | some (.string s) =>
    if s.isEmpty then .empty
    else
      let bytes := Bytes.ofString s
      .present bytes ((header.map ContentType.ofHeader).getD (ContentType.sniff bytes))
  | some other => .present other.toBytes ((header.map ContentType.ofHeader).getD ContentType.json)

def ofBytes (bytes : Bytes) (header : Option String) : Body :=
  if bytes.isEmpty then .empty
  else .present bytes ((header.map ContentType.ofHeader).getD (ContentType.sniff bytes))

def isPresent : Body → Bool
  | .present .. => true
  | _ => false

def bytes : Body → Bytes
  | .present bytes _ => bytes
  | _ => []

def type? : Body → Option ContentType
  | .present _ type => some type
  | _ => none

/-- The octets as text, with U+FFFD for what is not UTF-8. -/
def text (b : Body) : String :=
  b.bytes.toStringLossy

/-- A body as a value of a document: JSON that can be read as itself, octets that are neither
    declared nor readable as text in base 64, and all else as text. -/
def toJson : Body → Json
  | .absent => .null
  | .empty => .string ""
  | .present bytes type =>
    match type.kind with
    | .json =>
      match Json.parse bytes with
      | .ok value => value
      | .error _ => .string bytes.toStringLossy
    | .binary =>
      match bytes.toString? with
      | some s => .string s
      | none => .string (Base64.encode bytes)
    | _ => .string bytes.toStringLossy

def display : Body → String
  | .absent => "<absent>"
  | .empty => "<empty>"
  | .present bytes type =>
    bytes.toStringLossy ++ " (" ++ toString bytes.length ++ " bytes, " ++ type.text ++ ")"

end Body

end MockProvider
