import MockProvider.Json.Parser
import MockProvider.Text.Basic

/-!
# Content types

The media type of a body, as a `Content-Type` header gives it. Its essence, the type without its
parameters, decides how bodies are compared. `ContentType.sniff` guesses the type of octets that
come without one.
-/

namespace MockProvider

/-- How bodies are compared. -/
inductive BodyKind where
  | json
  | xml
  | text
  | binary
deriving DecidableEq, Repr

/-- A media type with its parameters. -/
structure ContentType where
  text : String
deriving DecidableEq, Repr

namespace ContentType

def ofHeader (value : String) : ContentType :=
  ⟨Text.trim value⟩

/-- The types that are assumed where none is given. -/
def json : ContentType := ⟨"application/json"⟩
def xml : ContentType := ⟨"application/xml"⟩
def plain : ContentType := ⟨"text/plain"⟩
def octets : ContentType := ⟨"application/octet-stream"⟩

/-- Type and subtype without parameters, in lower case. -/
def essence (t : ContentType) : String :=
  Ascii.lower (String.ofList (Text.trimChars (t.text.toList.takeWhile (· != ';'))))

/-- How bodies of the type are compared: structured types by their structure, textual ones as
    text. -/
def kind (t : ContentType) : BodyKind :=
  let e := t.essence
  if e = "application/json" ∨ e = "text/json" ∨ "+json".toList.isSuffixOf e.toList then .json
  else if e = "application/xml" ∨ e = "text/xml" ∨ "+xml".toList.isSuffixOf e.toList then .xml
  else if "text/".toList.isPrefixOf e.toList ∨ e = "application/x-www-form-urlencoded" ∨
      e = "application/javascript" then .text
  else .binary

/-- The type that octets look like: an object or array in JSON, text that begins like XML, other
    text, or anything. -/
def sniff (bytes : Bytes) : ContentType :=
  match Utf8.decode? bytes with
  | none => octets
  | some cs =>
    match Text.trimStart cs with
    | [] => plain
    | c :: _ =>
      if (c = '\x7b' ∨ c = '[') ∧ (Json.parse bytes).toBool then json
      else if c = '<' then xml
      else plain

end ContentType

end MockProvider
