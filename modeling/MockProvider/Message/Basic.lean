import MockProvider.Body.Basic
import MockProvider.Query
import MockProvider.Rule.Table

/-!
# Requests and responses

A message has headers, a body and the rules by which it is compared; requests and responses add
their own parts. Headers are looked up by name without regard to case.
-/

namespace MockProvider

/-- The values of each header. -/
abbrev Headers := Dict (List String)

/-- The values of the first header with a name, whatever its case. -/
def Headers.lookup? (headers : Headers) (name : String) : Option (List String) :=
  (headers.toList.find? fun entry => Ascii.sameIgnoringCase entry.1 name).map Prod.snd

/-- What requests and responses have in common. -/
structure Message where
  headers : Option Headers := none
  body : Body := .absent
  rules : RuleTable := .empty
deriving DecidableEq

namespace Message

/-- The values of a header, whatever the case of its name. -/
def header? (m : Message) (name : String) : Option (List String) :=
  m.headers.bind fun headers => headers.lookup? name

def contentType? (m : Message) : Option String :=
  (m.header? "content-type").bind List.head?

end Message

/-- A request, expected or received. -/
structure Request extends Message where
  method : String := "GET"
  path : String := "/"
  query : Option Query := none
deriving DecidableEq

/-- A response, expected or to be served. -/
structure Response extends Message where
  status : UInt16 := 200
deriving DecidableEq

instance : Inhabited Request := ⟨{}⟩
instance : Inhabited Response := ⟨{}⟩

end MockProvider
