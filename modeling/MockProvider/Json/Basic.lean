import MockProvider.Dict.Basic
import MockProvider.Json.Number

/-!
# JSON values

Values of JSON documents. The members of an object stand in ascending order of their keys, each key
once; `Json.Ordered` says so for a whole value, and `Json.ofDict` and the reader of documents build
such values only. Equality of values, `Json.same`, is that of their structure, except that the two
floating point zeros are equal.
-/

namespace MockProvider

/-- A value of a JSON document. -/
inductive Json where
  | null
  | bool (value : Bool)
  | number (value : Number)
  | string (value : String)
  | array (items : List Json)
  | object (members : List (String × Json))
deriving Inhabited

namespace Json

/-! ## Building -/

/-- An object from members in any order; of two members with one key the later counts. -/
def ofMembers (members : List (String × Json)) : Json :=
  .object (Assoc.ofList members)

def ofDict (d : Dict Json) : Json :=
  .object d.toList

def ofStrings (values : List String) : Json :=
  .array (values.map .string)

def ofNat (n : Nat) : Json :=
  .number (.ofNat n)

def ofInt (n : Int) : Json :=
  .number (.ofInt n)

/-! ## Looking inside -/

/-- The value of a member, when the value is an object that has it. -/
def get? : Json → String → Option Json
  | .object members, key => Assoc.get? members key
  | _, _ => none

/-- The members, when the value is an object. -/
def members? : Json → Option (List (String × Json))
  | .object members => some members
  | _ => none

/-- The items, when the value is an array. -/
def items? : Json → Option (List Json)
  | .array items => some items
  | _ => none

/-- The text, when the value is a string. -/
def string? : Json → Option String
  | .string s => some s
  | _ => none

/-- The natural number of 64 bits, when the value is one. -/
def uint64? : Json → Option UInt64
  | .number n => n.toUInt64?
  | _ => none

/-! ## Equality -/

mutual

def same : Json → Json → Bool
  | .null, .null => true
  | .bool a, .bool b => a == b
  | .number a, .number b => a.same b
  | .string a, .string b => a == b
  | .array a, .array b => sameItems a b
  | .object a, .object b => sameMembers a b
  | _, _ => false

def sameItems : List Json → List Json → Bool
  | [], [] => true
  | a :: as, b :: bs => same a b && sameItems as bs
  | _, _ => false

/-- Whether two lists of members are equal, key by key and value by value. -/
def sameMembers : List (String × Json) → List (String × Json) → Bool
  | [], [] => true
  | (k, a) :: as, (l, b) :: bs => k == l && same a b && sameMembers as bs
  | _, _ => false

end

instance : BEq Json := ⟨same⟩

/-! ## Order of members -/

mutual

/-- In every object inside, the keys ascend strictly. -/
def Ordered : Json → Prop
  | .array items => OrderedItems items
  | .object members => Assoc.Ascending members ∧ OrderedMembers members
  | _ => True

def OrderedItems : List Json → Prop
  | [] => True
  | item :: items => Ordered item ∧ OrderedItems items

def OrderedMembers : List (String × Json) → Prop
  | [] => True
  | (_, value) :: members => Ordered value ∧ OrderedMembers members

end

end Json

end MockProvider
