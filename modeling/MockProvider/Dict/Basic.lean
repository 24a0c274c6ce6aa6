import MockProvider.Dict.Assoc

/-!
# Dictionaries

A dictionary from texts to values keeps its keys in ascending order of code points; the order is
seen wherever a dictionary is listed, compared or written. Two dictionaries with the same entries
are equal.
-/

namespace MockProvider

/-- Values by text keys, in ascending order of the keys. -/
structure Dict (α : Type) where
  toList : List (String × α)
  ascending : Assoc.Ascending toList := by exact List.Pairwise.nil
deriving DecidableEq

namespace Dict

variable {α β : Type}

def empty : Dict α := { toList := [] }

instance : EmptyCollection (Dict α) := ⟨empty⟩
instance : Inhabited (Dict α) := ⟨empty⟩

def get? (d : Dict α) (key : String) : Option α :=
  Assoc.get? d.toList key

def contains (d : Dict α) (key : String) : Bool :=
  Assoc.contains d.toList key

/-- The keys, ascending. -/
def keys (d : Dict α) : List String :=
  d.toList.map Prod.fst

def size (d : Dict α) : Nat :=
  d.toList.length

def isEmpty (d : Dict α) : Bool :=
  d.toList.isEmpty

/-- The dictionary with `value` at `key`. -/
def insert (d : Dict α) (key : String) (value : α) : Dict α :=
  ⟨Assoc.insert key value d.toList, d.ascending.insert key value⟩

/-- The dictionary with the value at `key` replaced by what `f` makes of it. -/
def alter (d : Dict α) (key : String) (f : Option α → α) : Dict α :=
  d.insert key (f (d.get? key))

/-- The pairs as a dictionary; of two pairs with one key the later counts. -/
def ofList (pairs : List (String × α)) : Dict α :=
  ⟨Assoc.ofList pairs, Assoc.ascending_ofList pairs⟩

/-- The dictionary with `f` applied to each value. -/
def map (f : α → β) (d : Dict α) : Dict β :=
  ⟨Assoc.mapValues f d.toList, d.ascending.mapValues f⟩

@[simp] theorem get?_empty (key : String) : (empty : Dict α).get? key = none := rfl

@[simp] theorem get?_insert (d : Dict α) (key other : String) (value : α) :
    (d.insert key value).get? other = if key = other then some value else d.get? other :=
  Assoc.get?_insert d.toList key other value

end Dict

end MockProvider
