import MockProvider.Json.Parser

/-!
# Records

A record has a fixed list of fields. In a document it is an object or an array with its fields in
order. Members of the object that are no fields are passed over: only their form is looked at, not
whether their numbers have a value, their escapes a character or their nesting a bound. A field
may stand once.
-/

namespace MockProvider.Json

/-! ## Passing over values -/

/-- Passes over a string whose opening quote has been read, in at most `fuel` steps. -/
def skipString : (fuel : Nat) → Bytes → Except Fault Bytes
  | 0, input => fail .endOfString input
  | _ + 1, [] => fail .endOfString []
  | fuel + 1, b :: rest =>
    if b = 0x22 then .ok rest
    else if b = 0x5C then
      match rest with
      | [] => fail .endOfString []
      | c :: rest =>
        if c = 0x75 then do
          let (_, rest) ← hexEscape rest
          skipString fuel rest
        else if (escaped? c).isSome then skipString fuel rest
        else fail .invalidEscape rest
    else if b < 0x20 then fail .controlCharacter rest
    else skipString fuel rest

/-- Passes over the exponent of a number, its mark left out. -/
def skipExponent (input : Bytes) : Except Fault Bytes :=
  match (exponentSign input).2 with
  | [] => fail .invalidNumber []
  | b :: rest =>
    if isDigit b then .ok (rest.dropWhile isDigit) else fail .invalidNumber rest

/-- Passes over an exponent, if there is one. -/
def skipOptionalExponent (input : Bytes) : Except Fault Bytes :=
  match input with
  | [] => .ok []
  | b :: rest => if isExponentMark b then skipExponent rest else .ok (b :: rest)

/-- Passes over a number whose sign has been read. -/
def skipNumber (input : Bytes) : Except Fault Bytes :=
  match input with
  | [] => fail .invalidNumber []
  | b :: rest =>
    if isDigit b = false then fail .invalidNumber rest
    else
      let rest' := rest.dropWhile isDigit
      if b = 0x30 ∧ rest'.length < rest.length then failAt .invalidNumber rest
      else
        match rest' with
        | [] => .ok []
        | c :: rest =>
          if c = 0x2E then
            let after := rest.dropWhile isDigit
            if after.length < rest.length then skipOptionalExponent after
            else failAt .invalidNumber rest
          else skipOptionalExponent (c :: rest)

mutual

/-- Passes over a value, in at most `fuel` steps. -/
def skipValue : (fuel : Nat) → Bytes → Except Fault Bytes
  | 0, input => fail .endOfValue input
  | fuel + 1, input =>
    match skipBlanks input with
    | [] => fail .endOfValue []
    | b :: rest =>
      if b = 0x6E then word [0x75, 0x6C, 0x6C] rest
      else if b = 0x74 then word [0x72, 0x75, 0x65] rest
      else if b = 0x66 then word [0x61, 0x6C, 0x73, 0x65] rest
      else if b = 0x2D then skipNumber rest
      else if isDigit b then skipNumber (b :: rest)
      else if b = 0x22 then skipString (rest.length + 1) rest
      else if b = 0x5B then
        match skipBlanks rest with
        | [] => fail .endOfList []
        | c :: after => if c = 0x5D then .ok after else skipItems fuel rest
      else if b = 0x7B then
        match skipBlanks rest with
        | [] => fail .endOfObject []
        | c :: after => if c = 0x7D then .ok after else skipMembers fuel rest
      else failAt .expectedValue (b :: rest)

/-- Passes over the items of an array, at least one, and its closing bracket. -/
def skipItems : (fuel : Nat) → Bytes → Except Fault Bytes
  | 0, input => fail .endOfList input
  | fuel + 1, input => do
    let rest ← skipValue fuel input
    match skipBlanks rest with
    | [] => fail .endOfList []
    | b :: rest =>
      if b = 0x5D then .ok rest
      else if b = 0x2C then skipItems fuel rest
      else failAt .expectedCommaOrBracket (b :: rest)

/-- Passes over the members of an object, at least one, and its closing brace. -/
def skipMembers : (fuel : Nat) → Bytes → Except Fault Bytes
  | 0, input => fail .endOfObject input
  | fuel + 1, input =>
    match skipBlanks input with
    | [] => fail .endOfObject []
    | b :: rest =>
      if b = 0x22 then do
        let rest ← skipString (rest.length + 1) rest
        let rest ← colon rest
        let rest ← skipValue fuel rest
        match skipBlanks rest with
        | [] => fail .endOfObject []
        | c :: rest =>
          if c = 0x7D then .ok rest
          else if c = 0x2C then skipMembers fuel rest
          else failAt .expectedCommaOrBrace (c :: rest)
      else failAt .keyMustBeString (b :: rest)

end

/-! ## Reading records -/

/-- Reads the value of a member of a record: a field as a value, anything else by passing over. -/
def fieldValue (fields : List String) (key : String) (input : Bytes) :
    Except Fault (Option Json × Bytes) :=
  if fields.contains key then do
    let (v, rest) ← value (maxDepth - 1) input
    return (some v, rest)
  else do
    let rest ← skipValue (2 * input.length + 2) input
    return (none, rest)

def givenTo (field : String) (pairs : List (String × Option Json)) : List Json :=
  pairs.filterMap fun pair => if pair.1 = field then pair.2 else none

/-- Reads a record: for each of its fields the value, or `none` where it is missing. -/
def recordOf (fields : List String) (input : Bytes) :
    Except Fault (Option (List (Option Json)) × Bytes) :=
  match skipBlanks input with
  | [] => fail .endOfValue []
  | b :: rest =>
    if b = 0x7B then do
      let (pairs, rest) ← members (fieldValue fields) rest
      let given := fields.map fun field => givenTo field pairs
      if given.all fun values => values.length ≤ 1 then return (some (given.map List.head?), rest)
      else return (none, rest)
    else if b = 0x5B then do
      let (values, rest) ← items (value (maxDepth - 1)) rest
      if values.length ≤ fields.length then
        let missing := List.replicate (fields.length - values.length) none
        return (some (values.map some ++ missing), rest)
      else return (none, rest)
    else return (none, b :: rest)

/-- The fields of the record that a document holds, if it holds one. -/
def record? (fields : List String) (input : Bytes) : Option (List (Option Json)) :=
  match document (recordOf fields) input with
  | .ok found => found
  | .error _ => none

end MockProvider.Json
