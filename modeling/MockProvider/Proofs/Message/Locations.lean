import MockProvider.Message.Codec
import MockProvider.Proofs.Rule.Locations

/-!
# Where requests and responses have their defects

The readers of requests and responses are located: `Request.located_ofObject` and
`Response.located_ofObject`. A defect of an object is in one of the fields that its reader looks at,
a list that has one field for each check; a body has no defects.
-/

namespace MockProvider

/-! ## Tables of rules -/

namespace RuleTable

theorem located_readFlat (t : RuleTable) (members : List (String × Json)) :
    Located Defect.Anywhere fun location => readFlat location t members := by
  induction members generalizing t with
  | nil => exact .ok t
  | cons member members ih =>
    obtain ⟨key, definition⟩ := member
    cases hpath : DocPath.parse key with
    -- a key that is no path is passed over wherever the table stands
    | error e =>
      simp only [readFlat, hpath]
      exact ih t
    | ok path =>
      simp only [readFlat, hpath]
      exact ((RuleList.located_ofJson definition).key key).bind fun list => ih (t.addFlat path list)

theorem located_readNamed (category : Category) (t : RuleTable) (members : List (String × Json)) :
    Located Defect.Anywhere fun location => readNamed location category t members := by
  induction members generalizing t with
  | nil => exact .ok t
  | cons member members ih =>
    obtain ⟨key, definition⟩ := member
    refine ((RuleList.located_ofJson definition).key key).bind fun list => ?_
    split
    · split
      · exact ih t
      · next path _ => exact ih (t.addList category path list)
    · exact ih (t.addList category (namedPlace category key) list)

theorem located_readCategory (category : Category) (t : RuleTable) (content : Json) :
    Located Defect.Anywhere fun location => readCategory location category t content := by
  simp only [readCategory]
  split
  · split
    · exact .ok t
    · exact (RuleList.located_ofJson content).map _
  · split
    · exact .invalid _ trivial
    · next members _ => exact located_readNamed category t members

theorem located_readCategories (t : RuleTable) (members : List (String × Json)) :
    Located Defect.Anywhere fun location => readCategories location t members := by
  induction members generalizing t with
  | nil => exact .ok t
  | cons member members ih =>
    obtain ⟨name, content⟩ := member
    cases hcategory : Category.named? name with
    | none =>
      simp only [readCategories, hcategory]
      exact ih t
    | some category =>
      simp only [readCategories, hcategory]
      exact ((located_readCategory category t content).below name).bind ih

theorem located_ofJson (value : Json) :
    Located Defect.Anywhere fun location => ofJson location value := by
  cases value with
  | null => exact .ok empty
  | object members =>
    simp only [ofJson]
    split
    · exact located_readFlat empty members
    · exact located_readCategories empty members
  | _ => exact .invalid _ trivial

end RuleTable

/-! ## Headers, queries and rules -/

namespace Message

theorem located_optionalString {names : List String} {key : String} (hkey : key ∈ names)
    (members : List (String × Json)) :
    Located (Defect.InField names) fun location => optionalString location members key := by
  simp only [optionalString]
  split
  · exact .ok none
  · exact .ok none
  · exact .ok _
  · exact .invalidField hkey _

theorem located_stringItems (position : Nat) (items : List Json) :
    Located Defect.Anywhere fun location => stringItems location position items := by
  induction items generalizing position with
  | nil => exact .ok []
  | cons item items ih =>
    simp only [stringItems]
    split
    · exact (Located.invalid _ trivial : Located Defect.Anywhere _).item position
    · exact (ih (position + 1)).map _

theorem located_stringValues (value : Json) :
    Located Defect.Anywhere fun location => stringValues location value := by
  simp only [stringValues]
  split
  · exact .ok _
  · next items => exact located_stringItems 0 items
  · exact .ok _
  · exact .ok _
  · exact .ok _
  · exact .invalid _ trivial

theorem located_valuesByName (members : List (String × Json)) :
    Located Defect.Anywhere fun location => valuesByName location members := by
  induction members with
  | nil => exact .ok []
  | cons member members ih =>
    obtain ⟨name, value⟩ := member
    refine ((located_stringValues value).below name).bind fun values => ?_
    exact ih.bind fun others => .ok ((name, values) :: others)

theorem located_queryOf (value : Option Json) :
    Located Defect.Anywhere fun location => queryOf location value := by
  simp only [queryOf]
  split
  · exact .ok none
  · exact .ok none
  · exact .ok _
  · next members => exact (located_valuesByName members).map _
  · exact .invalid _ trivial

theorem located_headersOf (value : Option Json) :
    Located Defect.Anywhere fun location => headersOf location value := by
  simp only [headersOf]
  split
  · exact .ok none
  · exact .ok none
  · next members => exact (located_valuesByName members).map _
  · exact .invalid _ trivial

/-- The part that requests and responses share has its defects in headers and rules. -/
theorem located_ofMembers {names : List String} (hheaders : "headers" ∈ names)
    (hrules : "matchingRules" ∈ names) (members : List (String × Json)) :
    Located (Defect.InField names) fun location => ofMembers location members := by
  refine ((located_headersOf _).field hheaders).bind fun headers => ?_
  dsimp only
  split
  · exact .ok _
  · next value _ => exact ((RuleTable.located_ofJson value).field hrules).bind fun rules => .ok _

end Message

/-! ## Requests and responses -/

namespace Request

def checkedFields : List String :=
  ["method", "path", "query", "headers", "matchingRules"]

theorem located_ofObject (members : List (String × Json)) :
    Located (Defect.InField checkedFields) fun location => ofJson location (.object members) := by
  have hmethod : Located (Defect.InField checkedFields) fun location => methodOf location members :=
    (Message.located_optionalString (by decide) members).map _
  refine hmethod.bind fun method => ?_
  refine (Message.located_optionalString (by decide) members).bind fun path => ?_
  refine ((Message.located_queryOf _).field (by decide)).bind fun query => ?_
  exact (Message.located_ofMembers (by decide) (by decide) members).bind fun content => .ok _

theorem located_ofJson (value : Json) :
    Located Defect.Anywhere fun location => ofJson location value := by
  cases value with
  | object members => exact (located_ofObject members).mono fun _ _ => trivial
  | _ => exact .invalid _ trivial

end Request

namespace Response

def checkedFields : List String :=
  ["status", "headers", "matchingRules"]

theorem located_statusOf (members : List (String × Json)) :
    Located (Defect.InField checkedFields) fun location => statusOf location members := by
  simp only [statusOf]
  split
  · exact .ok 200
  · exact .ok 200
  · split
    · split
      · exact .ok _
      · exact .invalidField (by decide) _
    · exact .invalidField (by decide) _

theorem located_ofObject (members : List (String × Json)) :
    Located (Defect.InField checkedFields) fun location => ofJson location (.object members) := by
  refine (located_statusOf members).bind fun status => ?_
  exact (Message.located_ofMembers (by decide) (by decide) members).bind fun content => .ok _

theorem located_ofJson (value : Json) :
    Located Defect.Anywhere fun location => ofJson location value := by
  cases value with
  | object members => exact (located_ofObject members).mono fun _ _ => trivial
  | _ => exact .invalid _ trivial

end Response

end MockProvider
