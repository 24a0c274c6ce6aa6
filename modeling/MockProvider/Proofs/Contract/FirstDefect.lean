import MockProvider.Proofs.Contract.RoundTrip
import MockProvider.Proofs.Message.Locations

/-!
# The first interaction that cannot be read

Where the parties of a document can be read and its interactions are listed, the document is a
contract if each of them can be read on its own. Otherwise the error is that of the first one that
cannot, and its location leads into a part of that interaction: `Contract.ofJson_first_refused`.
-/

namespace MockProvider

/-! ## One interaction -/

namespace Interaction

/-- The fields of an interaction that can have a defect. -/
def checkedFields : List String :=
  ["request", "response", "description", "provider_state", "providerState"]

theorem located_stateOf (members : List (String × Json)) :
    Located (Defect.InField checkedFields) fun location => stateOf location members := by
  refine (Message.located_optionalString (by decide) members).bind fun snake => ?_
  split
  · exact .ok _
  · refine (Message.located_optionalString (by decide) members).bind fun camel => ?_
    split
    · exact .ok _
    · exact .ok _

/-- A response may be missing, in which case nothing is wrong with it. -/
theorem located_response (members : List (String × Json)) (finish : Response → Interaction) :
    Located (Defect.InField checkedFields) fun location =>
      match Assoc.get? members "response" with
      | none => (.ok {} : Except ContractError Response) >>= fun response => .ok (finish response)
      | some value =>
        Response.ofJson (location.field "response") value >>= fun response =>
          .ok (finish response) := by
  split
  · exact .ok _
  · next value _ =>
    exact ((Response.located_ofJson value).field (by decide)).bind fun response => .ok _

theorem located_ofObject (members : List (String × Json)) :
    Located (Defect.InField checkedFields) fun location => ofJson location (.object members) := by
  refine (Message.located_optionalString (by decide) members).bind fun description => ?_
  refine (located_stateOf members).bind fun state => ?_
  dsimp only
  split
  · exact (Located.missingField (by decide)).bind fun request => located_response members _
  · next value _ =>
    refine ((Request.located_ofJson value).field (by decide)).bind fun request => ?_
    exact located_response members _

theorem located_ofJson (value : Json) :
    Located Defect.Anywhere fun location => ofJson location value := by
  cases value with
  | object members => exact (located_ofObject members).mono fun _ _ => trivial
  | _ => exact .invalid _ trivial

/-- The value is an interaction, wherever it stands. -/
def IsRead (value : Json) : Prop :=
  ∃ i, ∀ location, ofJson location value = .ok i

/-- The value is no interaction, wherever it stands. -/
def IsRefused (value : Json) : Prop :=
  ∀ location, ∃ error, ofJson location value = .error error

theorem isRead_of_ok {value : Json} {location : Location} {i : Interaction}
    (h : ofJson location value = .ok i) : IsRead value :=
  ⟨i, (located_ofJson value).ok_everywhere h⟩

theorem isRefused_of_error {value : Json} {location : Location} {error : ContractError}
    (h : ofJson location value = .error error) : IsRefused value := by
  obtain ⟨d, -, -, hread⟩ := (located_ofJson value).exists_defect h
  exact fun other => ⟨d.error other, hread other⟩

theorem IsRead.not_isRefused {value : Json} (h : IsRead value) : ¬ IsRefused value := by
  intro hrefused
  obtain ⟨i, hread⟩ := h
  obtain ⟨error, herror⟩ := hrefused ⟨""⟩
  rw [hread] at herror
  cases herror

/-- The error is about a field: one in an interaction at a location or, where no object stands, what
    stands there. -/
def Locates (value : Json) (location : Location) (error : ContractError) : Prop :=
  ∃ place, (error = .missingField place ∨ ∃ problem, error = .invalidField place problem) ∧
    match value with
    | .object _ => ∃ name ∈ checkedFields, ∃ rest, place.text = location.text ++ "." ++ name ++ rest
    | _ => place = location

theorem locates_of_inField {members : List (String × Json)} {d : Defect}
    (h : d.InField checkedFields) (location : Location) :
    Locates (.object members) location (d.error location) := by
  obtain ⟨name, hname, rest, hway⟩ := h
  refine ⟨⟨location.text ++ d.way⟩, ?_, name, hname, rest, ?_⟩
  · rw [Defect.error]
    cases d.problem with
    | none => exact Or.inl rfl
    | some problem => exact Or.inr ⟨problem, rfl⟩
  · simp only [hway, String.append_assoc]

/-- An error is about a part of the interaction that is read. -/
theorem locates_of_error {value : Json} {location : Location} {error : ContractError}
    (h : ofJson location value = .error error) : Locates value location error := by
  cases value with
  | object members =>
    obtain ⟨d, hd, rfl, -⟩ := (located_ofObject members).exists_defect h
    exact locates_of_inField hd location
  | _ =>
    cases h
    exact ⟨location, Or.inr ⟨.notObject, rfl⟩, rfl⟩

end Interaction

/-! ## All interactions -/

namespace Contract

/-- Where the interaction at a position stands. -/
def placeOf (position : Nat) : Location :=
  Location.item ⟨"interactions"⟩ position

/-- The value at a position is the first of the items that is no interaction, with its error. -/
structure FirstRefused (items : List Json) (position : Nat) (value : Json)
    (error : ContractError) : Prop where
  there : items[position]? = some value
  before : ∀ earlier ∈ items.take position, Interaction.IsRead earlier
  refused : Interaction.ofJson (placeOf position) value = .error error

theorem isRead_of_interactionsFrom {position : Nat} {items : List Json} {is : List Interaction}
    (h : interactionsFrom position items = .ok is) : ∀ value ∈ items, Interaction.IsRead value := by
  have hread := forall₂_of_interactionsFrom h
  clear h
  induction hread with
  | nil => exact nofun
  | cons hfirst _ ih =>
    obtain ⟨location, hfirst⟩ := hfirst
    exact List.forall_mem_cons.2 ⟨Interaction.isRead_of_ok hfirst, ih⟩

/-- Items are read one after the other, up to the first that is refused. -/
theorem interactionsFrom_of_first {position : Nat} {items : List Json} {value : Json}
    {error : ContractError} (hthere : items[position]? = some value)
    (hbefore : ∀ earlier ∈ items.take position, Interaction.IsRead earlier) (offset : Nat)
    (hrefused : Interaction.ofJson (placeOf (offset + position)) value = .error error) :
    interactionsFrom offset items = .error error := by
  induction position generalizing offset items with
  | zero =>
    cases items with
    | nil => cases hthere
    | cons first rest =>
      cases hthere
      exact bind_eq_error.2 (Or.inl hrefused)
  | succ position ih =>
    cases items with
    | nil => cases hthere
    | cons first rest =>
      obtain ⟨⟨i, hfirst⟩, hbefore⟩ := List.forall_mem_cons.1 hbefore
      -- the rest is read from one position further on, at which the same item stands one earlier
      rw [← Nat.add_assoc, Nat.add_right_comm] at hrefused
      have hrest := ih hthere hbefore (offset + 1) hrefused
      exact bind_eq_error.2 (Or.inr ⟨i, hfirst _, bind_eq_error.2 (Or.inl hrest)⟩)

theorem exists_first_of_error {offset : Nat} {items : List Json} {error : ContractError}
    (h : interactionsFrom offset items = .error error) : ∃ position value,
      items[position]? = some value ∧ (∀ earlier ∈ items.take position, Interaction.IsRead earlier) ∧
        Interaction.ofJson (placeOf (offset + position)) value = .error error := by
  induction items generalizing offset with
  | nil => cases h
  | cons first rest ih =>
    -- the first item itself is refused, or it is read and one behind it is refused
    rcases bind_eq_error.1 h with hrefused | ⟨i, hfirst, h⟩
    · exact ⟨0, first, rfl, nofun, hrefused⟩
    · rcases bind_eq_error.1 h with hrest | ⟨is, _, h⟩
      · obtain ⟨position, value, hthere, hbefore, hrefused⟩ := ih hrest
        refine ⟨position + 1, value, hthere, ?_, ?_⟩
        · exact List.forall_mem_cons.2 ⟨Interaction.isRead_of_ok hfirst, hbefore⟩
        · rw [← Nat.add_assoc, Nat.add_right_comm]
          exact hrefused
      · cases h

theorem interactionsFrom_eq_error_iff {items : List Json} {error : ContractError} :
    interactionsFrom 0 items = .error error ↔
      ∃ position value, FirstRefused items position value error := by
  constructor
  · intro h
    obtain ⟨position, value, hthere, hbefore, hrefused⟩ := exists_first_of_error h
    rw [Nat.zero_add] at hrefused
    exact ⟨position, value, hthere, hbefore, hrefused⟩
  · rintro ⟨position, value, hthere, hbefore, hrefused⟩
    refine interactionsFrom_of_first hthere hbefore 0 ?_
    rw [Nat.zero_add]
    exact hrefused

theorem interactionsFrom_fails_iff {items : List Json} :
    (∃ error, interactionsFrom 0 items = .error error) ↔
      ∃ value ∈ items, Interaction.IsRefused value := by
  constructor
  · rintro ⟨error, herror⟩
    obtain ⟨position, value, h⟩ := interactionsFrom_eq_error_iff.1 herror
    exact ⟨value, List.mem_of_getElem? h.there, Interaction.isRefused_of_error h.refused⟩
  · rintro ⟨value, hvalue, hrefused⟩
    cases hread : interactionsFrom 0 items with
    | error error => exact ⟨error, rfl⟩
    | ok is => exact absurd hrefused (isRead_of_interactionsFrom hread value hvalue).not_isRefused

/-- Where the parties can be read and interactions are listed, a document is no contract just when
    one of these is refused, and the error is that of the first, about a part of it. -/
theorem ofJson_first_refused {members : List (String × Json)} {consumer provider : String}
    {items : List Json} (hconsumer : partyOf members "consumer" = .ok consumer)
    (hprovider : partyOf members "provider" = .ok provider)
    (hitems : Assoc.get? members "interactions" = some (.array items)) :
    ((∃ error, ofJson (.object members) = .error error) ↔
        ∃ value ∈ items, Interaction.IsRefused value) ∧
      (∀ error, ofJson (.object members) = .error error ↔
        ∃ position value, FirstRefused items position value error) ∧
      ∀ position value error, FirstRefused items position value error →
        Interaction.Locates value (placeOf position) error := by
  have hread : ∀ error, ofJson (.object members) = .error error ↔
      interactionsFrom 0 items = .error error := fun error => by
    rw [ofJson_object_eq hconsumer hprovider hitems, map_eq_error]
  refine ⟨?_, fun error => ?_, fun position value error h => ?_⟩
  · simp only [hread]
    exact interactionsFrom_fails_iff
  · exact (hread error).trans interactionsFrom_eq_error_iff
  · exact Interaction.locates_of_error h.refused

/-- An interaction with a rule of a type that there is not. -/
def unknownlyRuled : Json :=
  .object [("request", .object [("matchingRules",
    .object [("$.body.a", .object [("match", .string "telepathy")])])])]

def unknownRuleError : ContractError :=
  .invalidField ⟨"interactions[1].request.matchingRules['$.body.a']"⟩ (.unknownRule "telepathy")

/-- One interaction that can be read, and two items that cannot. -/
def mixedItems : List Json :=
  [.object [("request", .object [])], unknownlyRuled, .ofNat 5]

def mixedMembers : List (String × Json) :=
  [("consumer", .object [("name", .string "web")]), ("interactions", .array mixedItems)]

theorem ofJson_first_refused_mixedItems :
    partyOf mixedMembers "consumer" = .ok "web" ∧ partyOf mixedMembers "provider" = .ok "" ∧
      Assoc.get? mixedMembers "interactions" = some (.array mixedItems) ∧
      FirstRefused mixedItems 1 unknownlyRuled unknownRuleError ∧
      ofJson (.object mixedMembers) = .error unknownRuleError ∧
      Interaction.Locates unknownlyRuled (placeOf 1) unknownRuleError := by
  have hconsumer : partyOf mixedMembers "consumer" = .ok "web" := rfl
  have hprovider : partyOf mixedMembers "provider" = .ok "" := rfl
  have hitems : Assoc.get? mixedMembers "interactions" = some (.array mixedItems) := rfl
  have hplain : Interaction.ofJson ⟨""⟩ (.object [("request", .object [])]) = .ok {} := by
    decide +kernel
  have hsecond : FirstRefused mixedItems 1 unknownlyRuled unknownRuleError :=
    { there := rfl
      before := List.forall_mem_singleton.2 (Interaction.isRead_of_ok hplain)
      refused := by decide +kernel }
  obtain ⟨-, hfirst, hlocates⟩ := ofJson_first_refused hconsumer hprovider hitems
  exact ⟨hconsumer, hprovider, hitems, hsecond, (hfirst _).2 ⟨1, _, hsecond⟩,
    hlocates 1 _ _ hsecond⟩

end Contract

end MockProvider
