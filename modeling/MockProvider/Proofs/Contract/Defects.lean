import MockProvider.Contract.Error

/-!
# Defects and the locations that they are read from

A reader is given a location and names it in its errors only: wherever it reads, it gives the same
value, or it finds the same defect at the end of the same way. `Located` says so, and of what kind
the defect is. Readers that are made of located readers are located: `Located.bind`, `Located.map`,
and `Located.field`, `Located.item` and `Located.key` for those that go on to a part.
-/

namespace MockProvider

/-! ## Defects -/

/-- What is wrong below a location: the way there, as it is spelled after the location, and the
    problem. Without a problem the field is missing. -/
structure Defect where
  way : String
  problem : Option Problem

namespace Defect

/-- The error that a defect is for a reader at a location. -/
def error (d : Defect) (location : Location) : ContractError :=
  match d.problem with
  | none => .missingField ⟨location.text ++ d.way⟩
  | some problem => .invalidField ⟨location.text ++ d.way⟩ problem

/-- The defect for a reader further up, whose way to the former one is given. -/
def behind (d : Defect) (way : String) : Defect :=
  { d with way := way ++ d.way }

/-- Of no particular kind. -/
def Anywhere (_ : Defect) : Prop :=
  True

/-- The defect is in one of some fields, or is one of them. -/
def InField (names : List String) (d : Defect) : Prop :=
  ∃ name ∈ names, ∃ rest, d.way = "." ++ name ++ rest

theorem error_behind (d : Defect) (way : String) (location : Location) :
    (d.behind way).error location = d.error ⟨location.text ++ way⟩ := by
  simp only [error, behind, String.append_assoc]

theorem inField_behind (d : Defect) {names : List String} {name : String} (h : name ∈ names) :
    (d.behind ("." ++ name)).InField names :=
  ⟨name, h, d.way, rfl⟩

end Defect

/-! ## Located readers -/

/-- Everywhere the reader gives the same value, or finds the same defect, which is of some kind. -/
def Located {α : Type} (kind : Defect → Prop) (read : Location → Except ContractError α) : Prop :=
  (∃ a, read = fun _ => .ok a) ∨
    ∃ d, kind d ∧ read = fun location => .error (d.error location)

namespace Located

variable {α β : Type} {kind kind' : Defect → Prop} {read : Location → Except ContractError α}

theorem ok (a : α) : Located kind fun _ => .ok a :=
  Or.inl ⟨a, rfl⟩

theorem mono (h : Located kind read) (hkind : ∀ d, kind d → kind' d) : Located kind' read := by
  rcases h with h | ⟨d, hd, h⟩
  · exact Or.inl h
  · exact Or.inr ⟨d, hkind d hd, h⟩

/-- A reader that says that the value at its own location is not as it should be. -/
theorem invalid (problem : Problem) (h : kind ⟨"", some problem⟩) :
    Located kind fun location => (.error (.invalidField location problem) : Except _ α) := by
  refine Or.inr ⟨⟨"", some problem⟩, h, funext fun location => ?_⟩
  simp only [Defect.error, String.append_empty]

theorem bind {next : Location → α → Except ContractError β} (h : Located kind read)
    (hnext : ∀ a, Located kind fun location => next location a) :
    Located kind fun location => read location >>= next location := by
  rcases h with ⟨a, rfl⟩ | ⟨d, hd, rfl⟩
  -- the value is the same everywhere, and so is the reader that goes on with it
  · exact hnext a
  · exact Or.inr ⟨d, hd, rfl⟩

theorem map (f : α → β) (h : Located kind read) :
    Located kind fun location => (read location).map f := by
  rcases h with ⟨a, rfl⟩ | ⟨d, hd, rfl⟩
  · exact ok (f a)
  · exact Or.inr ⟨d, hd, rfl⟩

/-! ### Going on to a part -/

theorem behind (h : Located kind read) (way : String) (hkind : ∀ d, kind d → kind' (d.behind way)) :
    Located kind' fun location => read ⟨location.text ++ way⟩ := by
  rcases h with ⟨a, rfl⟩ | ⟨d, hd, rfl⟩
  · exact ok a
  · exact Or.inr ⟨d.behind way, hkind d hd, funext fun location => by rw [d.error_behind]⟩

theorem field (h : Located kind read) {names : List String} {name : String} (hname : name ∈ names) :
    Located (Defect.InField names) fun location => read (location.field name) := by
  have hbelow := h.behind ("." ++ name) fun d _ => d.inField_behind hname
  simpa only [Location.field, String.append_assoc] using hbelow

theorem below (h : Located kind read) (name : String) :
    Located Defect.Anywhere fun location => read (location.field name) :=
  (h.field (List.mem_singleton_self name)).mono fun _ _ => trivial

theorem item (h : Located kind read) (position : Nat) :
    Located Defect.Anywhere fun location => read (location.item position) := by
  have hbelow : Located Defect.Anywhere _ :=
    h.behind ("[" ++ toString position ++ "]") fun _ _ => trivial
  simpa only [Location.item, String.append_assoc] using hbelow

theorem key (h : Located kind read) (name : String) :
    Located Defect.Anywhere fun location => read (location.key name) := by
  have hbelow : Located Defect.Anywhere _ := h.behind ("['" ++ name ++ "']") fun _ _ => trivial
  simpa only [Location.key, String.append_assoc] using hbelow

/-- A reader that says that a field is not as it should be. -/
theorem invalidField {names : List String} {name : String} (hname : name ∈ names)
    (problem : Problem) :
    Located (Defect.InField names) fun location =>
      (.error (.invalidField (location.field name) problem) : Except _ α) :=
  (invalid problem trivial : Located Defect.Anywhere _).field hname

/-- A reader that misses a field. -/
theorem missingField {names : List String} {name : String} (hname : name ∈ names) :
    Located (Defect.InField names) fun location =>
      (.error (.missingField (location.field name)) : Except _ α) := by
  refine Or.inr ⟨⟨"." ++ name, none⟩, ⟨name, hname, "", String.append_empty.symm⟩, ?_⟩
  simp only [Defect.error, Location.field, String.append_assoc]

/-! ### What one location tells about the others -/

theorem ok_everywhere (h : Located kind read) {location : Location} {a : α}
    (ha : read location = .ok a) (other : Location) : read other = .ok a := by
  rcases h with ⟨b, rfl⟩ | ⟨d, -, rfl⟩
  · exact ha
  · cases ha

theorem exists_defect (h : Located kind read) {location : Location} {e : ContractError}
    (he : read location = .error e) :
    ∃ d, kind d ∧ e = d.error location ∧ ∀ other, read other = .error (d.error other) := by
  rcases h with ⟨a, rfl⟩ | ⟨d, hd, rfl⟩
  · cases he
  · cases he
    exact ⟨d, hd, rfl, fun _ => rfl⟩

/-- What a reader gives, its errors left out. -/
theorem toOption_eq (h : Located kind read) (location location' : Location) :
    (read location).toOption = (read location').toOption := by
  rcases h with ⟨a, rfl⟩ | ⟨d, -, rfl⟩ <;> rfl

end Located

end MockProvider
