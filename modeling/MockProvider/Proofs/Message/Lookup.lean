import MockProvider.Message.Basic
import MockProvider.Proofs.Dict.Lookup
import MockProvider.Proofs.Text.Ascii

/-!
# Looking up in messages

What is found under the name of a header or of a query parameter: a message without headers, or a
request without a query, is like one where nothing is listed.
-/

namespace MockProvider

/-! ## Headers -/

namespace Headers

variable {name other : String}

theorem lookup?_congr (h : Ascii.sameIgnoringCase name other = true) (headers : Headers) :
    headers.lookup? name = headers.lookup? other := by
  simp only [lookup?, Ascii.sameIgnoringCase_congr h]

theorem mem_of_lookup? {headers : Headers} {values : List String}
    (h : headers.lookup? name = some values) :
    ∃ entry ∈ headers.toList, Ascii.lower entry.1 = Ascii.lower name ∧ entry.2 = values := by
  obtain ⟨entry, hfind, rfl⟩ := Option.map_eq_some_iff.1 h
  have hsame := List.find?_some hfind
  exact ⟨entry, List.mem_of_find?_eq_some hfind, beq_iff_eq.1 hsame, rfl⟩

/-- A header does not hide those with other names. -/
theorem lookup?_insert_of_ne (h : Ascii.sameIgnoringCase name other = false) (headers : Headers)
    (values : List String) :
    Headers.lookup? (headers.insert name values) other = headers.lookup? other :=
  congrArg (Option.map Prod.snd)
    (Assoc.find?_insert_of_not (fun key => Ascii.sameIgnoringCase key other) h values)

theorem lookup?_map (f : List String → List String) (headers : Headers) (name : String) :
    Headers.lookup? (headers.map f) name = (headers.lookup? name).map f := by
  have hfind := Assoc.find?_mapValues f (fun key => Ascii.sameIgnoringCase key name) headers.toList
  rw [lookup?, lookup?, Dict.map, hfind, Option.map_map, Option.map_map]
  rfl

end Headers

namespace Message

theorem header?_eq (m : Message) (name : String) :
    m.header? name = (m.headers.getD .empty).lookup? name := by
  rw [header?]
  cases m.headers <;> rfl

/-- The case of a name makes no difference. -/
theorem header?_congr {name other : String} (h : Ascii.sameIgnoringCase name other = true)
    (m : Message) : m.header? name = m.header? other := by
  rw [header?_eq, header?_eq, Headers.lookup?_congr h]

end Message

/-! ## Query parameters -/

namespace Request

/-- The values of a query parameter. -/
def query? (r : Request) (name : String) : Option (List String) :=
  r.query.bind fun query => query.get? name

theorem query?_eq (r : Request) (name : String) :
    r.query? name = (r.query.getD .empty).get? name := by
  rw [query?]
  cases r.query <;> rfl

end Request

end MockProvider
