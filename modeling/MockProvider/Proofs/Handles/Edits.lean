import MockProvider.Handles.Session
import MockProvider.Proofs.Message.Lookup

/-!
# Edits of interactions

The calls on one interaction, as values: which step each of them takes, and what it leaves alone.
An edit changes the part that it names and nothing else (`keeps_applied`). It is not done only where
it sets a value at an index that no list has a place for; then it leaves the name behind without
values, unless the name was there (`applied_eq_self_iff`, `values?_applied`).
-/

namespace MockProvider

namespace Interaction

/-- What the request or the response has in common with the other. -/
def message (i : Interaction) : Part → Message
  | .request => i.request.toMessage
  | .response => i.response.toMessage

def withMessage (i : Interaction) (part : Part) (m : Message) : Interaction :=
  match part with
  | .request => { i with request := { i.request with toMessage := m } }
  | .response => { i with response := { i.response with toMessage := m } }

@[simp] theorem message_withMessage (i : Interaction) (part : Part) (m : Message) :
    (i.withMessage part m).message part = m := by
  cases part <;> rfl

@[simp] theorem withMessage_message (i : Interaction) (part : Part) :
    i.withMessage part (i.message part) = i := by
  cases part <;> rfl

theorem withHeader_eq (i : Interaction) (part : Part) (name : String) (index : UInt64)
    (value : String) :
    i.withHeader part name index value =
      let set := (i.message part).withHeader name index value
      ⟨i.withMessage part set.result, set.done⟩ := by
  cases part <;> rfl

theorem withBody_eq (i : Interaction) (part : Part) (type : Option String) (text : String) :
    i.withBody part type text = i.withMessage part ((i.message part).withBody type text) := by
  cases part <;> rfl

end Interaction

/-! ## Values under a name -/

namespace Message

variable {lists : Dict (List String)} {headers : Headers} {key name : String} {index : UInt64}
  {value : String}

/-- The values at all indices but one are the same, where values that are not there count as
    empty. -/
def SameValuesBut (index : Nat) (values values' : List String) : Prop :=
  values.length ≤ values'.length ∧
    ∀ position, position ≠ index → values'[position]?.getD "" = values[position]?.getD ""

theorem sameValuesBut_setAt (values : List String) (index : Nat) (value : String) :
    SameValuesBut index values (setAt values index value) := by
  induction values, index using setAt.induct with
  | case1 =>
    refine ⟨by simp [setAt], fun position hposition => ?_⟩
    cases position with
    | zero => exact absurd rfl hposition
    | succ position => rfl
  | case2 index ih =>
    refine ⟨by simp [setAt], fun position hposition => ?_⟩
    cases position with
    | zero => rfl
    | succ position => exact ih.2 position (by omega)
  | case3 first rest =>
    refine ⟨by simp [setAt], fun position hposition => ?_⟩
    cases position with
    | zero => exact absurd rfl hposition
    | succ position => rfl
  | case4 first rest index ih =>
    refine ⟨by simpa [setAt] using ih.1, fun position hposition => ?_⟩
    cases position with
    | zero => rfl
    | succ position => exact ih.2 position (by omega)

/-- What setting a value makes of the values under a name. -/
def valuesAfter (index : UInt64) (value : String) (values? : Option (List String)) :
    List String :=
  if index < mostValues then setAt (values?.getD []) index.toNat value else values?.getD []

theorem sameValuesBut_valuesAfter (index : UInt64) (value : String)
    (values? : Option (List String)) :
    SameValuesBut index.toNat (values?.getD []) (valuesAfter index value values?) := by
  rw [valuesAfter]
  split
  · exact sameValuesBut_setAt _ _ _
  · exact ⟨Nat.le_refl _, fun _ _ => rfl⟩

theorem valuesAfter_of_le (h : ¬ index < mostValues) (value : String)
    (values? : Option (List String)) : valuesAfter index value values? = values?.getD [] :=
  if_neg h

theorem result_setValue (lists : Dict (List String)) (key : String) (index : UInt64)
    (value : String) :
    (setValue lists key index value).result = lists.alter key (valuesAfter index value) := by
  rw [setValue]
  split
  · next h => simp only [Dict.alter, valuesAfter, if_pos h]
  · next h => simp only [Dict.alter, valuesAfter, if_neg h]

theorem done_setValue (lists : Dict (List String)) (key : String) (index : UInt64)
    (value : String) : (setValue lists key index value).done = decide (index < mostValues) := by
  rw [setValue]
  split
  · next h => exact (decide_eq_true h).symm
  · next h => exact (decide_eq_false h).symm

theorem get?_alter (lists : Dict (List String)) (key other : String)
    (f : Option (List String) → List String) :
    (lists.alter key f).get? other =
      if key = other then some (f (lists.get? key)) else lists.get? other :=
  Dict.get?_insert lists key other _

theorem alter_getD_of_some {values : List String} (h : lists.get? key = some values) :
    (lists.alter key fun values? => values?.getD []) = lists := by
  apply Dict.ext_get?
  intro other
  rw [get?_alter]
  split
  · next heq => rw [← heq, h, Option.getD_some]
  · rfl

/-! ## Headers -/

/-- The headers of two messages are the same but for those with a name. -/
def SameHeadersBut (name : String) (m m' : Message) : Prop :=
  ∀ key, Ascii.sameIgnoringCase key name = false →
    (m'.headers.getD .empty).get? key = (m.headers.getD .empty).get? key

/-- The key of a header is the first that is there in any case, or else the name itself. -/
theorem headerKey_cases (headers : Headers) (name : String) :
    (∃ entry ∈ headers.toList, headers.toList.find? (fun entry =>
        Ascii.sameIgnoringCase entry.1 name) = some entry ∧ headerKey headers name = entry.1) ∨
      (∀ entry ∈ headers.toList, Ascii.sameIgnoringCase entry.1 name = false) ∧
        headerKey headers name = name := by
  have hkey : headerKey headers name =
      ((headers.toList.find? fun entry => Ascii.sameIgnoringCase entry.1 name).map
        Prod.fst).getD name := by
    rw [headerKey, Dict.keys, List.find?_map]
    rfl
  cases hfind : headers.toList.find? fun entry => Ascii.sameIgnoringCase entry.1 name with
  | some entry =>
    rw [hfind] at hkey
    exact Or.inl ⟨entry, List.mem_of_find?_eq_some hfind, rfl, hkey⟩
  | none =>
    rw [hfind] at hkey
    exact Or.inr ⟨by simpa using List.find?_eq_none.1 hfind, hkey⟩

theorem sameIgnoringCase_headerKey (headers : Headers) (name : String) :
    Ascii.sameIgnoringCase (headerKey headers name) name = true := by
  rcases headerKey_cases headers name with ⟨entry, -, hfind, hkey⟩ | ⟨-, hkey⟩
  · have hsame := List.find?_some hfind
    rw [hkey]
    exact hsame
  · rw [hkey]
    exact Ascii.sameIgnoringCase_self name

/-- Of the headers with a name, its key comes first. -/
theorem headerKey_le {entry : String × List String} (hentry : entry ∈ headers.toList)
    (hsame : Ascii.sameIgnoringCase entry.1 name = true) : headerKey headers name ≤ entry.1 := by
  rcases headerKey_cases headers name with ⟨first, -, hfind, hkey⟩ | ⟨hnone, -⟩
  · obtain ⟨-, front, back, hsplit, hfront⟩ := List.find?_eq_some_iff_append.1 hfind
    rw [hkey]
    rw [hsplit] at hentry
    rcases List.mem_append.1 hentry with hmem | hmem
    · have hother := hfront entry hmem
      rw [hsame] at hother
      cases hother
    · rcases List.mem_cons.1 hmem with rfl | hback
      · exact String.le_refl _
      · have hascending := headers.ascending
        rw [hsplit] at hascending
        have hlater := (List.pairwise_cons.1 (List.pairwise_append.1 hascending).2.1).1
        exact Std.le_of_lt (hlater entry hback)
  · rw [hnone entry hentry] at hsame
    cases hsame

/-- The values of a header stand under its key. -/
theorem lookup?_eq_get? (headers : Headers) (name : String) :
    headers.lookup? name = headers.get? (headerKey headers name) := by
  rw [Headers.lookup?]
  rcases headerKey_cases headers name with ⟨entry, hentry, hfind, hkey⟩ | ⟨hnone, hkey⟩
  · rw [hfind, hkey]
    exact (Dict.get?_of_mem hentry).symm
  · have hfind : headers.toList.find? (fun entry => Ascii.sameIgnoringCase entry.1 name) = none :=
      List.find?_eq_none.2 fun entry hentry => by simp [hnone entry hentry]
    rw [hfind, hkey]
    -- a header with this very name would have been found
    refine (Assoc.get?_eq_none_iff.2 fun hmem => ?_).symm
    obtain ⟨entry, hentry, rfl⟩ := List.mem_map.1 hmem
    have hsame := Ascii.sameIgnoringCase_self entry.1
    rw [hnone entry hentry] at hsame
    cases hsame

theorem lookup?_alter (headers : Headers) (name : String)
    (f : Option (List String) → List String) :
    Headers.lookup? (headers.alter (headerKey headers name) f) name =
      some (f (headers.lookup? name)) := by
  have hfind := Assoc.find?_insert (fun key => Ascii.sameIgnoringCase key name)
    (sameIgnoringCase_headerKey headers name) (fun entry => headerKey_le)
    (f (headers.lookup? name))
  rw [Headers.lookup?, Dict.alter, ← lookup?_eq_get?]
  exact congrArg (Option.map Prod.snd) hfind

theorem sameHeadersBut_withHeader (m : Message) (name : String) (index : UInt64)
    (value : String) : SameHeadersBut name m (m.withHeader name index value).result := by
  intro key hkey
  simp only [withHeader, Option.getD_some, result_setValue, get?_alter]
  refine if_neg ?_
  rintro rfl
  rw [sameIgnoringCase_headerKey] at hkey
  cases hkey

/-- A body can come with a type in the headers, and changes nothing else. -/
theorem withBody_kept (m : Message) (type : Option String) (text : String) :
    let m' := m.withBody type text
    m' = { m with headers := m'.headers, body := m'.body } ∧
      SameHeadersBut "Content-Type" m m' := by
  rw [withBody]
  split
  · exact ⟨rfl, fun _ _ => rfl⟩
  · split
    · exact ⟨rfl, fun _ _ => rfl⟩
    · exact ⟨rfl, sameHeadersBut_withHeader m "Content-Type" 0 _⟩

/-- The values of a header when one is set. -/
theorem header?_withHeader (m : Message) (name : String) (index : UInt64) (value : String) :
    (m.withHeader name index value).result.header? name =
      some (valuesAfter index value (m.header? name)) := by
  rw [header?_eq, header?_eq]
  simp only [withHeader, Option.getD_some, result_setValue]
  exact lookup?_alter _ name _

theorem header?_withHeader_of_ne {name other : String}
    (h : Ascii.sameIgnoringCase name other = false) (m : Message) (index : UInt64)
    (value : String) : (m.withHeader name index value).result.header? other = m.header? other := by
  have hkey : Ascii.sameIgnoringCase (headerKey (m.headers.getD .empty) name) other = false := by
    have hsame := sameIgnoringCase_headerKey (m.headers.getD .empty) name
    rw [Ascii.sameIgnoringCase, beq_iff_eq] at hsame
    rw [Ascii.sameIgnoringCase, hsame]
    exact h
  rw [header?_eq, header?_eq]
  simp only [withHeader, Option.getD_some, result_setValue]
  exact Headers.lookup?_insert_of_ne hkey _ _

/-- A header that is there stays as it is where no list has a place for the index. -/
theorem withHeader_of_some {m : Message} {values : List String} (hindex : ¬ index < mostValues)
    (hvalues : m.header? name = some values) : (m.withHeader name index value).result = m := by
  obtain ⟨headers, hheaders, hlookup⟩ := Option.bind_eq_some_iff.1 hvalues
  have hget : headers.get? (headerKey headers name) = some values := by
    rw [← lookup?_eq_get?, hlookup]
  have hkept : (setValue headers (headerKey headers name) index value).result = headers := by
    rw [setValue, if_neg hindex]
    exact alter_getD_of_some hget
  rw [withHeader, hheaders, Option.getD_some, hkept, ← hheaders]

end Message

/-! ## Query parameters -/

namespace Request

theorem query?_withQuery (r : Request) (name : String) (index : UInt64) (value other : String) :
    (r.withQuery name index value).result.query? other =
      if name = other then some (Message.valuesAfter index value (r.query? name))
      else r.query? other := by
  rw [query?_eq, query?_eq, query?_eq]
  simp only [withQuery, Option.getD_some, Message.result_setValue]
  exact Message.get?_alter _ name other _

theorem withQuery_of_some {r : Request} {name : String} {index : UInt64} {value : String}
    {values : List String} (hindex : ¬ index < Message.mostValues)
    (hvalues : r.query? name = some values) : (r.withQuery name index value).result = r := by
  obtain ⟨query, hquery, hget⟩ := Option.bind_eq_some_iff.1 hvalues
  have hkept : (Message.setValue query name index value).result = query := by
    rw [Message.setValue, if_neg hindex]
    exact Message.alter_getD_of_some hget
  rw [withQuery, hquery, Option.getD_some, hkept, ← hquery]

end Request

/-! ## Edits -/

namespace Session

/-- What a call asks to change of an interaction. -/
inductive Edit where
  | describe (text : Argument)
  | given (state : Argument)
  | target (method path : Argument)
  | query (name : Argument) (index : UInt64) (value : Argument)
  | header (part : Part) (name : Argument) (index : UInt64) (value : Argument)
  | status (code : UInt16)
  | body (part : Part) (type text : Argument)

namespace Edit

/-- The step that an edit takes with an interaction, unless an argument is missing. -/
def step? : Edit → Option (Interaction → Step Interaction)
  | .describe text => text.text?.map fun description i => ⟨{ i with description }, true⟩
  | .given state => state.text?.map fun state i => ⟨{ i with providerState := some state }, true⟩
  | .target method path =>
    let method := method.text?.getD "GET"
    let path := path.text?.getD "/"
    some fun i => ⟨{ i with request := i.request.withTarget method path }, true⟩
  | .query name index value => do
    let name ← name.text?
    let value ← value.text?
    return fun i => i.withRequest (i.request.withQuery name index value)
  | .header part name index value => do
    let name ← name.text?
    let value ← value.text?
    return fun i => i.withHeader part name index value
  | .status code => some fun i => ⟨{ i with response := i.response.withStatus code }, true⟩
  | .body part type text => some fun i => ⟨i.withBody part type.text? text.textOrEmpty, true⟩

/-- What an edit makes of an interaction. -/
def applied (e : Edit) (i : Interaction) : Interaction :=
  match e.step? with
  | some step => (step i).result
  | none => i

theorem applied_of_step? {e : Edit} {step : Interaction → Step Interaction}
    (h : e.step? = some step) (i : Interaction) : e.applied i = (step i).result := by
  rw [applied, h]

section

variable {name value : Argument} {index : UInt64} {part : Part}
  {step : Interaction → Step Interaction}

theorem step?_query (h : (query name index value).step? = some step) :
    ∃ text, step = fun i => i.withRequest (i.request.withQuery name.textOrEmpty index text) := by
  obtain ⟨text, hname, h⟩ := Option.bind_eq_some_iff.1 h
  obtain ⟨value, -, h⟩ := Option.bind_eq_some_iff.1 h
  rw [Argument.textOrEmpty, hname]
  exact ⟨value, (Option.some.inj h).symm⟩

theorem step?_header (h : (header part name index value).step? = some step) :
    ∃ text, step = fun i => i.withHeader part name.textOrEmpty index text := by
  obtain ⟨text, hname, h⟩ := Option.bind_eq_some_iff.1 h
  obtain ⟨value, -, h⟩ := Option.bind_eq_some_iff.1 h
  rw [Argument.textOrEmpty, hname]
  exact ⟨value, (Option.some.inj h).symm⟩

end

/-- What an edit leaves of an interaction: everything but the part that it names. -/
def Keeps (i i' : Interaction) : Edit → Prop
  | .describe _ => i' = { i with description := i'.description }
  | .given _ => i' = { i with providerState := i'.providerState }
  | .target _ _ =>
    i' = { i with
      request := { i.request with method := i'.request.method, path := i'.request.path } }
  | .query name index _ =>
    i' = { i with request := { i.request with query := i'.request.query } } ∧
      (∀ other, name.textOrEmpty ≠ other → i'.request.query? other = i.request.query? other) ∧
      Message.SameValuesBut index.toNat ((i.request.query? name.textOrEmpty).getD [])
        ((i'.request.query? name.textOrEmpty).getD [])
  | .header part name index _ =>
    i' = i.withMessage part { i.message part with headers := (i'.message part).headers } ∧
      Message.SameHeadersBut name.textOrEmpty (i.message part) (i'.message part) ∧
      Message.SameValuesBut index.toNat (((i.message part).header? name.textOrEmpty).getD [])
        (((i'.message part).header? name.textOrEmpty).getD [])
  | .status _ => i' = { i with response := { i.response with status := i'.response.status } }
  | .body part .. =>
    i' = i.withMessage part
      { i.message part with headers := (i'.message part).headers, body := (i'.message part).body } ∧
      Message.SameHeadersBut "Content-Type" (i.message part) (i'.message part)

theorem keeps_refl (e : Edit) (i : Interaction) : e.Keeps i i := by
  have hvalues : ∀ index values, Message.SameValuesBut index values values :=
    fun _ _ => ⟨Nat.le_refl _, fun _ _ => rfl⟩
  cases e with
  | describe | given | target | status => exact rfl
  | query name index value => exact ⟨rfl, fun _ _ => rfl, hvalues _ _⟩
  | header part name index value =>
    exact ⟨(i.withMessage_message part).symm, fun _ _ => rfl, hvalues _ _⟩
  | body part type text => exact ⟨(i.withMessage_message part).symm, fun _ _ => rfl⟩

/-- An edit changes only the part that it names. -/
theorem keeps_applied (e : Edit) (i : Interaction) : e.Keeps i (e.applied i) := by
  cases hstep : e.step? with
  | none =>
    have happlied : e.applied i = i := by rw [applied, hstep]
    rw [happlied]
    exact keeps_refl e i
  | some step =>
    rw [applied_of_step? hstep]
    cases e with
    | describe text =>
      obtain ⟨description, -, rfl⟩ := Option.map_eq_some_iff.1 hstep
      exact rfl
    | given state =>
      obtain ⟨state, -, rfl⟩ := Option.map_eq_some_iff.1 hstep
      exact rfl
    | target method path =>
      cases hstep
      exact rfl
    | query name index value =>
      obtain ⟨text, rfl⟩ := step?_query hstep
      have hset := i.request.query?_withQuery name.textOrEmpty index text
      refine ⟨rfl, fun other hne => (hset other).trans (if_neg hne), ?_⟩
      simp only [Interaction.withRequest, hset, if_true, Option.getD_some]
      exact Message.sameValuesBut_valuesAfter index text _
    | header part name index value =>
      obtain ⟨text, rfl⟩ := step?_header hstep
      simp only [Keeps, Interaction.withHeader_eq, Interaction.message_withMessage]
      refine ⟨rfl, Message.sameHeadersBut_withHeader _ name.textOrEmpty index text, ?_⟩
      rw [Message.header?_withHeader, Option.getD_some]
      exact Message.sameValuesBut_valuesAfter index text _
    | status code =>
      cases hstep
      exact rfl
    | body part type text =>
      cases hstep
      simp only [Keeps, Interaction.withBody_eq, Interaction.message_withMessage]
      obtain ⟨hkept, hheaders⟩ :=
        Message.withBody_kept (i.message part) type.text? text.textOrEmpty
      exact ⟨congrArg (i.withMessage part) hkept, hheaders⟩

/-! ## Edits that are not done -/

/-- Whether an edit sets a value at an index that no list has a place for. -/
def overflows : Edit → Bool
  | .query _ index _ | .header _ _ index _ => !decide (index < Message.mostValues)
  | _ => false

/-- The values under the name at which an edit sets one. -/
def values? (i : Interaction) : Edit → Option (List String)
  | .query name _ _ => i.request.query? name.textOrEmpty
  | .header part name _ _ => (i.message part).header? name.textOrEmpty
  | _ => none

theorem done_step {e : Edit} {step : Interaction → Step Interaction} (h : e.step? = some step)
    (i : Interaction) : (step i).done = !e.overflows := by
  cases e with
  | describe text =>
    obtain ⟨description, -, rfl⟩ := Option.map_eq_some_iff.1 h
    rfl
  | given state =>
    obtain ⟨state, -, rfl⟩ := Option.map_eq_some_iff.1 h
    rfl
  | query name index value =>
    obtain ⟨text, rfl⟩ := step?_query h
    rw [overflows, Bool.not_not]
    exact Message.done_setValue _ _ index text
  | header part name index value =>
    obtain ⟨text, rfl⟩ := step?_header h
    simp only [overflows, Bool.not_not, Interaction.withHeader_eq]
    exact Message.done_setValue _ _ index text
  | target | status | body =>
    cases h
    rfl

/-- An edit that is not done leaves the values under its name; where there are none it leaves the
    name with an empty list. -/
theorem values?_applied {e : Edit} {step : Interaction → Step Interaction}
    (h : e.step? = some step) (hover : e.overflows = true) (i : Interaction) :
    e.values? (e.applied i) = some ((e.values? i).getD []) := by
  rw [applied_of_step? h]
  cases e with
  | query name index value =>
    obtain ⟨text, rfl⟩ := step?_query h
    have hindex : ¬ index < Message.mostValues := by simpa [overflows] using hover
    have hset := i.request.query?_withQuery name.textOrEmpty index text name.textOrEmpty
    rw [if_pos rfl, Message.valuesAfter_of_le hindex] at hset
    exact hset
  | header part name index value =>
    obtain ⟨text, rfl⟩ := step?_header h
    have hindex : ¬ index < Message.mostValues := by simpa [overflows] using hover
    simp only [values?, Interaction.withHeader_eq, Interaction.message_withMessage,
      Message.header?_withHeader]
    rw [Message.valuesAfter_of_le hindex]
  | describe | given | target | status | body => cases hover

/-- An edit that is not done changes nothing just where its name is there already. -/
theorem applied_eq_self_iff {e : Edit} {step : Interaction → Step Interaction}
    (h : e.step? = some step) (hover : e.overflows = true) (i : Interaction) :
    e.applied i = i ↔ (e.values? i).isSome = true := by
  constructor
  · intro hsame
    have hvalues := values?_applied h hover i
    rw [hsame] at hvalues
    rw [hvalues]
    rfl
  · intro hthere
    obtain ⟨values, hvalues⟩ := Option.isSome_iff_exists.1 hthere
    rw [applied_of_step? h]
    cases e with
    | query name index value =>
      obtain ⟨text, rfl⟩ := step?_query h
      have hindex : ¬ index < Message.mostValues := by simpa [overflows] using hover
      simp only [Interaction.withRequest, Request.withQuery_of_some hindex hvalues]
    | header part name index value =>
      obtain ⟨text, rfl⟩ := step?_header h
      have hindex : ¬ index < Message.mostValues := by simpa [overflows] using hover
      simp only [Interaction.withHeader_eq, Message.withHeader_of_some hindex hvalues,
        Interaction.withMessage_message]
    | describe | given | target | status | body => cases hover

end Edit

end Session

end MockProvider
