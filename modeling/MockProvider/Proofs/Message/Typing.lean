import MockProvider.Proofs.Handles.Edits
import MockProvider.Proofs.Server.Replay
import MockProvider.Proofs.Text.Blank

/-!
# Types of bodies and their headers

The type of a body is kept with the body and in a header. Reading a contract and receiving a request
take the one from the other, and so does setting a body. Setting the header afterwards changes the
header alone. `Change.retype` follows the changes by which a message is built and remembers what the
header was set to since the body was set; the two types agree as long as that is the type of the
body: `Obtained.typed_unless_retyped`.
-/

namespace MockProvider

/-- A type is its own text, read as a header. -/
theorem ContentType.ofHeader_ofHeader (value : String) :
    ofHeader (ofHeader value).text = ofHeader value :=
  congrArg ContentType.mk (Text.trim_trim value)

/-! ## Building messages -/

namespace Message

/-- A step by which the headers and the body of a message are built. -/
inductive Change where
  | header (name : String) (index : UInt64) (value : String)
  | body (type : Option String) (text : String)

namespace Change

/-- What a step makes of a message. -/
def applied (m : Message) : Change → Message
  | .header name index value => (m.withHeader name index value).result
  | .body type text => m.withBody type text

/-- What the type header was set to since the body was set: its first value is what counts. -/
def retype (later : Option String) : Change → Option String
  | .header name index value =>
    if Ascii.sameIgnoringCase name "content-type" = true ∧ index = 0 then some value else later
  | .body _ _ => none

end Change

/-- The message that steps lead to, one after another. -/
def build (changes : List Change) : Message :=
  changes.foldl Change.applied {}

/-- The value that the type header was given after the last body, if it was given one. -/
def retyped (changes : List Change) : Option String :=
  changes.foldl Change.retype none

end Message

/-- A step by which a request is built. -/
inductive Request.Change where
  | target (method path : String)
  | query (name : String) (index : UInt64) (value : String)
  | content (change : Message.Change)

/-- A step by which a response is built. -/
inductive Response.Change where
  | status (code : UInt16)
  | content (change : Message.Change)

namespace Request

def Change.applied (r : Request) : Change → Request
  | .target method path => r.withTarget method path
  | .query name index value => (r.withQuery name index value).result
  | .content (.header name index value) => (r.withHeader name index value).result
  | .content (.body type text) => r.withBody type text

def Change.content? : Change → Option Message.Change
  | .content change => some change
  | .target _ _ | .query _ _ _ => none

def build (changes : List Change) : Request :=
  changes.foldl Change.applied {}

theorem toMessage_build (changes : List Change) :
    (build changes).toMessage = Message.build (changes.filterMap Change.content?) := by
  rw [build, Message.build, List.foldl_filterMap]
  refine (List.foldl_hom Request.toMessage fun r change => ?_).symm
  cases change with
  | target | query => rfl
  | content change => cases change <;> rfl

end Request

namespace Response

def Change.applied (r : Response) : Change → Response
  | .status code => r.withStatus code
  | .content (.header name index value) => (r.withHeader name index value).result
  | .content (.body type text) => r.withBody type text

def Change.content? : Change → Option Message.Change
  | .content change => some change
  | .status _ => none

def build (changes : List Change) : Response :=
  changes.foldl Change.applied {}

theorem toMessage_build (changes : List Change) :
    (build changes).toMessage = Message.build (changes.filterMap Change.content?) := by
  rw [build, Message.build, List.foldl_filterMap]
  refine (List.foldl_hom Response.toMessage fun r change => ?_).symm
  cases change with
  | status => rfl
  | content change => cases change <;> rfl

end Response

namespace Message

/-! ## The type header -/

section

variable {m : Message} {values? : Option (List String)} {header : String}

theorem head?_setAt (values : List String) (index : Nat) (value : String) :
    (setAt values index value).head? =
      some (if index = 0 then value else values.head?.getD "") := by
  cases values <;> cases index <;> rfl

theorem head?_valuesAfter_zero (value : String) (values? : Option (List String)) :
    (valuesAfter 0 value values?).head? = some value := by
  have hroom : (0 : UInt64) < mostValues := by decide
  rw [valuesAfter, if_pos hroom, head?_setAt]
  rfl

/-- The first value stays the first one, unless it is set itself. -/
theorem head?_valuesAfter (h : values?.bind List.head? = some header) (index : UInt64)
    (value : String) :
    (valuesAfter index value values?).head? = some (if index = 0 then value else header) := by
  obtain ⟨values, rfl, hfirst⟩ := Option.bind_eq_some_iff.1 h
  by_cases hzero : index = 0
  · rw [if_pos hzero, hzero]
    exact head?_valuesAfter_zero value _
  · have hposition : index.toNat ≠ 0 := fun heq => hzero (UInt64.toNat_inj.1 heq)
    rw [if_neg hzero, valuesAfter, Option.getD_some]
    split
    · rw [head?_setAt, if_neg hposition, hfirst]
      rfl
    · exact hfirst

theorem contentType?_withHeader_same {name : String}
    (h : Ascii.sameIgnoringCase name "content-type" = true) (m : Message) (index : UInt64)
    (value : String) :
    (m.withHeader name index value).result.contentType? =
      (valuesAfter index value (m.header? "content-type")).head? := by
  rw [contentType?, ← header?_congr h, header?_withHeader, header?_congr h]
  rfl

/-- A type header that is there gets another first value, or keeps the one it has. -/
theorem contentType?_withHeader (h : m.contentType? = some header) (name : String) (index : UInt64)
    (value : String) :
    (m.withHeader name index value).result.contentType? =
      some (if Ascii.sameIgnoringCase name "content-type" = true ∧ index = 0 then value
        else header) := by
  cases hname : Ascii.sameIgnoringCase name "content-type" with
  | true =>
    rw [contentType?_withHeader_same hname, head?_valuesAfter h]
    simp
  | false =>
    rw [contentType?, header?_withHeader_of_ne hname, ← contentType?, h]
    simp

end

/-! ## Types along the changes -/

/-- The body has the type that the header gives, where there are both. -/
def Typed (m : Message) : Prop :=
  ∀ type ∈ m.body.type?, ∀ header ∈ m.contentType?, type = .ofHeader header

/-- What is known of a message by what its type header was set to since its body was set: a body
    comes with a header, which gives its type or is what the header was set to. -/
def TypedBefore (later : Option String) (m : Message) : Prop :=
  ∀ type ∈ m.body.type?, ∃ header, m.contentType? = some header ∧
    match later with
    | none => type = .ofHeader header
    | some value => header = value

/-- A body that is set has the type of the header that is there, or brings its own header. -/
theorem typedBefore_withBody (m : Message) (type : Option String) (text : String) :
    (m.withBody type text).TypedBefore none := by
  by_cases hempty : text.isEmpty = true
  · intro found hfound
    rw [withBody, if_pos hempty] at hfound
    cases hfound
  · cases hdeclared : m.contentType? with
    | some header =>
      have hset : m.withBody type text =
          { m with body := .present (Bytes.ofString text) (.ofHeader header) } := by
        simp [withBody, hempty, hdeclared]
      rw [hset]
      intro found hfound
      cases hfound
      exact ⟨header, hdeclared, rfl⟩
    | none =>
      obtain ⟨given, hgiven⟩ : ∃ given, given = (type.map ContentType.ofHeader).getD .plain :=
        ⟨_, rfl⟩
      have hset : m.withBody type text = { (m.withHeader "Content-Type" 0 given.text).result with
          body := .present (Bytes.ofString text) given } := by
        simp [withBody, hempty, hdeclared, hgiven]
      have hname : Ascii.sameIgnoringCase "Content-Type" "content-type" = true := by decide
      have hheader := contentType?_withHeader_same hname m 0 given.text
      rw [head?_valuesAfter_zero] at hheader
      rw [hset]
      intro found hfound
      cases hfound
      refine ⟨given.text, hheader, ?_⟩
      -- a type that was given was trimmed, and the one for text has no blanks
      cases type with
      | none =>
        rw [hgiven]
        decide
      | some value =>
        rw [hgiven]
        exact (ContentType.ofHeader_ofHeader value).symm

theorem TypedBefore.withHeader {later : Option String} {m : Message} (h : m.TypedBefore later)
    (name : String) (index : UInt64) (value : String) :
    (m.withHeader name index value).result.TypedBefore
      (Change.retype later (.header name index value)) := by
  intro type htype
  obtain ⟨header, hheader, hlater⟩ := h type htype
  refine ⟨_, contentType?_withHeader hheader name index value, ?_⟩
  rw [Change.retype]
  by_cases hfirst : Ascii.sameIgnoringCase name "content-type" = true ∧ index = 0
  · rw [if_pos hfirst, if_pos hfirst]
  · rw [if_neg hfirst, if_neg hfirst]
    exact hlater

theorem TypedBefore.applied {later : Option String} {m : Message} (h : m.TypedBefore later)
    (change : Change) : (change.applied m).TypedBefore (change.retype later) := by
  cases change with
  | header name index value => exact h.withHeader name index value
  | body type text => exact typedBefore_withBody m type text

theorem TypedBefore.foldl {later : Option String} {m : Message} (h : m.TypedBefore later)
    (changes : List Change) :
    (changes.foldl Change.applied m).TypedBefore (changes.foldl Change.retype later) := by
  induction changes generalizing m later with
  | nil => exact h
  | cons change changes ih => exact ih (h.applied change)

theorem typedBefore_build (changes : List Change) :
    (build changes).TypedBefore (retyped changes) := by
  have hempty : ({} : Message).TypedBefore none := fun type htype => nomatch htype
  exact hempty.foldl changes

/-- A body keeps agreeing with its header as long as the header is set to the type it has. -/
theorem TypedBefore.typed_iff {later : Option String} {m : Message} (h : m.TypedBefore later) :
    m.Typed ↔ ∀ type ∈ m.body.type?, ∀ value ∈ later, type = .ofHeader value := by
  refine forall₂_congr fun type htype => ?_
  obtain ⟨header, hheader, hlater⟩ := h type htype
  cases later with
  | none => simp [hheader, hlater]
  | some value => simp [hheader, hlater]

/-! ## Messages that were read or received -/

theorem typed_of_ofMembers {location : Location} {members : List (String × Json)} {m : Message}
    (h : ofMembers location members = .ok m) : m.Typed := by
  intro type htype header hheader
  have hbody := body_of_ofMembers h
  rw [hheader] at hbody
  cases hdeclared : Body.ofContract (Assoc.get? members "body") (some header) with
  | absent | empty =>
    rw [hbody, hdeclared] at htype
    cases htype
  | present bytes declared =>
    rw [hbody, hdeclared] at htype
    cases htype
    obtain ⟨-, guess, hguess, -⟩ := Body.ofContract_eq_present hdeclared
    exact hguess

theorem typed_ofWire {headers : List (String × String)}
    (h : ∀ header ∈ headers, Ascii.lower header.1 = header.1) (bytes : Bytes) :
    (ofWire headers bytes).Typed := by
  intro type htype header hheader
  have hlower : Ascii.lower "content-type" = "content-type" := by decide
  rw [contentType?, header?_ofWire h, hlower] at hheader
  have hbody : (ofWire headers bytes).body = .ofBytes bytes (some header) :=
    congrArg (Body.ofBytes bytes) hheader
  rw [hbody, Body.ofBytes] at htype
  split at htype
  · cases htype
  · cases htype
    rfl

theorem typed_arrived {a : Arrival}
    (h : ∀ header ∈ a.headers, Ascii.lower header.1 = header.1) : a.toRequest.toMessage.Typed := by
  rw [Arrival.toMessage_toRequest]
  refine typed_ofWire (fun header hheader => ?_) a.body
  obtain ⟨sent, hsent, rfl⟩ := List.mem_map.1 hheader
  exact h sent hsent

/-! ## All messages -/

/-- The ways in which requests and responses come to be, each with what the type header was set to
    after the body. -/
inductive Obtained : Message → Option String → Prop
  | request (changes : List Request.Change) :
      Obtained (Request.build changes).toMessage
        (retyped (changes.filterMap Request.Change.content?))
  | response (changes : List Response.Change) :
      Obtained (Response.build changes).toMessage
        (retyped (changes.filterMap Response.Change.content?))
  | readRequest {location : Location} {value : Json} {r : Request}
      (h : Request.ofJson location value = .ok r) : Obtained r.toMessage none
  | readResponse {location : Location} {value : Json} {r : Response}
      (h : Response.ofJson location value = .ok r) : Obtained r.toMessage none
  | arrived {a : Arrival} (hlower : ∀ header ∈ a.headers, Ascii.lower header.1 = header.1) :
      Obtained a.toRequest.toMessage none

/-- The type of a body is the one that its header gives, in all messages that were read or received.
    In those that were built it is, unless the header was set to another type after the body. -/
theorem Obtained.typed_unless_retyped {m : Message} {later : Option String}
    (h : Obtained m later) :
    m.Typed ↔ ∀ type ∈ m.body.type?, ∀ value ∈ later, type = .ofHeader value := by
  have hnever : ∀ {m : Message}, m.Typed →
      (m.Typed ↔ ∀ type ∈ m.body.type?, ∀ value ∈ (none : Option String), type = .ofHeader value) :=
    fun htyped => iff_of_true htyped fun _ _ _ hvalue => nomatch hvalue
  cases h with
  | request changes =>
    rw [Request.toMessage_build]
    exact (typedBefore_build _).typed_iff
  | response changes =>
    rw [Response.toMessage_build]
    exact (typedBefore_build _).typed_iff
  | readRequest h =>
    obtain ⟨members, -, hcontent, -⟩ := Request.parts_of_ofJson h
    exact hnever (typed_of_ofMembers hcontent)
  | readResponse h =>
    obtain ⟨members, -, hcontent, -⟩ := Response.parts_of_ofJson h
    exact hnever (typed_of_ofMembers hcontent)
  | arrived hlower => exact hnever (typed_arrived hlower)

/-- A type header, a body that is said to have another type, and a further value of the header, which
    does not count. -/
def headerChanges : List Response.Change :=
  [.content (.header "CONTENT-TYPE" 0 " text/xml"), .content (.body (some "text/plain") "<a/>"),
    .content (.header "content-type" 1 "text/plain")]

theorem typed_headerChanges :
    Obtained (Response.build headerChanges).toMessage none ∧
      (Response.build headerChanges).toMessage.Typed := by
  have hobtained : Obtained (Response.build headerChanges).toMessage none :=
    .response headerChanges
  exact ⟨hobtained, hobtained.typed_unless_retyped.2 fun _ _ _ hvalue => nomatch hvalue⟩

/-- A body that was set as JSON keeps that type when the header is set to another one. -/
theorem not_typed_build :
    ¬ ∀ changes : List Response.Change, (Response.build changes).toMessage.Typed := by
  intro hclaim
  have htyped := hclaim [.content (.body (some "application/json") "\x7b\x7d"),
    .content (.header "Content-Type" 0 "text/plain")] .json (by decide +kernel) "text/plain"
    (by decide +kernel)
  revert htyped
  decide

end Message

end MockProvider
