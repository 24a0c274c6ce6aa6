import MockProvider.Proofs.Json.Numbers
import MockProvider.Proofs.Matching.Kinds
import MockProvider.Proofs.Message.Accepting

/-!
# Bodies that arrive as declared

The type of a body that a contract declares is told from the declared value, and that of a body that
arrives from its octets, unless a header gives it. Both agree on all values but bare numbers and
truth values, which are JSON in a contract and plain text on the network: `declared_arrives`.
-/

namespace MockProvider.Body

open Matching

/-- How a body is compared, if it is present. -/
def kind? (b : Body) : Option BodyKind :=
  b.type?.map ContentType.kind

/-- The value is a bare number or truth value, and no header gives its type. -/
def Guessed (v : Json) (header : Option String) : Prop :=
  header = none ∧ v.isBare = true

instance (v : Json) (header : Option String) : Decidable (Guessed v header) :=
  inferInstanceAs (Decidable (_ ∧ _))

variable {v : Json} {header : Option String}

theorem ofContract_of_isBare (h : v.isBare = true) :
    ofContract (some v) none = .present v.toBytes .json := by
  cases v with
  | bool b => rfl
  | number n => rfl
  | _ => cases h

/-- The octets of a bare value look like plain text. -/
theorem ofBytes_of_isBare (h : v.isBare = true) : ofBytes v.toBytes none = .present v.toBytes .plain := by
  have hnot : ¬ (v.isContainer = true ∧ (Json.parse v.toBytes).toBool = true) := by
    cases v with
    | bool b => simp [Json.isContainer]
    | number n => simp [Json.isContainer]
    | _ => cases h
  rw [ofBytes_of_ne_nil v.toBytes_ne_nil, ContentType.sniff_toBytes, if_neg hnot]
  rfl

/-- A present body arrives as itself: a document that is declared without a type can be read. -/
theorem ofBytes_of_not_guessed (hordered : v.Ordered) (hdepth : v.depth ≤ Json.maxDepth)
    (hbare : ¬ Guessed v header) {bytes : Bytes} {type : ContentType}
    (h : ofContract (some v) header = .present bytes type) :
    ofBytes bytes header = .present bytes type := by
  obtain ⟨hbytes, guess, htype, hguess⟩ := ofContract_eq_present h
  cases header with
  | some value =>
    rw [ofBytes_of_ne_nil hbytes, htype]
    rfl
  | none =>
    rcases hguess with hsniff | ⟨hjson, u, hu, hwritten, -⟩
    · rw [ofBytes_of_ne_nil hbytes, htype, hsniff]
    · cases hu
      refine ofBytes_ofContract h (fun _ => ?_) fun _ u hu => ?_
      · exact ⟨_, hwritten ▸ Json.parse_toBytes hordered hdepth⟩
      · cases hu
        exact Bool.eq_false_iff.2 fun htrue => hbare ⟨rfl, htrue⟩

/-- A declared body arrives as itself when no type is guessed. -/
theorem ofBytes_bytes_ofContract (hnull : v ≠ .null) (hordered : v.Ordered)
    (hdepth : v.depth ≤ Json.maxDepth) (hbare : ¬ Guessed v header) :
    ofBytes (ofContract (some v) header).bytes header = ofContract (some v) header := by
  cases hdeclared : ofContract (some v) header with
  | absent =>
    cases v with
    | null => exact absurd rfl hnull
    | string s =>
      rw [ofContract] at hdeclared
      split at hdeclared <;> cases hdeclared
    | _ => cases hdeclared
  | empty => rfl
  | present bytes type => exact ofBytes_of_not_guessed hordered hdepth hbare hdeclared

/-- What arrives as the octets of a declared body, under the header that it was declared with, is
    present or empty as the body is, with the same octets. Its kind is the same, and no types are
    reported, exactly if the declared value is no bare number or truth value without a header; such a
    value arrives as plain text. -/
theorem declared_arrives (hnull : v ≠ .null) (hordered : v.Ordered) (hdepth : v.depth < 128)
    (header : Option String) :
    let declared := ofContract (some v) header
    let arrived := ofBytes declared.bytes header
    SameVariant declared arrived ∧ arrived.bytes = declared.bytes ∧
      arrived.type? = (if Guessed v header then some .plain else declared.type?) ∧
      (declared.kind? = arrived.kind? ↔ ¬ Guessed v header) ∧
      ∀ expected actual : Message,
        ReportsType (matchBody { expected with body := declared } { actual with body := arrived }) ↔
          Guessed v header := by
  intro declared arrived
  by_cases hbare : Guessed v header
  · have hkinds : ContentType.json.kind ≠ ContentType.plain.kind := by decide
    obtain ⟨rfl, hbare'⟩ := hbare
    have hdeclared : declared = .present v.toBytes .json := ofContract_of_isBare hbare'
    have harrived : arrived = .present v.toBytes .plain := by
      rw [← ofBytes_of_isBare hbare']
      exact congrArg (fun b => ofBytes b.bytes none) hdeclared
    rw [hdeclared, harrived, if_pos ⟨rfl, hbare'⟩]
    refine ⟨trivial, rfl, rfl, iff_of_false ?_ (not_not.2 ⟨rfl, hbare'⟩), fun expected actual => ?_⟩
    · simp [kind?, type?, hkinds]
    · rw [reportsType_matchBody_iff]
      exact iff_of_true ⟨_, rfl, _, rfl, hkinds⟩ ⟨rfl, hbare'⟩
  · have harrived : arrived = declared :=
      ofBytes_bytes_ofContract hnull hordered (Nat.le_of_lt_succ hdepth) hbare
    rw [harrived, if_neg hbare]
    refine ⟨SameVariant.refl _, rfl, rfl, iff_of_true rfl hbare, fun expected actual => ?_⟩
    rw [reportsType_matchBody_iff]
    refine iff_of_false ?_ hbare
    rintro ⟨type, htype, received, hreceived, hkinds⟩
    exact hkinds (congrArg ContentType.kind (Option.mem_unique htype hreceived))

/-- A list with a floating point number, without a header. -/
theorem declared_arrives_list :
    let v := Json.array [.number (.float ⟨true, 0x7FEFFFFFFFFFFFFF, by decide⟩), .null]
    let declared := ofContract (some v) none
    let arrived := ofBytes declared.bytes none
    v ≠ .null ∧ v.Ordered ∧ v.depth < 128 ∧ SameVariant declared arrived ∧
      arrived.bytes = declared.bytes ∧
      arrived.type? = (if Guessed v none then some .plain else declared.type?) ∧
      (declared.kind? = arrived.kind? ↔ ¬ Guessed v none) ∧
      ∀ expected actual : Message,
        ReportsType (matchBody { expected with body := declared } { actual with body := arrived }) ↔
          Guessed v none := by
  intro v declared arrived
  have hnull : v ≠ .null := by simp [v]
  have hordered : v.Ordered := ⟨trivial, trivial, trivial⟩
  have hdepth : v.depth < 128 := by decide
  exact ⟨hnull, hordered, hdepth, declared_arrives hnull hordered hdepth none⟩

/-- A number that is declared without a header is JSON, and its digits arrive as plain text. -/
theorem not_declared_arrives :
    ¬ ∀ (v : Json) (header : Option String), v ≠ .null → v.Ordered → v.depth < 128 →
      let declared := ofContract (some v) header
      let arrived := ofBytes declared.bytes header
      SameVariant declared arrived ∧ arrived.bytes = declared.bytes ∧
        declared.kind? = arrived.kind? := by
  intro hclaim
  obtain ⟨-, -, hkinds⟩ := hclaim (.number (.ofNat 5)) none (by simp) trivial (by decide)
  revert hkinds
  decide

end MockProvider.Body
