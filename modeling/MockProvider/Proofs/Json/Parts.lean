import MockProvider.DocPath.Basic
import MockProvider.Proofs.Json.Shape

/-!
# Values at places

A place leads from a document down to a value inside of it, when there is one: `Json.at?`. Paths with
wildcards lead nowhere; those without are `DocPath.Concrete`.
-/

namespace MockProvider

namespace DocPath

/-- A step to one child: a field or an index. -/
def Step.Concrete : Step → Prop
  | .field _ => True
  | .index _ => True
  | .anyChild => False
  | .anyIndex => False

/-- A path that names one place: fields and indexes only. -/
def Concrete (p : DocPath) : Prop :=
  ∀ step ∈ p.steps, step.Concrete

theorem forall_push {P : Step → Prop} {p : DocPath} {step : Step} (hp : ∀ s ∈ p.steps, P s)
    (hstep : P step) : ∀ s ∈ (p.push step).steps, P s :=
  List.forall_mem_append.2 ⟨hp, List.forall_mem_singleton.2 hstep⟩

theorem not_push_prefix (p : DocPath) (step : Step) : ¬ (p.push step).steps <+: p.steps := by
  intro hprefix
  have hlength := hprefix.length_le
  rw [push, List.length_append, List.length_singleton] at hlength
  exact Nat.not_succ_le_self _ hlength

/-- A path goes on from one above it with one step. -/
theorem push_prefix_inj {p q : DocPath} {step step' : Step} (h : (p.push step).steps <+: q.steps)
    (h' : (p.push step').steps <+: q.steps) : step = step' := by
  have hlength : (p.push step).steps.length = (p.push step').steps.length := by simp [push]
  have hsteps := (List.prefix_of_prefix_length_le h h' (Nat.le_of_eq hlength)).eq_of_length hlength
  rw [push, push, List.append_cancel_left_eq] at hsteps
  exact (List.cons.inj hsteps).1

end DocPath

namespace Json

/-- The value one step further down. -/
def child? : Json → DocPath.Step → Option Json
  | .object members, .field name => Assoc.get? members name
  | .array items, .index position => items[position]?
  | _, _ => none

/-- The value at a place. -/
def at? (v : Json) (place : DocPath) : Option Json :=
  place.steps.foldlM child? v

theorem at?_push (v : Json) (place : DocPath) (step : DocPath.Step) :
    v.at? (place.push step) = (v.at? place).bind (child? · step) := by
  simp only [at?, DocPath.push, List.foldlM_append, List.foldlM_cons, List.foldlM_nil, bind_pure]
  rfl

theorem at?_cons (v : Json) (step : DocPath.Step) (steps : List DocPath.Step) :
    v.at? ⟨step :: steps⟩ = (v.child? step).bind (at? · ⟨steps⟩) := rfl

/-- What a step leads to is one of the items or the value of one of the members. -/
theorem child?_eq_some {v x : Json} {step : DocPath.Step} (h : v.child? step = some x) :
    (∃ items position, v = .array items ∧ step = .index position ∧ items[position]? = some x) ∨
      ∃ members key, v = .object members ∧ step = .field key ∧ Assoc.get? members key = some x := by
  cases v with
  | array items =>
    cases step with
    | index position => exact Or.inl ⟨items, position, rfl, rfl, h⟩
    | _ => cases h
  | object members =>
    cases step with
    | field key => exact Or.inr ⟨members, key, rfl, rfl, h⟩
    | _ => cases h
  | _ => cases step <;> cases h

theorem Ordered.child? {v x : Json} {step : DocPath.Step} (hv : v.Ordered)
    (h : v.child? step = some x) : x.Ordered := by
  rcases child?_eq_some h with ⟨items, position, rfl, -, hx⟩ | ⟨members, key, rfl, -, hx⟩
  · exact hv.of_item (List.mem_of_getElem? hx)
  · exact orderedMembers_iff.1 hv.2 _ (Assoc.mem_of_get? hx)

theorem depth_child?_lt {v x : Json} {step : DocPath.Step} (h : v.child? step = some x) :
    x.depth < v.depth := by
  rcases child?_eq_some h with ⟨items, position, rfl, -, hx⟩ | ⟨members, key, rfl, -, hx⟩
  · exact depth_lt_of_item (List.mem_of_getElem? hx)
  · exact depth_lt_of_get? (v := .object members) hx

/-- What is at a place of an ordered document is ordered. -/
theorem Ordered.at? {v x : Json} {place : DocPath} (hv : v.Ordered) (h : v.at? place = some x) :
    x.Ordered := by
  obtain ⟨steps⟩ := place
  induction steps generalizing v with
  | nil =>
    cases h
    exact hv
  | cons step steps ih =>
    rw [at?_cons] at h
    obtain ⟨y, hy, hx⟩ := Option.bind_eq_some_iff.1 h
    exact ih (hv.child? hy) hx

/-! ## Properties of all parts -/

/-- A property of a value and of every value inside of it. -/
def Everywhere (P : Json → Prop) (v : Json) : Prop :=
  ∀ place x, v.at? place = some x → P x

variable {P Q : Json → Prop} {v : Json}

theorem Everywhere.self (h : v.Everywhere P) : P v := h .root v rfl

theorem Everywhere.mono (h : v.Everywhere P) (hle : ∀ x, P x → Q x) : v.Everywhere Q :=
  fun place x hx => hle x (h place x hx)

theorem Everywhere.child? {x : Json} {step : DocPath.Step} (h : v.Everywhere P)
    (hx : v.child? step = some x) : x.Everywhere P := by
  intro place y hy
  refine h ⟨step :: place.steps⟩ y ?_
  rw [at?_cons, hx]
  exact hy

theorem everywhere_of_children (hself : P v)
    (hchildren : ∀ step x, v.child? step = some x → x.Everywhere P) : v.Everywhere P := by
  rintro ⟨steps⟩ y hy
  cases steps with
  | nil =>
    cases hy
    exact hself
  | cons step steps =>
    rw [at?_cons] at hy
    obtain ⟨x, hx, hrest⟩ := Option.bind_eq_some_iff.1 hy
    exact hchildren step x hx ⟨steps⟩ y hrest

theorem everywhere_of_depth (hself : P v) (h : v.depth = 0) : v.Everywhere P :=
  everywhere_of_children hself fun _ _ hx =>
    absurd (h ▸ depth_child?_lt hx) (Nat.not_lt_zero _)

theorem everywhere_array {items : List Json} (hself : P (.array items))
    (hitems : ∀ x ∈ items, x.Everywhere P) : (array items).Everywhere P := by
  refine everywhere_of_children hself fun step x hx => ?_
  rcases child?_eq_some hx with ⟨_, position, hv, -, hat⟩ | ⟨_, key, hv, -, -⟩
  · cases hv
    exact hitems x (List.mem_of_getElem? hat)
  · cases hv

theorem everywhere_object {members : List (String × Json)} (hself : P (.object members))
    (hmembers : ∀ m ∈ members, m.2.Everywhere P) : (object members).Everywhere P := by
  refine everywhere_of_children hself fun step x hx => ?_
  rcases child?_eq_some hx with ⟨_, position, hv, -, -⟩ | ⟨_, key, hv, -, hget⟩
  · cases hv
  · cases hv
    exact hmembers _ (Assoc.mem_of_get? hget)

end Json

end MockProvider
