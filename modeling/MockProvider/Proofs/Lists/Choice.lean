import Mathlib.Data.List.Basic

/-!
# The first that counts

Where several elements of a list would do, the one that is declared first counts. `FirstAt` tells
the first element with a property by its position. `firstBest` is a search for the best element that
keeps the earlier one of two that are equally good; what it keeps beats all that stand before it and
is beaten by none: `firstBest_eq_some`.
-/

namespace MockProvider

variable {α : Type}

/-! ## The first with a property -/

/-- The element of a list at a position has a property, and none before it has. -/
structure FirstAt (p : α → Prop) (xs : List α) (index : Nat) (x : α) : Prop where
  here : xs[index]? = some x
  holds : p x
  earlier : ∀ k < index, ∀ y, xs[k]? = some y → ¬ p y

namespace FirstAt

variable {p : α → Prop} {xs : List α} {index k : Nat} {x y : α}

theorem mem (h : FirstAt p xs index x) : x ∈ xs :=
  List.mem_of_getElem? h.here

theorem le (h : FirstAt p xs index x) (hy : xs[k]? = some y) (hp : p y) : index ≤ k :=
  Nat.le_of_not_lt fun hlt => h.earlier k hlt y hy hp

theorem unique (h : FirstAt p xs index x) (h' : FirstAt p xs k y) : index = k ∧ x = y := by
  have hindex : index = k := Nat.le_antisymm (h.le h'.here h'.holds) (h'.le h.here h.holds)
  subst hindex
  exact ⟨rfl, Option.some.inj (h.here.symm.trans h'.here)⟩

end FirstAt

/-! ## The first of the best -/

/-- The best element of a list, the earliest of equally good ones. -/
def firstBest (beats : α → α → Bool) : List α → Option α
  | [] => none
  | x :: xs =>
    match firstBest beats xs with
    | none => some x
    | some y => some (if beats y x then y else x)

variable {beats : α → α → Bool} {xs : List α} {best : α}

theorem firstBest_eq_none_iff : firstBest beats xs = none ↔ xs = [] := by
  cases xs with
  | nil => simp [firstBest]
  | cons x xs =>
    rw [firstBest]
    split <;> simp

theorem mem_of_firstBest (h : firstBest beats xs = some best) : best ∈ xs := by
  induction xs generalizing best with
  | nil => cases h
  | cons x xs ih =>
    rw [firstBest] at h
    split at h
    · cases h
      exact List.mem_cons_self
    · next y hbest =>
      cases h
      split
      · exact List.mem_cons_of_mem _ (ih hbest)
      · exact List.mem_cons_self

/-- The best element beats all that stand before it, and none beats it, where no two elements beat
    each other and what does not beat an element beats none that this one does not beat. -/
theorem firstBest_eq_some (hasymm : ∀ {x y}, beats x y = true → beats y x = false)
    (htrans : ∀ {x y z}, beats x y = false → beats y z = false → beats x z = false)
    (h : firstBest beats xs = some best) :
    ∃ front back, xs = front ++ best :: back ∧ (∀ x ∈ front, beats best x = true) ∧
      ∀ x ∈ xs, beats x best = false := by
  have hself : ∀ x, beats x x = false := by
    intro x
    by_contra htrue
    rw [Bool.not_eq_false] at htrue
    rw [hasymm htrue] at htrue
    cases htrue
  induction xs generalizing best with
  | nil => cases h
  | cons first xs ih =>
    rw [firstBest] at h
    split at h
    · next hnone =>
      cases h
      rw [firstBest_eq_none_iff.1 hnone]
      exact ⟨[], [], rfl, by simp, by simp [hself]⟩
    · next y hbest =>
      obtain ⟨front, back, hxs, hfront, hall⟩ := ih hbest
      cases h
      cases hbeats : beats y first with
      | true =>
        refine ⟨first :: front, back, by rw [hxs]; rfl, ?_, ?_⟩
        · exact List.forall_mem_cons.2 ⟨hbeats, hfront⟩
        · exact List.forall_mem_cons.2 ⟨hasymm hbeats, hall⟩
      | false =>
        -- no other one beats the best of the others, and that one does not beat the first
        refine ⟨[], xs, rfl, by simp, List.forall_mem_cons.2 ⟨hself first, fun x hx => ?_⟩⟩
        exact htrans (hall x hx) hbeats

end MockProvider
