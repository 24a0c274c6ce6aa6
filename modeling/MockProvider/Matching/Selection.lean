import MockProvider.Contract.Basic
import MockProvider.Matching.Facets
import MockProvider.Matching.Lookups

/-!
# Selecting the interaction

A received request is answered by the first interaction that it matches. Where it matches none, the
closest one tells what is wrong with it: the one that matches in most respects, then the one with
the fewest mismatches, then the earliest.

`Contract.selectChecked` is the selection in a build that checks its arithmetic. It stops at a weight
of a rule that is too large for a word, unless the request is matched before.
-/

namespace MockProvider

/-- Which interaction answers a request. -/
inductive Selection where
  | matched (index : Nat)
  | closest (index : Nat) (mismatches : List Mismatch)
  | notFound

namespace Selection

/-- How close an interaction comes: its position and what the request differs in. -/
structure Attempt where
  index : Nat
  facets : RequestFacets

def Attempt.closer (later earlier : Attempt) : Bool :=
  earlier.facets.matching < later.facets.matching ||
    (earlier.facets.matching == later.facets.matching &&
      later.facets.mismatches.length < earlier.facets.mismatches.length)

/-- The closest attempt, the earliest of equally close ones. -/
def closestOf : List Attempt → Option Attempt
  | [] => none
  | a :: as =>
    match closestOf as with
    | none => some a
    | some b => some (if b.closer a then b else a)

/-- An attempt at each interaction, numbered from `index`. -/
def attempts (actual : Request) : (index : Nat) → List Interaction → List Attempt
  | _, [] => []
  | index, i :: is => ⟨index, i.request.facets actual⟩ :: attempts actual (index + 1) is

def ofAttempts (attempts : List Attempt) : Selection :=
  match attempts.find? fun a => a.facets.mismatches.isEmpty with
  | some a => .matched a.index
  | none =>
    match closestOf attempts with
    | some a => .closest a.index a.facets.mismatches
    | none => .notFound

/-- Whether comparing a request with interactions, up to the first that it matches, meets a weight
    that is too large for a word. -/
def overflows (actual : Request) : List Interaction → Bool
  | [] => false
  | i :: is =>
    i.request.overflows actual ||
      (!(i.request.mismatches actual).isEmpty && overflows actual is)

end Selection

/-- Selects the interaction of a contract that answers a request. -/
def Contract.select (c : Contract) (actual : Request) : Selection :=
  .ofAttempts (Selection.attempts actual 0 c.interactions)

/-- The selection where arithmetic is checked, if it does not stop. -/
def Contract.selectChecked (c : Contract) (actual : Request) : Option Selection :=
  if Selection.overflows actual c.interactions then none else some (c.select actual)

end MockProvider
