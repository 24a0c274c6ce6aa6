/-!
# Association lists in key order

Lists of pairs whose keys ascend strictly, in the order of code points. `insert` keeps that order
and replaces the value of a key that is there already. The lists stand on their own, so that a
recursive type can hold them; `Dict` packs one with the proof that its keys ascend.
-/

namespace MockProvider.Assoc

variable {α β : Type}

/-- The keys ascend strictly, so no key stands twice. -/
def Ascending (entries : List (String × α)) : Prop :=
  entries.Pairwise fun a b => a.1 < b.1

/-- The value of the first entry with the key. -/
def get? : List (String × α) → String → Option α
  | [], _ => none
  | (k, v) :: rest, key => if k = key then some v else get? rest key

def contains (entries : List (String × α)) (key : String) : Bool :=
  (get? entries key).isSome

/-- The entries with `value` at `key`, put where the order of keys wants it. -/
def insert (key : String) (value : α) : List (String × α) → List (String × α)
  | [] => [(key, value)]
  | (k, v) :: rest =>
    if key < k then (key, value) :: (k, v) :: rest
    else if key = k then (key, value) :: rest
    else (k, v) :: insert key value rest

/-- The pairs in key order; of two pairs with one key the later counts. -/
def ofList (pairs : List (String × α)) : List (String × α) :=
  pairs.foldl (fun entries pair => insert pair.1 pair.2 entries) []

/-- The entries with `f` applied to each value. -/
def mapValues (f : α → β) (entries : List (String × α)) : List (String × β) :=
  entries.map fun entry => (entry.1, f entry.2)

/-! ## What insertion does -/

theorem ascending_nil : Ascending ([] : List (String × α)) :=
  List.Pairwise.nil

theorem mem_insert {key : String} {value : α} {entries : List (String × α)} {e : String × α}
    (h : e ∈ insert key value entries) : e = (key, value) ∨ e ∈ entries := by
  induction entries with
  | nil => simpa [insert] using h
  | cons head rest ih =>
    obtain ⟨k, v⟩ := head
    simp only [insert] at h
    split at h
    · simpa using h
    · split at h
      · rcases List.mem_cons.1 h with h | h
        · exact Or.inl h
        · exact Or.inr (List.mem_cons_of_mem _ h)
      · rcases List.mem_cons.1 h with h | h
        · exact Or.inr (h ▸ List.mem_cons_self)
        · rcases ih h with h | h
          · exact Or.inl h
          · exact Or.inr (List.mem_cons_of_mem _ h)

theorem lt_of_not_lt_of_ne {a b : String} (h : ¬ a < b) (hne : a ≠ b) : b < a :=
  Std.lt_of_le_of_ne (String.not_lt.1 h) fun e => hne e.symm

theorem Ascending.insert {entries : List (String × α)} (h : Ascending entries) (key : String)
    (value : α) : Ascending (insert key value entries) := by
  induction entries with
  | nil => exact List.pairwise_cons.2 ⟨by simp, List.Pairwise.nil⟩
  | cons head rest ih =>
    obtain ⟨k, v⟩ := head
    obtain ⟨hk, hrest⟩ := List.pairwise_cons.1 h
    simp only [Assoc.insert]
    split
    · next hlt =>
      refine List.pairwise_cons.2 ⟨fun e he => ?_, h⟩
      rcases List.mem_cons.1 he with rfl | he
      · exact hlt
      · exact String.lt_trans hlt (hk e he)
    · next hlt =>
      split
      · next heq =>
        subst heq
        exact List.pairwise_cons.2 ⟨hk, hrest⟩
      · next hne =>
        refine List.pairwise_cons.2 ⟨fun e he => ?_, ih hrest⟩
        rcases mem_insert he with rfl | he
        · exact lt_of_not_lt_of_ne hlt hne
        · exact hk e he

theorem Ascending.foldl_insert {entries : List (String × α)} (h : Ascending entries)
    (pairs : List (String × α)) :
    Ascending (pairs.foldl (fun entries pair => Assoc.insert pair.1 pair.2 entries) entries) := by
  induction pairs generalizing entries with
  | nil => exact h
  | cons pair pairs ih => exact ih (h.insert pair.1 pair.2)

theorem ascending_ofList (pairs : List (String × α)) : Ascending (ofList pairs) :=
  Ascending.foldl_insert ascending_nil pairs

theorem Ascending.mapValues {entries : List (String × α)} (h : Ascending entries) (f : α → β) :
    Ascending (mapValues f entries) :=
  List.pairwise_map.2 h

theorem get?_insert (entries : List (String × α)) (key other : String) (value : α) :
    get? (insert key value entries) other = if key = other then some value else get? entries other := by
  induction entries with
  | nil => simp [insert, get?]
  | cons head rest ih =>
    obtain ⟨k, v⟩ := head
    simp only [insert]
    split
    · simp [get?]
    · split
      · next heq =>
        subst heq
        by_cases h : key = other <;> simp [get?, h]
      · next hne =>
        simp only [get?, ih]
        by_cases h : k = other
        · subst h
          simp [hne]
        · simp [h]

end MockProvider.Assoc
