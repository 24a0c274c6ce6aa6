import Mathlib.Data.List.Nodup
import MockProvider.Dict.Basic

/-!
# Looking up entries

What a look-up finds. In a list whose keys ascend it finds exactly the entries; in a list made from
pairs it finds the last pair with a key. Lists that ascend are determined by what is found in them,
so dictionaries with equal values at all keys are equal.
-/

namespace MockProvider

namespace Assoc

variable {α β : Type}

/-! ## Lists of pairs -/

@[simp] theorem get?_nil (key : String) : get? ([] : List (String × α)) key = none := rfl

theorem get?_cons (k : String) (v : α) (rest : List (String × α)) (key : String) :
    get? ((k, v) :: rest) key = if k = key then some v else get? rest key := rfl

theorem get?_append (front back : List (String × α)) (key : String) :
    get? (front ++ back) key = (get? front key).or (get? back key) := by
  induction front with
  | nil => rfl
  | cons entry front ih =>
    obtain ⟨k, v⟩ := entry
    simp only [List.cons_append, get?_cons]
    split
    · rfl
    · exact ih

theorem mem_of_get? {entries : List (String × α)} {key : String} {value : α}
    (h : get? entries key = some value) : (key, value) ∈ entries := by
  induction entries with
  | nil => cases h
  | cons entry rest ih =>
    obtain ⟨k, v⟩ := entry
    rw [get?_cons] at h
    split at h
    · next hk =>
      cases h
      exact hk ▸ List.mem_cons_self
    · exact List.mem_cons_of_mem _ (ih h)

theorem get?_eq_none_iff {entries : List (String × α)} {key : String} :
    get? entries key = none ↔ key ∉ entries.map Prod.fst := by
  induction entries with
  | nil => simp
  | cons entry rest ih =>
    obtain ⟨k, v⟩ := entry
    rw [get?_cons, List.map_cons, List.mem_cons, not_or, ← ih]
    split
    · next hk => simp [hk]
    · next hk => simp [Ne.symm hk]

theorem get?_mapValues (f : α → β) (entries : List (String × α)) (key : String) :
    get? (mapValues f entries) key = (get? entries key).map f := by
  induction entries with
  | nil => rfl
  | cons entry rest ih =>
    obtain ⟨k, v⟩ := entry
    change get? ((k, f v) :: mapValues f rest) key = _
    rw [get?_cons, get?_cons, ih]
    split <;> rfl

theorem get?_foldl_insert (pairs entries : List (String × α)) (key : String) :
    get? (pairs.foldl (fun entries pair => insert pair.1 pair.2 entries) entries) key =
      (get? pairs.reverse key).or (get? entries key) := by
  induction pairs generalizing entries with
  | nil => rfl
  | cons pair pairs ih =>
    obtain ⟨k, v⟩ := pair
    rw [List.foldl_cons, ih, get?_insert, List.reverse_cons, get?_append, get?_cons, get?_nil]
    cases get? pairs.reverse key with
    | some _ => rfl
    | none => by_cases hk : k = key <;> simp [hk]

/-- A list made from pairs holds the last pair of every key. -/
theorem get?_ofList (pairs : List (String × α)) (key : String) :
    get? (ofList pairs) key = get? pairs.reverse key := by
  rw [ofList, get?_foldl_insert]
  cases get? pairs.reverse key <;> rfl

theorem mem_ofList {pairs : List (String × α)} {entry : String × α} (h : entry ∈ ofList pairs) :
    entry ∈ pairs := by
  suffices ∀ entries, entry ∈ pairs.foldl (fun entries pair => insert pair.1 pair.2 entries) entries →
      entry ∈ pairs ∨ entry ∈ entries by
    rcases this [] h with h | h
    · exact h
    · cases h
  -- pairs are inserted one by one, so the induction is over any list that they go into
  clear h
  induction pairs with
  | nil => exact fun _ h => Or.inr h
  | cons pair pairs ih =>
    intro entries h
    rcases ih _ h with h | h
    · exact Or.inl (List.mem_cons_of_mem _ h)
    · rcases mem_insert h with rfl | h
      · exact Or.inl List.mem_cons_self
      · exact Or.inr h

/-! ## The first entry of a kind -/

/-- An entry is the first that is found when its key comes before the keys of all others that could
    be. -/
theorem find?_insert (p : String → Bool) {key : String} {entries : List (String × α)}
    (hp : p key = true) (hfirst : ∀ entry ∈ entries, p entry.1 = true → key ≤ entry.1) (value : α) :
    (insert key value entries).find? (fun entry => p entry.1) = some (key, value) := by
  induction entries with
  | nil => simp [insert, hp]
  | cons entry entries ih =>
    simp only [insert]
    split
    · simp [hp]
    · next hlt =>
      split
      · simp [hp]
      · next hne =>
        have hskip : p entry.1 = false := by
          rw [Bool.eq_false_iff]
          intro hmatch
          have hle := hfirst entry List.mem_cons_self hmatch
          exact hlt (Std.lt_of_le_of_ne hle hne)
        rw [List.find?_cons, hskip]
        exact ih fun other hother => hfirst other (List.mem_cons_of_mem _ hother)

/-- An entry that could not be found does not change which one is. -/
theorem find?_insert_of_not (p : String → Bool) {key : String} {entries : List (String × α)}
    (hp : p key = false) (value : α) :
    (insert key value entries).find? (fun entry => p entry.1) =
      entries.find? fun entry => p entry.1 := by
  induction entries with
  | nil => simp [insert, hp]
  | cons entry entries ih =>
    simp only [insert]
    split
    · rw [List.find?_cons, hp]
    · split
      · next heq =>
        rw [heq] at hp
        rw [List.find?_cons, List.find?_cons, hp, heq, hp]
      · rw [List.find?_cons, List.find?_cons, ih]

theorem find?_mapValues (f : α → β) (p : String → Bool) (entries : List (String × α)) :
    (mapValues f entries).find? (fun entry => p entry.1) =
      (entries.find? fun entry => p entry.1).map fun entry => (entry.1, f entry.2) :=
  List.find?_map

/-! ## Ascending lists -/

theorem Ascending.nodup_keys {entries : List (String × α)} (h : Ascending entries) :
    (entries.map Prod.fst).Nodup :=
  List.pairwise_map.2 (h.imp fun hlt he => String.lt_irrefl _ (Eq.subst (motive := fun k => k < _) he hlt))

theorem get?_of_mem {entries : List (String × α)} (h : (entries.map Prod.fst).Nodup)
    {key : String} {value : α} (hm : (key, value) ∈ entries) : get? entries key = some value := by
  induction entries with
  | nil => cases hm
  | cons entry rest ih =>
    obtain ⟨k, v⟩ := entry
    obtain ⟨hk, hrest⟩ := List.nodup_cons.1 h
    rw [get?_cons]
    rcases List.mem_cons.1 hm with he | hm
    · cases he
      exact if_pos rfl
    · have hne : k ≠ key := by
        rintro rfl
        exact hk (List.mem_map.2 ⟨_, hm, rfl⟩)
      rw [if_neg hne, ih hrest hm]

theorem Ascending.get?_of_mem {entries : List (String × α)} (h : Ascending entries)
    {key : String} {value : α} (hm : (key, value) ∈ entries) : get? entries key = some value :=
  Assoc.get?_of_mem h.nodup_keys hm

/-- Ascending lists in which the same is found are equal. -/
theorem Ascending.ext {a b : List (String × α)} (ha : Ascending a) (hb : Ascending b)
    (h : ∀ key, get? a key = get? b key) : a = b := by
  have hmem : ∀ e, e ∈ a ↔ e ∈ b := fun (key, value) =>
    ⟨fun hm => mem_of_get? ((h key).symm.trans (ha.get?_of_mem hm)),
      fun hm => mem_of_get? ((h key).trans (hb.get?_of_mem hm))⟩
  -- lists without duplicates that have the same members are permutations
  have hperm : a.Perm b :=
    (List.perm_ext_iff_of_nodup (.of_map _ ha.nodup_keys) (.of_map _ hb.nodup_keys)).2 hmem
  refine hperm.eq_of_pairwise (fun x y _ _ hxy hyx => ?_) ha hb
  exact absurd (String.lt_trans hxy hyx) (String.lt_irrefl _)

theorem get?_reverse {entries : List (String × α)} (h : (entries.map Prod.fst).Nodup) (key : String) :
    get? entries.reverse key = get? entries key := by
  cases hg : get? entries key with
  | none =>
    rw [get?_eq_none_iff, List.map_reverse, List.mem_reverse]
    exact get?_eq_none_iff.1 hg
  | some value =>
    refine Assoc.get?_of_mem ?_ (List.mem_reverse.2 (mem_of_get? hg))
    rw [List.map_reverse]
    exact List.nodup_reverse.2 h

theorem Ascending.ofList_eq {pairs : List (String × α)} (h : Ascending pairs) :
    ofList pairs = pairs := by
  refine (ascending_ofList pairs).ext h fun key => ?_
  rw [get?_ofList, get?_reverse h.nodup_keys]

/-- Pairs with different keys are only put into order. -/
theorem ofList_perm {pairs : List (String × α)} (h : (pairs.map Prod.fst).Nodup) :
    (ofList pairs).Perm pairs := by
  refine (List.perm_ext_iff_of_nodup (.of_map _ (ascending_ofList pairs).nodup_keys) (.of_map _ h)).2
    fun (key, value) => ⟨mem_ofList, fun hm => mem_of_get? ?_⟩
  rw [get?_ofList, get?_reverse h]
  exact Assoc.get?_of_mem h hm

/-- The order of pairs with different keys does not matter. -/
theorem ofList_eq_of_perm {a b : List (String × α)} (h : a.Perm b)
    (hnodup : (a.map Prod.fst).Nodup) : ofList a = ofList b := by
  have hnodup' : (b.map Prod.fst).Nodup := (h.map Prod.fst).nodup_iff.1 hnodup
  refine (ascending_ofList a).ext (ascending_ofList b) fun key => Option.ext fun value => ?_
  have hmem : ∀ {pairs : List (String × α)}, (pairs.map Prod.fst).Nodup →
      (get? (ofList pairs) key = some value ↔ (key, value) ∈ pairs) := fun hn =>
    ⟨fun hget => (ofList_perm hn).mem_iff.1 (mem_of_get? hget),
      fun hm => (ascending_ofList _).get?_of_mem ((ofList_perm hn).mem_iff.2 hm)⟩
  rw [hmem hnodup, hmem hnodup', h.mem_iff]

theorem ofList_mapValues (f : α → β) (pairs : List (String × α)) :
    ofList (mapValues f pairs) = mapValues f (ofList pairs) := by
  refine (ascending_ofList _).ext ((ascending_ofList pairs).mapValues f) fun key => ?_
  rw [get?_mapValues, get?_ofList, get?_ofList, mapValues, ← List.map_reverse]
  exact get?_mapValues f pairs.reverse key

/-- A list made from pairs whose keys differ lists the same pairs, in the order of their keys. -/
theorem exists_perm_ofList {γ : Type} (key : γ → String) (value : γ → α) {xs : List γ}
    (h : (xs.map key).Nodup) : ∃ ys : List γ, ys.Perm xs ∧
      ofList (xs.map fun x => (key x, value x)) = ys.map fun x => (key x, value x) := by
  have hkeys : ((xs.map fun x => (key x, x)).map Prod.fst).Nodup := by
    rwa [List.map_map]
  refine ⟨(ofList (xs.map fun x => (key x, x))).map Prod.snd, ?_, ?_⟩
  · have hperm := (ofList_perm hkeys).map Prod.snd
    rw [List.map_map] at hperm
    exact hperm.trans (List.map_id _ ▸ List.Perm.refl _)
  · have hvalues : (xs.map fun x => (key x, value x)) =
        mapValues value (xs.map fun x => (key x, x)) := by
      rw [mapValues, List.map_map]
      rfl
    rw [hvalues, ofList_mapValues, mapValues, List.map_map]
    refine List.map_congr_left fun entry hentry => ?_
    obtain ⟨x, -, rfl⟩ := List.mem_map.1 (mem_ofList hentry)
    rfl

end Assoc

namespace Dict

variable {α β : Type}

theorem ext_toList {a b : Dict α} (h : a.toList = b.toList) : a = b := by
  cases a
  cases b
  cases h
  rfl

/-- Dictionaries with equal values at all keys are equal. -/
theorem ext_get? {a b : Dict α} (h : ∀ key, a.get? key = b.get? key) : a = b :=
  ext_toList (a.ascending.ext b.ascending h)

theorem get?_of_mem {d : Dict α} {key : String} {value : α} (h : (key, value) ∈ d.toList) :
    d.get? key = some value :=
  d.ascending.get?_of_mem h

/-- Entries that are inserted one after another override those that were there. -/
theorem get?_foldl_insert (entries : List (String × α)) (d : Dict α) (key : String) :
    (entries.foldl (fun d entry => d.insert entry.1 entry.2) d).get? key =
      (Assoc.get? entries.reverse key).or (d.get? key) := by
  have hlists : ∀ d : Dict α,
      (entries.foldl (fun d entry => d.insert entry.1 entry.2) d).toList =
        entries.foldl (fun list entry => Assoc.insert entry.1 entry.2 list) d.toList := by
    induction entries with
    | nil => exact fun _ => rfl
    | cons entry entries ih => exact fun d => ih (d.insert entry.1 entry.2)
  rw [get?, hlists, Assoc.get?_foldl_insert]
  rfl

theorem get?_eq_some_iff {d : Dict α} {key : String} {value : α} :
    d.get? key = some value ↔ (key, value) ∈ d.toList :=
  ⟨Assoc.mem_of_get?, get?_of_mem⟩

@[simp] theorem get?_map (f : α → β) (d : Dict α) (key : String) :
    (d.map f).get? key = (d.get? key).map f :=
  Assoc.get?_mapValues f d.toList key

theorem map_insert (f : α → β) (d : Dict α) (key : String) (value : α) :
    (d.insert key value).map f = (d.map f).insert key (f value) := by
  apply ext_get?
  intro other
  simp only [get?_map, get?_insert]
  split <;> rfl

theorem ofList_toList (d : Dict α) : ofList d.toList = d :=
  ext_toList d.ascending.ofList_eq

end Dict

end MockProvider
