import MockProvider.Proofs.Contract.Merging

/-!
# What a merge adds

A merge goes through interactions one after the other, and looks each one up in a list that grows
meanwhile. What it does can be told without that list: it adds the interactions whose keys are new at
their turn, and it comes to its end when every other one is written as the first interaction that has
its key by then: `Contract.merge_outcome`. The step of the induction is `additions_cons`.
-/

namespace MockProvider

namespace Contract

/-! ## Additions -/

/-- The interactions whose keys neither `present` nor the interactions before them have. -/
def additions (present incoming : List Interaction) : List Interaction :=
  incoming.zipIdx.filterMap fun (i, position) =>
    if i.key ∈ (present ++ incoming.take position).map Interaction.key then none else some i

/-- The interactions that are there when the one at a position has its turn. -/
def atTurn (present incoming : List Interaction) (position : Nat) : List Interaction :=
  present ++ additions present (incoming.take position)

/-- At its turn an interaction has a new key, or it is written as the first one that has its key. -/
def FitsAt (present incoming : List Interaction) (position : Nat) (i : Interaction) : Prop :=
  ∀ e, (atTurn present incoming position).find? (fun e => e.key == i.key) = some e →
    (e.toJson == i.toJson) = true

variable {present incoming : List Interaction}

/-- Only the keys of what is there matter. -/
theorem additions_congr {others : List Interaction}
    (h : ∀ key, key ∈ present.map Interaction.key ↔ key ∈ others.map Interaction.key)
    (incoming : List Interaction) : additions present incoming = additions others incoming := by
  simp only [additions, List.map_append, List.mem_append, h]

theorem additions_singleton (present : List Interaction) (i : Interaction) :
    additions present [i] = if i.key ∈ present.map Interaction.key then [] else [i] := by
  by_cases h : i.key ∈ present.map Interaction.key <;>
    simp only [additions, List.zipIdx_singleton, List.filterMap_cons, List.filterMap_nil,
      List.take_zero, List.append_nil, h, if_true, if_false]

/-- The keys of what is there after an interaction had its turn. -/
theorem mem_keys_append_additions (present : List Interaction) (i : Interaction)
    (key : String × Option String) :
    key ∈ (present ++ [i]).map Interaction.key ↔
      key ∈ (present ++ additions present [i]).map Interaction.key := by
  rw [additions_singleton]
  split
  · next hmem =>
    rw [List.map_append, List.mem_append, List.append_nil, List.map_singleton, List.mem_singleton]
    exact ⟨fun h => h.elim id fun heq => heq ▸ hmem, Or.inl⟩
  · rfl

/-- The first interaction is added or not, and the others have their turn after that. -/
theorem additions_cons (present : List Interaction) (i : Interaction) (is : List Interaction) :
    additions present (i :: is) =
      additions present [i] ++ additions (present ++ additions present [i]) is := by
  have hturn : ∀ position, present ++ (i :: is).take (position + 1) =
      present ++ [i] ++ is.take position := by simp
  have htail : additions present (i :: is) =
      additions present [i] ++ additions (present ++ [i]) is := by
    simp only [additions, List.zipIdx_cons, List.zipIdx_succ, List.filterMap_cons,
      List.filterMap_map, List.zipIdx_nil, List.filterMap_nil, Function.comp_def, hturn]
    by_cases h : i.key ∈ present.map Interaction.key <;> simp [h]
  rw [htail, additions_congr (mem_keys_append_additions present i)]

theorem atTurn_succ (present : List Interaction) (i : Interaction) (is : List Interaction)
    (position : Nat) :
    atTurn present (i :: is) (position + 1) =
      atTurn (present ++ additions present [i]) is position := by
  rw [atTurn, List.take_succ_cons, additions_cons, atTurn, List.append_assoc]

/-! ## Merging interactions -/

/-- An interaction that fits at its turn is added or not, and the merge goes on. -/
theorem mergeInteractions_of_fits {i : Interaction} {is : List Interaction}
    (h : FitsAt present (i :: is) 0 i) :
    mergeInteractions present (i :: is) =
      mergeInteractions (present ++ additions present [i]) is := by
  have hpresent : atTurn present (i :: is) 0 = present := List.append_nil present
  rw [mergeInteractions, additions_singleton]
  split
  · next e hfound =>
    have hsame : (e.toJson == i.toJson) = true := h e (by rw [hpresent, hfound])
    have hkey : e.key = i.key := by simpa using List.find?_some hfound
    have hmem : i.key ∈ present.map Interaction.key :=
      hkey ▸ List.mem_map_of_mem (List.mem_of_find?_eq_some hfound)
    rw [if_pos hsame, if_pos hmem, List.append_nil]
  · next hnone =>
    have hnew : i.key ∉ present.map Interaction.key := by
      intro hmem
      obtain ⟨e, he⟩ := exists_first hmem
      rw [hnone] at he
      cases he
    rw [if_neg hnew]

/-- An interaction that does not fit ends the merge. -/
theorem mergeInteractions_of_not_fits {i : Interaction} {is : List Interaction}
    (h : ¬ FitsAt present (i :: is) 0 i) :
    mergeInteractions present (i :: is) = (present, some (.interaction i.description)) := by
  have hpresent : atTurn present (i :: is) 0 = present := List.append_nil present
  rw [FitsAt, hpresent] at h
  push Not at h
  obtain ⟨e, hfound, hdiffers⟩ := h
  rw [mergeInteractions, hfound]
  exact if_neg hdiffers

/-- The first interaction of a list that does not fit at its turn. -/
structure FirstClash (present incoming : List Interaction) (position : Nat) (i : Interaction) :
    Prop where
  here : incoming[position]? = some i
  differs : ¬ FitsAt present incoming position i
  earlier : ∀ k < position, ∀ j, incoming[k]? = some j → FitsAt present incoming k j

/-- A merge adds what is new, all of it or what stands before the first interaction that does not
    fit. -/
theorem mergeInteractions_cases (present incoming : List Interaction) :
    ((∀ position i, incoming[position]? = some i → FitsAt present incoming position i) ∧
      mergeInteractions present incoming = (present ++ additions present incoming, none)) ∨
    ∃ position i, FirstClash present incoming position i ∧
      mergeInteractions present incoming =
        (atTurn present incoming position, some (.interaction i.description)) := by
  induction incoming generalizing present with
  | nil => exact Or.inl ⟨fun _ _ h => by simp at h, by simp [mergeInteractions, additions]⟩
  | cons next incoming ih =>
    by_cases hnext : FitsAt present (next :: incoming) 0 next
    · have hfits : ∀ {position i}, FitsAt present (next :: incoming) (position + 1) i ↔
          FitsAt (present ++ additions present [next]) incoming position i := by
        intro position i
        rw [FitsAt, FitsAt, atTurn_succ]
      rw [mergeInteractions_of_fits hnext]
      rcases ih (present ++ additions present [next]) with
        ⟨hall, hmerge⟩ | ⟨position, i, hclash, hmerge⟩
      · refine Or.inl ⟨fun position i hi => ?_, ?_⟩
        · cases position with
          | zero =>
            cases hi
            exact hnext
          | succ position => exact hfits.2 (hall position i hi)
        · rw [hmerge, additions_cons present next incoming, List.append_assoc]
      · refine Or.inr ⟨position + 1, i, ⟨hclash.here, ?_, fun k hk j hj => ?_⟩, ?_⟩
        · rw [hfits]
          exact hclash.differs
        · cases k with
          | zero =>
            cases hj
            exact hnext
          | succ k => exact hfits.2 (hclash.earlier k (by omega) j hj)
        · rw [hmerge, atTurn_succ]
    · refine Or.inr ⟨0, next, ⟨rfl, hnext, fun k hk => absurd hk (Nat.not_lt_zero k)⟩, ?_⟩
      rw [mergeInteractions_of_not_fits hnext]
      exact congrArg (·, _) (List.append_nil present).symm

/-- After a merge that came to its end every interaction is written as the first one that has its
    key. -/
theorem mergeInteractions_written {result : List Interaction}
    (h : mergeInteractions present incoming = (result, none)) :
    ∀ i ∈ incoming, ∃ e, result.find? (fun e => e.key == i.key) = some e ∧
      (e.toJson == i.toJson) = true := by
  induction incoming generalizing present with
  | nil => exact fun _ hi => nomatch hi
  | cons next incoming ih =>
    rw [mergeInteractions] at h
    split at h
    · next e hfound =>
      split at h
      · next hsame =>
        -- what is found among the present ones is found in the result, which they are in front of
        have hfront := (mergeInteractions_keys h).1
        exact List.forall_mem_cons.2 ⟨⟨e, hfront.find?_eq_some hfound, hsame⟩, ih h⟩
      · cases h
    · next hnone =>
      have hfront := (mergeInteractions_keys h).1
      have hnew : (present ++ [next]).find? (fun e => e.key == next.key) = some next := by
        simp [List.find?_append, hnone]
      exact List.forall_mem_cons.2
        ⟨⟨next, hfront.find?_eq_some hnew, Json.beq_self next.toJson⟩, ih h⟩

/-! ## Merging contracts -/

/-- What a contract is after another one was folded into it. -/
structure Merged (base other merged : Contract) : Prop where
  parties : merged.consumer = base.consumer ∧ merged.provider = base.provider
  interactions : merged.interactions =
    base.interactions ++ additions base.interactions other.interactions
  written : ∀ i ∈ other.interactions,
    ∃ e, merged.interactions.find? (fun e => e.key == i.key) = some e ∧
      (e.toJson == i.toJson) = true
  specVersion : merged.metadata.specVersion = base.metadata.specVersion
  extra : ∀ key, merged.metadata.extra.get? key =
    (other.metadata.extra.get? key).or (base.metadata.extra.get? key)
  again : merged.merge other = (merged, none)

/-- What is left of a contract when another one cannot be folded into it, and why. If that one is
    between other parties nothing is done, and otherwise the interactions before the first that does
    not fit were added. -/
structure Abandoned (base other left : Contract) (conflict : Conflict) : Prop where
  parties : left.consumer = base.consumer ∧ left.provider = base.provider
  metadata : left.metadata = base.metadata
  interactions : base.interactions <+: left.interactions
  otherParties : base.consumer ≠ other.consumer ∨ base.provider ≠ other.provider →
    left = base ∧
      conflict = .parties other.consumer other.provider base.consumer base.provider
  sameParties : base.consumer = other.consumer ∧ base.provider = other.provider →
    ∃ position i, FirstClash base.interactions other.interactions position i ∧
      left.interactions = atTurn base.interactions other.interactions position ∧
      conflict = .interaction i.description

/-- A contract that was folded in once is folded in again without change. -/
theorem merge_again {merged other : Contract}
    (hparties : merged.consumer = other.consumer ∧ merged.provider = other.provider)
    (hwritten : ∀ i ∈ other.interactions,
      ∃ e, merged.interactions.find? (fun e => e.key == i.key) = some e ∧
        (e.toJson == i.toJson) = true)
    (hextra : ∀ entry ∈ other.metadata.extra.toList,
      merged.metadata.extra.get? entry.1 = some entry.2) :
    merged.merge other = (merged, none) := by
  have hsame : ¬ (merged.consumer ≠ other.consumer ∨ merged.provider ≠ other.provider) := by
    simp [hparties]
  have hkeys : ∀ i ∈ other.interactions, i.key ∈ merged.interactions.map Interaction.key := by
    intro i hi
    obtain ⟨e, hfound, -⟩ := hwritten i hi
    have hkey : e.key = i.key := by simpa using List.find?_some hfound
    exact hkey ▸ List.mem_map_of_mem (List.mem_of_find?_eq_some hfound)
  rcases mergeInteractions_present hkeys with ⟨hmerge, -⟩ | ⟨i, hi, e, hfound, hdiffers, -⟩
  · rw [merge, if_neg hsame, hmerge]
    simp only [foldl_insert_present hextra]
  · obtain ⟨e', hfound', hsame'⟩ := hwritten i hi
    rw [hfound] at hfound'
    cases hfound'
    rw [hdiffers] at hsame'
    cases hsame'

/-- How a merge ends, in three cases. -/
theorem merge_cases (base other : Contract) :
    ((base.consumer ≠ other.consumer ∨ base.provider ≠ other.provider) ∧
      base.merge other = (base, some (.parties other.consumer other.provider base.consumer
        base.provider))) ∨
    (base.consumer = other.consumer ∧ base.provider = other.provider) ∧
      ((∃ position i, FirstClash base.interactions other.interactions position i ∧
        base.merge other =
          ({ base with interactions := atTurn base.interactions other.interactions position },
            some (.interaction i.description))) ∨
      (∀ position i, other.interactions[position]? = some i →
        FitsAt base.interactions other.interactions position i) ∧
          ∃ merged, base.merge other = (merged, none) ∧ Merged base other merged) := by
  by_cases hparties : base.consumer ≠ other.consumer ∨ base.provider ≠ other.provider
  · exact Or.inl ⟨hparties, by rw [merge, if_pos hparties]⟩
  · have hsame : base.consumer = other.consumer ∧ base.provider = other.provider := by
      simpa using hparties
    refine Or.inr ⟨hsame, ?_⟩
    rcases mergeInteractions_cases base.interactions other.interactions with
      ⟨hall, hmerge⟩ | ⟨position, i, hclash, hmerge⟩
    · have hwritten := mergeInteractions_written hmerge
      have hextra := get?_overridden base.metadata.extra other.metadata.extra
      refine Or.inr ⟨hall, _, by rw [merge, if_neg hparties, hmerge], ?_⟩
      refine ⟨⟨rfl, rfl⟩, rfl, hwritten, rfl, hextra, merge_again hsame hwritten ?_⟩
      intro entry hentry
      simp only [hextra, Dict.get?_of_mem hentry, Option.some_or]
    · exact Or.inl ⟨position, i, hclash, by rw [merge, if_neg hparties, hmerge]⟩

/-- A merge comes to its end when the parties agree and every interaction fits at its turn; then it
    has added what is new. Otherwise it leaves everything but the list of interactions as it was, and
    that list with what was there in front. -/
theorem merge_outcome (base other : Contract) :
    ((base.merge other).2 = none ↔
      (base.consumer = other.consumer ∧ base.provider = other.provider) ∧
        ∀ position i, other.interactions[position]? = some i →
          FitsAt base.interactions other.interactions position i) ∧
    (∀ merged, base.merge other = (merged, none) → Merged base other merged) ∧
    ∀ left conflict, base.merge other = (left, some conflict) →
      Abandoned base other left conflict := by
  rcases merge_cases base other with
    ⟨hparties, hmerge⟩ | ⟨hsame, ⟨position, i, hclash, hmerge⟩ | ⟨hall, merged, hmerge, hmerged⟩⟩
  · have hdiffer : ¬ (base.consumer = other.consumer ∧ base.provider = other.provider) := by
      simpa [imp_iff_not_or] using hparties
    rw [hmerge]
    refine ⟨iff_of_false (by simp) fun h => hdiffer h.1, fun _ h => by simp at h, ?_⟩
    rintro left conflict ⟨⟩
    exact ⟨⟨rfl, rfl⟩, rfl, List.prefix_refl _, fun _ => ⟨rfl, rfl⟩, fun h => absurd h hdiffer⟩
  · have hagree : ¬ (base.consumer ≠ other.consumer ∨ base.provider ≠ other.provider) := by
      simp [hsame]
    rw [hmerge]
    refine ⟨iff_of_false (by simp) fun h => ?_, fun _ h => by simp at h, ?_⟩
    · exact hclash.differs (h.2 position i hclash.here)
    · rintro left conflict ⟨⟩
      exact ⟨⟨rfl, rfl⟩, rfl, List.prefix_append _ _, fun h => absurd h hagree,
        fun _ => ⟨position, i, hclash, rfl, rfl⟩⟩
  · rw [hmerge]
    refine ⟨iff_of_true rfl ⟨hsame, hall⟩, ?_, fun _ _ h => by simp at h⟩
    rintro _ ⟨⟩
    exact hmerged

/-- A contract with interactions of these descriptions and paths. -/
def described (interactions : List (String × String)) : Contract where
  interactions := interactions.map fun (description, path) => { description, request := { path } }

/-- An interaction that is new is added once, though it stands there twice, and it stays when a later
    one of a known key is found to differ. -/
theorem merge_outcome_described :
    let base := described [("a", "/")]
    let longer := described [("a", "/"), ("b", "/")]
    let repeating := described [("b", "/"), ("a", "/"), ("b", "/")]
    let differing := described [("b", "/"), ("a", "/x")]
    (base.merge repeating = (longer, none) ∧ Merged base repeating longer) ∧
      base.merge differing = (longer, some (.interaction "a")) ∧
        Abandoned base differing longer (.interaction "a") := by
  intro base longer repeating differing
  have hmerge : base.merge repeating = (longer, none) := by rfl
  have hconflict : base.merge differing = (longer, some (.interaction "a")) := by rfl
  obtain ⟨-, hmerged, -⟩ := merge_outcome base repeating
  obtain ⟨-, -, habandoned⟩ := merge_outcome base differing
  exact ⟨⟨hmerge, hmerged longer hmerge⟩, hconflict, habandoned longer _ hconflict⟩

end Contract

end MockProvider
