import MockProvider.Proofs.Lists.Choice
import MockProvider.Proofs.Matching.Lookups

/-!
# Which interaction is selected

An attempt is made at each interaction, and the first one without mismatches is selected, or else the
first of those that come closest. Both are told here by the interactions alone, by their positions in
the contract: `Contract.select_first`.

Where arithmetic is checked the same is selected, if anything is. The selection stops when the weight
of a rule is too large for a word, at an interaction that no earlier match keeps it from.
-/

namespace MockProvider

/-- No interaction comes closer to a request: none matches in more respects, and none that matches
    in as many has fewer mismatches. -/
structure ClosestTo (actual : Request) (is : List Interaction) (i : Interaction) : Prop where
  respects : ∀ j ∈ is, (j.request.facets actual).matching ≤ (i.request.facets actual).matching
  mismatches : ∀ j ∈ is,
    (j.request.facets actual).matching = (i.request.facets actual).matching →
      (i.request.mismatches actual).length ≤ (j.request.mismatches actual).length

namespace Selection

variable {actual : Request} {is : List Interaction}

/-! ## Attempts -/

/-- The attempt at an interaction. -/
def attemptAt (actual : Request) (index : Nat) (i : Interaction) : Attempt :=
  ⟨index, i.request.facets actual⟩

theorem getElem?_attempts (actual : Request) (is : List Interaction) (start k : Nat) :
    (attempts actual start is)[k]? = is[k]?.map (attemptAt actual (start + k)) := by
  induction is generalizing start k with
  | nil => rfl
  | cons i is ih =>
    cases k with
    | zero => rfl
    | succ k =>
      rw [attempts, List.getElem?_cons_succ, List.getElem?_cons_succ, ih, Nat.add_right_comm,
        Nat.add_assoc]

theorem mem_attempts {a : Attempt} :
    a ∈ attempts actual 0 is ↔ ∃ k i, is[k]? = some i ∧ a = attemptAt actual k i := by
  simp only [List.mem_iff_getElem?, getElem?_attempts, Option.map_eq_some_iff, Nat.zero_add,
    @eq_comm _ a]

/-- Where a list of attempts is cut, the attempt there is at the interaction of its index, and those
    before it are at the interactions before that one. -/
theorem attempts_cut {front back : List Attempt} {a : Attempt}
    (h : attempts actual 0 is = front ++ a :: back) :
    ∃ i, is[a.index]? = some i ∧ a = attemptAt actual a.index i ∧
      ∀ k < a.index, ∀ j, is[k]? = some j → attemptAt actual k j ∈ front := by
  have hat : ∀ k, is[k]?.map (attemptAt actual k) = (front ++ a :: back)[k]? := by
    intro k
    rw [← h, getElem?_attempts, Nat.zero_add]
  have hhere := hat front.length
  rw [List.getElem?_append_right (Nat.le_refl _), Nat.sub_self, List.getElem?_cons_zero] at hhere
  obtain ⟨i, hi, rfl⟩ := Option.map_eq_some_iff.1 hhere
  refine ⟨i, hi, rfl, fun k hk j hj => ?_⟩
  have hbefore := hat k
  rw [hj, List.getElem?_append_left hk] at hbefore
  exact List.mem_of_getElem? hbefore.symm

theorem closestOf_eq_firstBest (as : List Attempt) :
    closestOf as = firstBest Attempt.closer as := by
  induction as with
  | nil => rfl
  | cons a as ih =>
    rw [closestOf, ih, firstBest]
    cases firstBest Attempt.closer as <;> rfl

theorem closer_iff {later earlier : Attempt} :
    later.closer earlier = true ↔
      earlier.facets.matching < later.facets.matching ∨
        earlier.facets.matching = later.facets.matching ∧
          later.facets.mismatches.length < earlier.facets.mismatches.length := by
  simp [Attempt.closer]

theorem closer_eq_false_iff {later earlier : Attempt} :
    later.closer earlier = false ↔
      ¬ (earlier.facets.matching < later.facets.matching ∨
        earlier.facets.matching = later.facets.matching ∧
          later.facets.mismatches.length < earlier.facets.mismatches.length) := by
  rw [← closer_iff, Bool.not_eq_true]

theorem closestOf_eq_some {as : List Attempt} {a : Attempt} (h : closestOf as = some a) :
    ∃ front back, as = front ++ a :: back ∧ (∀ b ∈ front, a.closer b = true) ∧
      ∀ b ∈ as, b.closer a = false := by
  rw [closestOf_eq_firstBest] at h
  apply firstBest_eq_some _ _ h
  · intro a b hab
    rw [closer_iff] at hab
    rw [closer_eq_false_iff]
    omega
  · intro a b c hab hbc
    rw [closer_eq_false_iff] at hab hbc ⊢
    omega

/-- An interaction is closest when no attempt comes closer than the one at it. -/
theorem closestTo_iff {index : Nat} {i : Interaction} :
    ClosestTo actual is i ↔
      ∀ a ∈ attempts actual 0 is, a.closer (attemptAt actual index i) = false := by
  constructor
  · intro h a ha
    obtain ⟨k, j, hj, rfl⟩ := mem_attempts.1 ha
    have hrespects := h.respects j (List.mem_of_getElem? hj)
    have hmismatches := h.mismatches j (List.mem_of_getElem? hj)
    simp only [closer_eq_false_iff, attemptAt, Request.mismatches] at *
    omega
  · intro h
    have hnone : ∀ j ∈ is, ¬ ((i.request.facets actual).matching <
        (j.request.facets actual).matching ∨
          (i.request.facets actual).matching = (j.request.facets actual).matching ∧
            (j.request.mismatches actual).length < (i.request.mismatches actual).length) := by
      intro j hj
      obtain ⟨k, hk⟩ := List.mem_iff_getElem?.1 hj
      have hcloser := h _ (mem_attempts.2 ⟨k, j, hk, rfl⟩)
      rw [closer_eq_false_iff] at hcloser
      exact hcloser
    constructor
    · intro j hj
      have hnot := hnone j hj
      omega
    · intro j hj hsame
      have hnot := hnone j hj
      omega

/-! ## What is found among attempts -/

theorem firstAt_of_find? {a : Attempt}
    (h : (attempts actual 0 is).find? (fun a => a.facets.mismatches.isEmpty) = some a) :
    ∃ i, FirstAt (fun i => i.request.mismatches actual = []) is a.index i := by
  obtain ⟨hnone, front, back, hcut, hfront⟩ := List.find?_eq_some_iff_append.1 h
  obtain ⟨i, hi, ha, hbefore⟩ := attempts_cut hcut
  rw [ha] at hnone
  refine ⟨i, hi, List.isEmpty_iff.1 hnone, fun k hk j hj hmatch => ?_⟩
  have hsome := hfront _ (hbefore k hk j hj)
  have hempty : (attemptAt actual k j).facets.mismatches.isEmpty = true := List.isEmpty_iff.2 hmatch
  rw [hempty] at hsome
  cases hsome

theorem firstAt_of_closestOf {a : Attempt} (h : closestOf (attempts actual 0 is) = some a) :
    ∃ i, FirstAt (ClosestTo actual is) is a.index i ∧
      a.facets.mismatches = i.request.mismatches actual := by
  obtain ⟨front, back, hcut, hfront, hall⟩ := closestOf_eq_some h
  obtain ⟨i, hi, ha, hbefore⟩ := attempts_cut hcut
  rw [ha] at hall
  refine ⟨i, ⟨hi, closestTo_iff.2 hall, fun k hk j hj hclosest => ?_⟩, by rw [ha]; rfl⟩
  -- the attempt that was found is closer than the one at an earlier interaction
  have hcloser := hfront _ (hbefore k hk j hj)
  have hmem : a ∈ attempts actual 0 is := by
    rw [hcut]
    exact List.mem_append_right _ List.mem_cons_self
  rw [closestTo_iff.1 hclosest a hmem] at hcloser
  cases hcloser

/-! ## Weights that are too large -/

/-- The comparison with some interaction meets a weight that is too large, and none before it is
    matched. -/
theorem overflows_iff :
    overflows actual is = true ↔ ∃ (index : Nat) (i : Interaction), is[index]? = some i ∧
      i.request.overflows actual = true ∧
      ∀ k < index, ∀ j, is[k]? = some j → j.request.mismatches actual ≠ [] := by
  induction is with
  | nil => simp [overflows]
  | cons i is ih =>
    rw [overflows, Bool.or_eq_true, Bool.and_eq_true, ih, Bool.not_eq_true', List.isEmpty_eq_false_iff]
    constructor
    · rintro (hhere | ⟨hdiffers, index, j, hj, hoverflows, hbefore⟩)
      · exact ⟨0, i, rfl, hhere, fun k hk => absurd hk (Nat.not_lt_zero k)⟩
      · refine ⟨index + 1, j, hj, hoverflows, ?_⟩
        rintro (_ | k) hk other hother
        · obtain rfl := Option.some.inj hother
          exact hdiffers
        · exact hbefore k (Nat.lt_of_succ_lt_succ hk) other hother
    · rintro ⟨_ | index, j, hj, hoverflows, hbefore⟩
      · obtain rfl := Option.some.inj hj
        exact Or.inl hoverflows
      · refine Or.inr ⟨hbefore 0 (Nat.succ_pos _) i rfl, index, j, hj, hoverflows, ?_⟩
        exact fun k hk other hother => hbefore (k + 1) (Nat.succ_lt_succ hk) other hother

end Selection

/-! ## Selections -/

namespace Contract

/-- What is selected, in three cases. -/
theorem select_cases (c : Contract) (actual : Request) :
    (∃ index i, FirstAt (fun i => i.request.mismatches actual = []) c.interactions index i ∧
      c.select actual = .matched index) ∨
    ((∀ i ∈ c.interactions, i.request.mismatches actual ≠ []) ∧
      ∃ index i, FirstAt (ClosestTo actual c.interactions) c.interactions index i ∧
        c.select actual = .closest index (i.request.mismatches actual)) ∨
    c.interactions = [] ∧ c.select actual = .notFound := by
  rw [select, Selection.ofAttempts]
  cases hfind : (Selection.attempts actual 0 c.interactions).find?
      (fun a => a.facets.mismatches.isEmpty) with
  | some a =>
    obtain ⟨i, hi⟩ := Selection.firstAt_of_find? hfind
    exact Or.inl ⟨a.index, i, hi, rfl⟩
  | none =>
    have hsome : ∀ i ∈ c.interactions, i.request.mismatches actual ≠ [] := by
      intro i hi hnone
      obtain ⟨k, hk⟩ := List.mem_iff_getElem?.1 hi
      have hempty : (i.request.mismatches actual).isEmpty = true := List.isEmpty_iff.2 hnone
      exact List.find?_eq_none.1 hfind _ (Selection.mem_attempts.2 ⟨k, i, hk, rfl⟩) hempty
    cases hbest : Selection.closestOf (Selection.attempts actual 0 c.interactions) with
    | some a =>
      obtain ⟨i, hi, hmismatches⟩ := Selection.firstAt_of_closestOf hbest
      refine Or.inr (Or.inl ⟨hsome, a.index, i, hi, ?_⟩)
      exact congrArg (Selection.closest a.index) hmismatches
    | none =>
      rw [Selection.closestOf_eq_firstBest, firstBest_eq_none_iff] at hbest
      refine Or.inr (Or.inr ⟨?_, rfl⟩)
      cases hc : c.interactions with
      | nil => rfl
      | cons i is =>
        rw [hc] at hbest
        cases hbest

variable {c : Contract} {actual : Request} {index : Nat}

theorem select_eq_matched_iff :
    c.select actual = .matched index ↔
      ∃ i, FirstAt (fun i => i.request.mismatches actual = []) c.interactions index i := by
  rcases c.select_cases actual with
    ⟨position, i, hfirst, hselect⟩ | ⟨hsome, position, i, hfirst, hselect⟩ | ⟨hnone, hselect⟩
  · rw [hselect, Selection.matched.injEq]
    constructor
    · rintro rfl
      exact ⟨i, hfirst⟩
    · rintro ⟨j, hj⟩
      exact (hfirst.unique hj).1
  · rw [hselect]
    refine iff_of_false (by simp) ?_
    rintro ⟨j, hj⟩
    exact hsome j hj.mem hj.holds
  · rw [hselect]
    refine iff_of_false (by simp) ?_
    rintro ⟨j, hj⟩
    have hmem := hj.mem
    simp [hnone] at hmem

theorem select_eq_notFound_iff : c.select actual = .notFound ↔ c.interactions = [] := by
  rcases c.select_cases actual with
    ⟨position, i, hfirst, hselect⟩ | ⟨-, position, i, hfirst, hselect⟩ | ⟨hnone, hselect⟩
  · simp [hselect, List.ne_nil_of_mem hfirst.mem]
  · simp [hselect, List.ne_nil_of_mem hfirst.mem]
  · simp [hselect, hnone]

/-- A request without mismatches selects the interaction that it matches, or an earlier one. -/
theorem select_eq_matched {i : Interaction} (hi : c.interactions[index]? = some i)
    (h : i.request.mismatches actual = []) : ∃ j ≤ index, c.select actual = .matched j := by
  rcases c.select_cases actual with
    ⟨position, _, hfirst, hselect⟩ | ⟨hsome, -⟩ | ⟨hnone, -⟩
  · exact ⟨position, hfirst.le hi h, hselect⟩
  · exact absurd h (hsome i (List.mem_of_getElem? hi))
  · simp [hnone] at hi

theorem selectChecked_eq_none_iff :
    c.selectChecked actual = none ↔ Selection.overflows actual c.interactions = true := by
  rw [selectChecked]
  split <;> simp [*]

theorem selectChecked_eq_some {selected : Selection} (h : c.selectChecked actual = some selected) :
    selected = c.select actual := by
  rw [selectChecked] at h
  split at h
  · cases h
  · exact (Option.some.inj h).symm

theorem selectChecked_of_lengths
    (h : ∀ i ∈ c.interactions, ∀ e ∈ i.request.rules.body, e.path.length < 64) :
    c.selectChecked actual = some (c.select actual) := by
  refine if_neg fun hoverflows => ?_
  obtain ⟨index, i, hi, hlarge, -⟩ := Selection.overflows_iff.1 hoverflows
  rw [Request.overflows_of_lengths (h i (List.mem_of_getElem? hi))] at hlarge
  cases hlarge

/-- A request selects the first interaction that it matches. Where it matches none it selects the
    first of those that come closest, with the mismatches there, and only where there is no
    interaction it selects nothing.

    Where arithmetic is checked the selection stops exactly if comparing the request with some
    interaction, none before which it matches, meets a weight that is too large for a word; rules of
    fewer than 64 steps have none. It selects the same otherwise. -/
theorem select_first (c : Contract) (actual : Request) :
    (∀ index, c.select actual = .matched index ↔
      ∃ i, FirstAt (fun i => i.request.mismatches actual = []) c.interactions index i) ∧
    ((∃ index mismatches, c.select actual = .closest index mismatches) ↔
      c.interactions ≠ [] ∧ ∀ i ∈ c.interactions, i.request.mismatches actual ≠ []) ∧
    (∀ index mismatches, c.select actual = .closest index mismatches →
      ∃ i, FirstAt (ClosestTo actual c.interactions) c.interactions index i ∧
        mismatches = i.request.mismatches actual) ∧
    (c.select actual = .notFound ↔ c.interactions = []) ∧
    (c.selectChecked actual = none ↔ ∃ (index : Nat) (i : Interaction),
      c.interactions[index]? = some i ∧ i.request.overflows actual = true ∧
      ∀ k < index, ∀ j, c.interactions[k]? = some j → j.request.mismatches actual ≠ []) ∧
    (∀ selected, c.selectChecked actual = some selected → selected = c.select actual) ∧
    ((∀ i ∈ c.interactions, ∀ e ∈ i.request.rules.body, e.path.length < 64) →
      c.selectChecked actual = some (c.select actual)) := by
  refine ⟨fun _ => select_eq_matched_iff, ?_, ?_, select_eq_notFound_iff,
    selectChecked_eq_none_iff.trans Selection.overflows_iff, fun _ => selectChecked_eq_some,
    selectChecked_of_lengths⟩
  · rcases c.select_cases actual with
      ⟨_, i, hfirst, hselect⟩ | ⟨hsome, index, i, hfirst, hselect⟩ | ⟨hnone, hselect⟩
    · rw [hselect]
      exact iff_of_false (by simp) fun h => h.2 i hfirst.mem hfirst.holds
    · exact iff_of_true ⟨index, _, hselect⟩ ⟨List.ne_nil_of_mem hfirst.mem, hsome⟩
    · rw [hselect]
      exact iff_of_false (by simp) fun h => h.1 hnone
  · intro index mismatches hclosest
    rcases c.select_cases actual with
      ⟨_, _, _, hselect⟩ | ⟨-, _, i, hfirst, hselect⟩ | ⟨-, hselect⟩
    · simp [hselect] at hclosest
    · rw [hselect, Selection.closest.injEq] at hclosest
      obtain ⟨rfl, rfl⟩ := hclosest
      exact ⟨i, hfirst, rfl⟩
    · simp [hselect] at hclosest

/-- Three requests for other paths, the first one with another method too. -/
def otherPaths : Contract where
  interactions :=
    [{ request := { method := "POST", path := "/a" } }, { request := { path := "/a" } },
      { request := { path := "/b" } }]

/-- The second and the third are equally close, and the second is selected. -/
theorem select_first_otherPaths :
    let actual : Request := { path := "/x" }
    (otherPaths.interactions ≠ [] ∧
      ∀ i ∈ otherPaths.interactions, i.request.mismatches actual ≠ []) ∧
    (∀ i ∈ otherPaths.interactions, ∀ e ∈ i.request.rules.body, e.path.length < 64) ∧
    ∃ i, FirstAt (ClosestTo actual otherPaths.interactions) otherPaths.interactions 1 i ∧
      otherPaths.select actual = .closest 1 (i.request.mismatches actual) ∧
      otherPaths.selectChecked actual = some (.closest 1 (i.request.mismatches actual)) := by
  intro actual
  have hsome : otherPaths.interactions ≠ [] ∧
      ∀ i ∈ otherPaths.interactions, i.request.mismatches actual ≠ [] := by
    refine ⟨List.cons_ne_nil _ _, fun i hi => ?_⟩
    have hall : (otherPaths.interactions.all fun i =>
        !(i.request.mismatches actual).isEmpty) = true := by decide +kernel
    simpa using List.all_eq_true.1 hall i hi
  have hshort : ∀ i ∈ otherPaths.interactions, ∀ e ∈ i.request.rules.body, e.path.length < 64 := by
    decide
  obtain ⟨-, hexists, hclosest, -, -, -, hchecked⟩ := otherPaths.select_first actual
  obtain ⟨index, mismatches, hselect⟩ := hexists.2 hsome
  obtain ⟨i, hfirst, rfl⟩ := hclosest index mismatches hselect
  have hindex : (match otherPaths.select actual with
      | .closest index _ => index
      | _ => 0) = 1 := by decide +kernel
  rw [hselect] at hindex
  obtain rfl : index = 1 := hindex
  exact ⟨hsome, hshort, i, hfirst, hselect, hselect ▸ hchecked hshort⟩

/-- The weight of a rule with 64 exact steps is too large for a word. Where arithmetic is checked the
    selection stops; where it is not, the weight wraps around and the other rule counts. -/
example :
    let body (n : Nat) : Body :=
      .ofContract (some ((List.range 63).foldr (fun _ inner => .array [inner]) (.ofNat n))) none
    let rules : RuleTable :=
      { body := [⟨⟨List.replicate 63 (.index 0)⟩, .single .equality⟩,
          ⟨⟨.anyIndex :: List.replicate 62 (.index 0)⟩, .single .type⟩] }
    let c : Contract := { interactions := [{ request := { body := body 1, rules } }] }
    let actual : Request := { body := body 2 }
    (c.selectChecked actual).isNone = true ∧
      c.interactions.all (fun i => (i.request.mismatches actual).isEmpty) = true := by
  decide +kernel

end Contract

end MockProvider
