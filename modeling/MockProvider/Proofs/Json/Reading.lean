import MockProvider.Json.Parser
import MockProvider.Proofs.Json.Shape

/-!
# What the reader of documents gives

A value that was read has its members in ascending order, in every object inside, and its containers
nest no deeper than the reader allows. The reader looks at the octets through one case distinction,
`valueWith_cases`; all else follows from what the readers of items and members hand on.
-/

namespace MockProvider

theorem ok_of_toBool {ε α : Type} {x : Except ε α} (h : x.toBool = true) : ∃ a, x = .ok a := by
  cases x with
  | error e => cases h
  | ok a => exact ⟨a, rfl⟩

/-- A sequence of two steps succeeds when both do. -/
theorem bind_eq_ok {ε α β : Type} {x : Except ε α} {f : α → Except ε β} {b : β} :
    (x >>= f) = .ok b ↔ ∃ a, x = .ok a ∧ f a = .ok b := by
  cases x with
  | error e => simp [bind, Except.bind]
  | ok a => simp [bind, Except.bind]

theorem map_eq_ok {ε α β : Type} {x : Except ε α} {f : α → β} {b : β} :
    x.map f = .ok b ↔ ∃ a, x = .ok a ∧ f a = b := by
  cases x with
  | error e => simp [Except.map]
  | ok a => simp [Except.map]

theorem bind_eq_error {ε α β : Type} {x : Except ε α} {f : α → Except ε β} {e : ε} :
    (x >>= f) = .error e ↔ x = .error e ∨ ∃ a, x = .ok a ∧ f a = .error e := by
  cases x with
  | error e' => simp [bind, Except.bind]
  | ok a => simp [bind, Except.bind]

theorem map_eq_error {ε α β : Type} {x : Except ε α} {f : α → β} {e : ε} :
    x.map f = .error e ↔ x = .error e := by
  cases x with
  | error e' => simp [Except.map]
  | ok a => simp [Except.map]

namespace Json

/-! ## Readers of parts -/

section Parts

variable {P : Json → Prop} {item : ValueReader}

theorem moreItems_forall (hitem : ∀ input v rest, item input = .ok (v, rest) → P v) :
    ∀ {fuel : Nat} {input rest : Bytes} {values : List Json},
      moreItems item fuel input = .ok (values, rest) → ∀ v ∈ values, P v := by
  intro fuel
  induction fuel with
  | zero => intro input rest values h; cases h
  | succ fuel ih =>
    intro input rest values h
    rw [moreItems] at h
    split at h
    · cases h
    · split at h
      · cases h
        simp
      · split at h
        · split at h
          · cases h
          · split at h
            · cases h
            · obtain ⟨⟨v, after⟩, hv, h⟩ := bind_eq_ok.1 h
              obtain ⟨⟨vs, after'⟩, hvs, h⟩ := bind_eq_ok.1 h
              cases h
              exact List.forall_mem_cons.2 ⟨hitem _ _ _ hv, ih hvs⟩
        · cases h

theorem items_forall (hitem : ∀ input v rest, item input = .ok (v, rest) → P v)
    {input rest : Bytes} {values : List Json} (h : items item input = .ok (values, rest)) :
    ∀ v ∈ values, P v := by
  rw [items] at h
  split at h
  · cases h
  · split at h
    · cases h
      simp
    · obtain ⟨⟨v, after⟩, hv, h⟩ := bind_eq_ok.1 h
      obtain ⟨⟨vs, after'⟩, hvs, h⟩ := bind_eq_ok.1 h
      cases h
      exact List.forall_mem_cons.2 ⟨hitem _ _ _ hv, moreItems_forall hitem hvs⟩

theorem member_value (hitem : ∀ input v rest, item input = .ok (v, rest) → P v)
    {input rest : Bytes} {pair : String × Json}
    (h : member (fun _ => item) input = .ok (pair, rest)) : P pair.2 := by
  obtain ⟨⟨key, r₁⟩, _, h⟩ := bind_eq_ok.1 h
  obtain ⟨r₂, _, h⟩ := bind_eq_ok.1 h
  obtain ⟨⟨v, r₃⟩, hv, h⟩ := bind_eq_ok.1 h
  cases h
  exact hitem _ _ _ hv

theorem moreMembers_forall (hitem : ∀ input v rest, item input = .ok (v, rest) → P v) :
    ∀ {fuel : Nat} {input rest : Bytes} {pairs : List (String × Json)},
      moreMembers (fun _ => item) fuel input = .ok (pairs, rest) → ∀ pair ∈ pairs, P pair.2 := by
  intro fuel
  induction fuel with
  | zero => intro input rest pairs h; cases h
  | succ fuel ih =>
    intro input rest pairs h
    rw [moreMembers] at h
    split at h
    · cases h
    · split at h
      · cases h
        simp
      · split at h
        · split at h
          · cases h
          · split at h
            · obtain ⟨⟨pair, after⟩, hp, h⟩ := bind_eq_ok.1 h
              obtain ⟨⟨ps, after'⟩, hps, h⟩ := bind_eq_ok.1 h
              cases h
              exact List.forall_mem_cons.2 ⟨member_value hitem hp, ih hps⟩
            · split at h <;> cases h
        · cases h

theorem members_forall (hitem : ∀ input v rest, item input = .ok (v, rest) → P v)
    {input rest : Bytes} {pairs : List (String × Json)}
    (h : members (fun _ => item) input = .ok (pairs, rest)) : ∀ pair ∈ pairs, P pair.2 := by
  rw [members] at h
  split at h
  · cases h
  · split at h
    · cases h
      simp
    · split at h
      · obtain ⟨⟨pair, after⟩, hp, h⟩ := bind_eq_ok.1 h
        obtain ⟨⟨ps, after'⟩, hps, h⟩ := bind_eq_ok.1 h
        cases h
        exact List.forall_mem_cons.2 ⟨member_value hitem hp, moreMembers_forall hitem hps⟩
      · cases h

end Parts

/-! ## Values -/

/-- What a value can be that was read: one without parts, or a container whose parts were read by
    the reader for what is inside. -/
theorem valueWith_cases {nested : Option ValueReader} {input rest : Bytes} {v : Json}
    (h : valueWith nested input = .ok (v, rest)) :
    (v.depth = 0 ∧ v.Ordered) ∨
    (∃ item inner values, nested = some item ∧ v = .array values ∧
      items item inner = .ok (values, rest)) ∨
    (∃ item inner pairs, nested = some item ∧ v = ofMembers pairs ∧
      members (fun _ => item) inner = .ok (pairs, rest)) := by
  rw [valueWith] at h
  split at h
  · cases h
  · repeat' split at h
    -- one case for each octet that a value begins with
    all_goals
      first
        | (obtain ⟨r, _, h⟩ := bind_eq_ok.1 h
           cases h
           exact Or.inl ⟨rfl, trivial⟩)
        | (cases h)
        | (obtain ⟨⟨values, r⟩, hvs, h⟩ := bind_eq_ok.1 h
           cases h
           first
             | exact Or.inr (Or.inl ⟨_, _, _, rfl, rfl, hvs⟩)
             | exact Or.inr (Or.inr ⟨_, _, _, rfl, rfl, hvs⟩))

theorem ordered_ofMembers {pairs : List (String × Json)} (h : ∀ pair ∈ pairs, pair.2.Ordered) :
    (ofMembers pairs).Ordered :=
  ⟨Assoc.ascending_ofList pairs, orderedMembers_iff.2 fun member hm => h member (Assoc.mem_ofList hm)⟩

theorem depth_ofMembers_le {pairs : List (String × Json)} {d : Nat}
    (h : ∀ pair ∈ pairs, pair.2.depth ≤ d) : (ofMembers pairs).depth ≤ d + 1 :=
  Nat.succ_le_succ (depthMembers_le_iff.2 fun member hm => h member (Assoc.mem_ofList hm))

theorem value_shape : ∀ {d : Nat} {input rest : Bytes} {v : Json},
    value d input = .ok (v, rest) → v.Ordered ∧ v.depth ≤ d
  -- the induction is on the depth that is left; at zero no container is read
  | 0, _, _, _, h => by
    rcases valueWith_cases h with ⟨hd, ho⟩ | ⟨_, _, _, hn, _⟩ | ⟨_, _, _, hn, _⟩
    · exact ⟨ho, by omega⟩
    · cases hn
    · cases hn
  | d + 1, _, _, _, h => by
    rcases valueWith_cases h with ⟨hd, ho⟩ | ⟨_, _, _, hn, rfl, hvs⟩ | ⟨_, _, _, hn, rfl, hps⟩
    · exact ⟨ho, by omega⟩
    · cases hn
      have hparts := items_forall (fun _ _ _ hv => value_shape hv) hvs
      exact ⟨orderedItems_iff.2 fun v hv => (hparts v hv).1,
        Nat.succ_le_succ (depthItems_le_iff.2 fun v hv => (hparts v hv).2)⟩
    · cases hn
      have hparts := members_forall (fun _ _ _ hv => value_shape hv) hps
      exact ⟨ordered_ofMembers fun pair hp => (hparts pair hp).1,
        depth_ofMembers_le fun pair hp => (hparts pair hp).2⟩

/-- Documents that were read are ordered and nest no deeper than the reader allows. -/
theorem parse_shape {input : Bytes} {v : Json} (h : parse input = .ok v) :
    v.Ordered ∧ v.depth ≤ maxDepth := by
  rw [parse, document] at h
  split at h
  · cases h
  · next hv =>
    split at h
    · cases h
      exact value_shape hv
    · cases h

end Json

end MockProvider
