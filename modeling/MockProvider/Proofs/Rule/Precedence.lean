import MockProvider.Proofs.Rule.Resolution

/-!
# Which entry governs a place

The search for rules compares products of weights. What it finds can be told without them: an entry
applies to a place when its expression fits the leading steps of the place and is as long, or its
list cascades; of the entries that apply the longest counts, then the one with the most exact steps,
then the one declared first: `resolve_governs`.

The two agree since a product of weights is a power of two, with the number of exact steps as its
exponent: `product_eq_some_iff`. The weights are words, and equal to these products as long as none
of them is too large: `overflowsAgainst_iff`. Expressions of fewer than 64 steps never get there.
-/

namespace MockProvider

/-! ## Expressions that fit -/

namespace DocPath

/-- A step of an expression covers a step of a place: an exact step covers itself, and a wildcard any
    child or any item. -/
inductive Step.Covers : Step → Step → Prop
  | field (name : String) : Covers (.field name) (.field name)
  | index (position : Nat) : Covers (.index position) (.index position)
  | childField (name : String) : Covers .anyChild (.field name)
  | childIndex (position : Nat) : Covers .anyChild (.index position)
  | anyIndex (position : Nat) : Covers .anyIndex (.index position)

def Step.isExact : Step → Bool
  | .field _ => true
  | .index _ => true
  | .anyChild => false
  | .anyIndex => false

/-- The number of exact steps, that to the root included. -/
def exactSteps (p : DocPath) : Nat :=
  p.steps.countP Step.isExact + 1

/-- The beginning of a path, with so many steps below the root. -/
def upTo (p : DocPath) (count : Nat) : DocPath :=
  ⟨p.steps.take count⟩

/-- An expression fits a place when its steps cover the leading ones of the place, one by one. -/
def Fits (expression place : DocPath) : Prop :=
  ∃ leading, leading <+: place.steps ∧ List.Forall₂ Step.Covers expression.steps leading

theorem Fits.length_le {expression place : DocPath} (h : expression.Fits place) :
    expression.length ≤ place.length := by
  obtain ⟨leading, hleading, hcovers⟩ := h
  rw [length, length, hcovers.length_eq]
  exact Nat.succ_le_succ hleading.length_le

theorem Step.weight_eq_some_iff {e a : Step} {w : UInt64} :
    e.weight a = some w ↔ e.Covers a ∧ w = if e.isExact then 2 else 1 := by
  constructor
  · intro h
    cases e <;> cases a <;> simp only [Step.weight, reduceCtorEq, Option.ite_none_right_eq_some,
      Option.some.injEq] at h
    · obtain ⟨rfl, rfl⟩ := h
      exact ⟨.field _, rfl⟩
    · obtain ⟨rfl, rfl⟩ := h
      exact ⟨.index _, rfl⟩
    · exact ⟨.childField _, h.symm⟩
    · exact ⟨.childIndex _, h.symm⟩
    · exact ⟨.anyIndex _, h.symm⟩
  · rintro ⟨hcovers, rfl⟩
    cases hcovers with
    | field | index => exact if_pos rfl
    | childField | childIndex | anyIndex => rfl

/-! ## Products of weights -/

/-- The product of the weights of the steps, as a number without bound. -/
def stepsProduct : List Step → List Step → Option Nat
  | [], _ => some 1
  | _ :: _, [] => none
  | e :: es, a :: as =>
    match e.weight a, stepsProduct es as with
    | some w, some v => some (w.toNat * v)
    | _, _ => none

/-- What the weight of an expression would be if numbers had no bound. -/
def product (expression place : DocPath) : Option Nat :=
  (stepsProduct expression.steps place.steps).map (2 * ·)

theorem stepsProduct_cons_eq_some_iff {e a : Step} {es as : List Step} {w : Nat} :
    stepsProduct (e :: es) (a :: as) = some w ↔
      ∃ u, e.weight a = some u ∧ ∃ v, stepsProduct es as = some v ∧ u.toNat * v = w := by
  rw [stepsProduct]
  cases e.weight a <;> cases stepsProduct es as <;> simp

theorem pow_exactSteps_cons (e : Step) (es : List Step) :
    (if e.isExact then 2 else 1 : UInt64).toNat * Nat.pow 2 (es.countP Step.isExact) =
      Nat.pow 2 ((e :: es).countP Step.isExact) := by
  cases hexact : e.isExact with
  | true => simp [hexact, Nat.pow_succ, Nat.mul_comm]
  | false => simp [hexact]

/-- The product of the weights tells whether all steps fit, and how many of them are exact. -/
theorem stepsProduct_eq_some_iff {es as : List Step} {w : Nat} :
    stepsProduct es as = some w ↔
      (∃ leading, leading <+: as ∧ List.Forall₂ Step.Covers es leading) ∧
        w = Nat.pow 2 (es.countP Step.isExact) := by
  induction es generalizing as w with
  | nil =>
    have hfits : ∃ leading, leading <+: as ∧ List.Forall₂ Step.Covers [] leading :=
      ⟨[], List.nil_prefix, .nil⟩
    simp only [stepsProduct, Option.some.injEq, and_iff_right hfits]
    exact eq_comm
  | cons e es ih =>
    cases as with
    | nil =>
      refine iff_of_false (by simp [stepsProduct]) ?_
      rintro ⟨⟨leading, hleading, hcovers⟩, -⟩
      rw [List.prefix_nil.1 hleading] at hcovers
      cases hcovers
    | cons a as =>
      rw [stepsProduct_cons_eq_some_iff]
      constructor
      · rintro ⟨u, hu, v, hv, rfl⟩
        obtain ⟨hfirst, rfl⟩ := Step.weight_eq_some_iff.1 hu
        obtain ⟨⟨leading, hleading, hrest⟩, rfl⟩ := ih.1 hv
        have hcons : a :: leading <+: a :: as := List.cons_prefix_cons.2 ⟨rfl, hleading⟩
        exact ⟨⟨a :: leading, hcons, .cons hfirst hrest⟩, pow_exactSteps_cons e es⟩
      · rintro ⟨⟨leading, hleading, hcovers⟩, rfl⟩
        cases hcovers with
        | @cons _ b _ leading hfirst hrest =>
          obtain ⟨rfl, htail⟩ := List.cons_prefix_cons.1 hleading
          exact ⟨_, Step.weight_eq_some_iff.2 ⟨hfirst, rfl⟩, _, ih.2 ⟨⟨leading, htail, hrest⟩, rfl⟩,
            pow_exactSteps_cons e es⟩

/-- The product is there exactly where the expression fits, a two for each exact step. -/
theorem product_eq_some_iff {expression place : DocPath} {w : Nat} :
    expression.product place = some w ↔
      expression.Fits place ∧ w = Nat.pow 2 expression.exactSteps := by
  rw [product, Option.map_eq_some_iff]
  constructor
  · rintro ⟨v, hv, rfl⟩
    obtain ⟨hfits, rfl⟩ := stepsProduct_eq_some_iff.1 hv
    exact ⟨hfits, Nat.mul_comm _ _⟩
  · rintro ⟨hfits, rfl⟩
    exact ⟨_, stepsProduct_eq_some_iff.2 ⟨hfits, rfl⟩, Nat.mul_comm _ _⟩

theorem exactSteps_upTo_le (p : DocPath) (count : Nat) : (p.upTo count).exactSteps ≤ p.length :=
  Nat.succ_le_succ (Nat.le_trans List.countP_le_length (List.take_prefix _ _).length_le)

/-- Every product on the way to the weight of an expression of fewer than 64 steps fits a word. -/
theorem product_upTo_lt {p place : DocPath} (h : p.length < 64) {count w : Nat}
    (hw : (p.upTo count).product place = some w) : w < UInt64.size := by
  have hexact : (p.upTo count).exactSteps < 64 :=
    Nat.lt_of_le_of_lt (exactSteps_upTo_le p count) h
  rw [(product_eq_some_iff.1 hw).2]
  exact Nat.pow_lt_pow_right (by decide) hexact

/-! ## Weights in words -/

theorem stepsWeight_eq (weight : UInt64) (es as : List Step) :
    (stepsWeight weight es as).map UInt64.toNat =
      (stepsProduct es as).map fun v => weight.toNat * v % UInt64.size := by
  induction es generalizing weight as with
  | nil => simp [stepsWeight, stepsProduct, Nat.mod_eq_of_lt weight.toNat_lt_size]
  | cons e es ih =>
    cases as with
    | nil => rfl
    | cons a as =>
      rw [stepsWeight, stepsProduct]
      cases e.weight a with
      | none => rfl
      | some w =>
        simp only [ih]
        cases stepsProduct es as with
        | none => rfl
        | some v =>
          rw [Option.map_some, Option.map_some, UInt64.toNat_mul]
          exact congrArg some (by rw [Nat.mod_mul_mod, Nat.mul_assoc])

/-- A weight is the product, as much of it as fits a word. -/
theorem weightAgainst_eq (expression place : DocPath) :
    expression.weightAgainst place = (expression.product place).map (· % UInt64.size) := by
  rw [weightAgainst, stepsWeight_eq, product, Option.map_map]
  rfl

/-- An expression has a weight exactly where it fits. -/
theorem weightAgainst_eq_some_iff {expression place : DocPath} {w : Nat} :
    expression.weightAgainst place = some w ↔
      expression.Fits place ∧ w = Nat.pow 2 expression.exactSteps % UInt64.size := by
  rw [weightAgainst_eq, Option.map_eq_some_iff]
  constructor
  · rintro ⟨v, hv, rfl⟩
    obtain ⟨hfits, rfl⟩ := product_eq_some_iff.1 hv
    exact ⟨hfits, rfl⟩
  · rintro ⟨hfits, rfl⟩
    exact ⟨_, product_eq_some_iff.2 ⟨hfits, rfl⟩, rfl⟩

/-- No steps leave a weight as it is, and so a word. -/
theorem lt_size_of_no_steps {weight : UInt64} {as : List Step} {v : Nat}
    (hv : stepsProduct [] as = some v) : weight.toNat * v < UInt64.size := by
  cases hv
  rw [Nat.mul_one]
  exact weight.toNat_lt_size

theorem stepsOverflow_iff {weight : UInt64} {es as : List Step} :
    stepsOverflow weight es as = true ↔
      ∃ count v, stepsProduct (es.take count) as = some v ∧ UInt64.size ≤ weight.toNat * v := by
  induction es generalizing weight as with
  | nil =>
    refine iff_of_false (by simp [stepsOverflow]) ?_
    rintro ⟨count, v, hv, hlarge⟩
    rw [List.take_nil] at hv
    exact absurd hlarge (Nat.not_le.2 (lt_size_of_no_steps hv))
  | cons e es ih =>
    cases as with
    | nil =>
      refine iff_of_false (by simp [stepsOverflow]) ?_
      rintro ⟨_ | count, v, hv, hlarge⟩
      · exact absurd hlarge (Nat.not_le.2 (lt_size_of_no_steps hv))
      · cases hv
    | cons a as =>
      cases hfits : e.weight a with
      | none =>
        refine iff_of_false (by simp [stepsOverflow, hfits]) ?_
        rintro ⟨_ | count, v, hv, hlarge⟩
        · exact absurd hlarge (Nat.not_le.2 (lt_size_of_no_steps hv))
        · obtain ⟨u, hu, -⟩ := stepsProduct_cons_eq_some_iff.1 hv
          rw [hfits] at hu
          cases hu
      | some w =>
        have hword : ¬ UInt64.size ≤ weight.toNat * w.toNat →
            (weight * w).toNat = weight.toNat * w.toNat := fun hsmall => by
          rw [UInt64.toNat_mul]
          exact Nat.mod_eq_of_lt (Nat.not_le.1 hsmall)
        -- while a product fits, the word is the product, and the steps left go on from there
        simp only [stepsOverflow, hfits, Bool.or_eq_true, decide_eq_true_iff, ih,
          or_iff_not_imp_left]
        constructor
        · intro h
          by_cases hlarge : UInt64.size ≤ weight.toNat * w.toNat
          · exact ⟨1, w.toNat, stepsProduct_cons_eq_some_iff.2 ⟨w, hfits, 1, rfl, Nat.mul_one _⟩,
              hlarge⟩
          · obtain ⟨count, v, hv, hrest⟩ := h hlarge
            rw [hword hlarge, Nat.mul_assoc] at hrest
            exact ⟨count + 1, _, stepsProduct_cons_eq_some_iff.2 ⟨w, hfits, v, hv, rfl⟩, hrest⟩
        · rintro ⟨_ | count, v, hv, hlarge⟩ hsmall
          · exact absurd hlarge (Nat.not_le.2 (lt_size_of_no_steps hv))
          · obtain ⟨u, hu, rest, hrest, rfl⟩ := stepsProduct_cons_eq_some_iff.1 hv
            obtain rfl := Option.some.inj (hfits.symm.trans hu)
            rw [← Nat.mul_assoc, ← hword hsmall] at hlarge
            exact ⟨count, rest, hrest, hlarge⟩

/-- A weight wraps around on the way where the expression is no longer than the place, and some of
    its leading steps fit and have a product that is too large. -/
theorem overflowsAgainst_iff {expression place : DocPath} :
    expression.overflowsAgainst place = true ↔ expression.length ≤ place.length ∧
      ∃ count w, (expression.upTo count).product place = some w ∧ UInt64.size ≤ w := by
  rw [overflowsAgainst, Bool.and_eq_true, decide_eq_true_iff, stepsOverflow_iff]
  refine and_congr_right fun _ => exists_congr fun count => ?_
  constructor
  · rintro ⟨v, hv, hlarge⟩
    exact ⟨2 * v, by rw [product, upTo, hv, Option.map_some], hlarge⟩
  · rintro ⟨w, hw, hlarge⟩
    obtain ⟨v, hv, rfl⟩ := Option.map_eq_some_iff.1 hw
    exact ⟨v, hv, hlarge⟩

/-- With the root and 63 items a path is weighed against itself: the product is 2 ^ 64. -/
example :
    let deep : DocPath := ⟨List.replicate 63 (.index 0)⟩
    deep.overflowsAgainst deep = true ∧ deep.weightAgainst deep = some 0 := by
  decide +kernel

theorem overflowsAgainst_of_length {expression : DocPath} (h : expression.length < 64)
    (place : DocPath) : expression.overflowsAgainst place = false := by
  rw [Bool.eq_false_iff]
  intro hoverflows
  obtain ⟨-, count, w, hw, hlarge⟩ := overflowsAgainst_iff.1 hoverflows
  exact absurd hlarge (Nat.not_le.2 (product_upTo_lt h hw))

/-- Where nothing wraps around the weight counts the exact steps. -/
theorem weight_of_exact {expression place : DocPath} {w : Nat}
    (hexact : expression.overflowsAgainst place = false)
    (hw : expression.weightAgainst place = some w) : w = Nat.pow 2 expression.exactSteps := by
  obtain ⟨hfits, rfl⟩ := weightAgainst_eq_some_iff.1 hw
  refine Nat.mod_eq_of_lt (Nat.not_le.1 fun hlarge => ?_)
  have hall : expression.upTo expression.steps.length = expression :=
    congrArg DocPath.mk List.take_length
  rw [overflowsAgainst_iff.2 ⟨hfits.length_le, expression.steps.length, _,
    by rw [hall]; exact product_eq_some_iff.2 ⟨hfits, rfl⟩, hlarge⟩] at hexact
  cases hexact

end DocPath

/-! ## Entries that apply -/

/-- A rule that asks for a type, alone or with bounds. -/
inductive Rule.OnType : Rule → Prop
  | type : OnType .type
  | minMax (least most : Option UInt64) : OnType (.minMax least most)

theorem Rule.cascades_iff {rule : Rule} : rule.cascades = true ↔ rule.OnType := by
  constructor
  · intro h
    cases rule with
    | type => exact .type
    | minMax least most => exact .minMax least most
    | equality | regex | contains => cases h
  · rintro (_ | _) <;> rfl

instance : DecidablePred Rule.OnType := fun _ => decidable_of_iff _ Rule.cascades_iff

namespace RuleTable

/-- The expression fits and is as long as the place, or it fits a place above and the list has a rule
    on types. -/
def Applies (place : DocPath) (e : RuleEntry) : Prop :=
  e.path.Fits place ∧ (e.path.length = place.length ∨ ∃ rule ∈ e.list.rules, rule.OnType)

/-- The longer expression is stronger, and of two equally long ones that with more exact steps. -/
def Outranks (e f : RuleEntry) : Prop :=
  f.path.length < e.path.length ∨
    f.path.length = e.path.length ∧ f.path.exactSteps < e.path.exactSteps

/-- The earliest of the strongest entries that apply: it applies, no other one that does outranks it,
    and it outranks all of these that are declared before it. -/
def Governs (es : List RuleEntry) (place : DocPath) (e : RuleEntry) : Prop :=
  ∃ front back, es = front ++ e :: back ∧ Applies place e ∧
    (∀ f ∈ es, Applies place f → ¬ Outranks f e) ∧ ∀ f ∈ front, Applies place f → Outranks e f

theorem cascades_iff_exists {list : RuleList} :
    list.cascades = true ↔ ∃ rule ∈ list.rules, rule.OnType := by
  simp only [RuleList.cascades, List.any_eq_true, Rule.cascades_iff]

/-- An entry is a candidate exactly where it applies. -/
theorem applies_iff_candidate? {place : DocPath} {e : RuleEntry} :
    Applies place e ↔ ∃ c, candidate? place e = some c := by
  rw [candidate?]
  split
  · next hnone =>
    refine iff_of_false (fun happlies => ?_) (by simp)
    rw [DocPath.weightAgainst_eq_some_iff.2 ⟨happlies.1, rfl⟩] at hnone
    cases hnone
  · next w hw =>
    have hfits := (DocPath.weightAgainst_eq_some_iff.1 hw).1
    have hlength := hfits.length_le
    rw [Applies, and_iff_right hfits, ← cascades_iff_exists]
    by_cases hcascades : e.list.cascades = true
    · simp [hcascades]
    · simp only [hcascades]
      by_cases hshorter : e.path.length < place.length
      · simp [hshorter, Nat.ne_of_lt hshorter]
      · simp [Nat.le_antisymm hlength (Nat.not_lt.1 hshorter)]

/-- All entries are weighed without wrapping around. -/
def Exact (es : List RuleEntry) (place : DocPath) : Prop :=
  ∀ e ∈ es, e.path.overflowsAgainst place = false

theorem exact_iff {t : RuleTable} {category : Category} {place : DocPath} :
    Exact (t.entries category) place ↔ t.overflows category place = false := by
  simp [Exact, overflows]

theorem exact_of_lengths {es : List RuleEntry} (h : ∀ e ∈ es, e.path.length < 64)
    (place : DocPath) : Exact es place :=
  fun e he => DocPath.overflowsAgainst_of_length (h e he) place

theorem beats_iff_outranks {es : List RuleEntry} {place : DocPath} (hexact : Exact es place)
    {e f : RuleEntry} (he : e ∈ es) (hf : f ∈ es) {c d : Candidate}
    (hc : candidate? place e = some c) (hd : candidate? place f = some d) :
    c.beats d = true ↔ Outranks e f := by
  obtain ⟨hcweight, hclength, -⟩ := candidate?_eq_some hc
  obtain ⟨hdweight, hdlength, -⟩ := candidate?_eq_some hd
  have hweight : d.weight < c.weight ↔ f.path.exactSteps < e.path.exactSteps := by
    rw [DocPath.weight_of_exact (hexact e he) hcweight,
      DocPath.weight_of_exact (hexact f hf) hdweight]
    exact Nat.pow_lt_pow_iff_right (Nat.lt_succ_self 1)
  rw [Candidate.beats_iff, hclength, hdlength, hweight, Outranks]

theorem leads_iff {es : List RuleEntry} {place : DocPath} (hexact : Exact es place)
    {e : RuleEntry} :
    Leads es place e ↔
      e ∈ es ∧ Applies place e ∧ ∀ f ∈ es, Applies place f → ¬ Outranks f e := by
  refine and_congr_right fun he => ?_
  rw [applies_iff_candidate?]
  constructor
  · rintro ⟨c, hc, hbest⟩
    refine ⟨⟨c, hc⟩, fun f hf happlies => ?_⟩
    obtain ⟨d, hd⟩ := applies_iff_candidate?.1 happlies
    rw [← beats_iff_outranks hexact hf he hd hc, hbest f hf d hd]
    exact Bool.false_ne_true
  · rintro ⟨⟨c, hc⟩, hbest⟩
    refine ⟨c, hc, fun f hf d hd => ?_⟩
    rw [← Bool.not_eq_true, beats_iff_outranks hexact hf he hd hc]
    exact hbest f hf (applies_iff_candidate?.2 ⟨d, hd⟩)

/-- The entry that governs is the first of those that lead. -/
theorem governs_iff_firstLeads {es : List RuleEntry} {place : DocPath} (hexact : Exact es place)
    {e : RuleEntry} : Governs es place e ↔ FirstLeads es place e := by
  refine exists₂_congr fun front back => and_congr_right fun hsplit => ?_
  have he : e ∈ es := hsplit ▸ List.mem_append_right _ List.mem_cons_self
  have hmem : ∀ f ∈ front, f ∈ es := fun f hf => hsplit ▸ List.mem_append_left _ hf
  rw [leads_iff hexact, and_iff_right he, and_assoc]
  refine and_congr_right fun happlies => and_congr_right fun hbest => forall₂_congr fun f hf => ?_
  constructor
  · rintro houtranks hleads
    obtain ⟨-, hfapplies, hfbest⟩ := (leads_iff hexact).1 hleads
    exact hfbest e he happlies (houtranks hfapplies)
  · -- what neither outranks the entry nor leads is outranked by one that is as strong as the entry
    intro hnot hfapplies
    by_contra hweak
    refine hnot ((leads_iff hexact).2 ⟨hmem f hf, hfapplies, fun g hg hgapplies hgstrong => ?_⟩)
    have hfweak := hbest f (hmem f hf) hfapplies
    have hgweak := hbest g hg hgapplies
    rw [Outranks] at hweak hfweak hgweak hgstrong
    omega

/-! ## What is found -/

/-- The rules in force: of an entry for a place above those on types only, in their order. -/
theorem rules_of_governs {e : RuleEntry} {place : DocPath} :
    (⟨e.list, e.path.length < place.length⟩ : Resolved).rules =
      if e.path.length < place.length then e.list.rules.filter (·.OnType) else e.list.rules := by
  rw [Resolved.rules]
  split
  · next hshorter =>
    refine List.filter_congr fun rule _ => ?_
    simp [hshorter, ← Rule.cascades_iff]
  · next hlonger => simp [hlonger]

/-- Where nothing wraps around the rules found are those of the entry that governs the place. -/
theorem governs_of_exact {t : RuleTable} {category : Category} {place : DocPath}
    (hexact : Exact (t.entries category) place) {r : Resolved}
    (hr : t.resolve category place = some r) :
    ∃ e, Governs (t.entries category) place e ∧ r.list = e.list ∧
      (r.inherited = true ↔ e.path.length < place.length) ∧
      r.rules =
        if e.path.length < place.length then e.list.rules.filter (·.OnType) else e.list.rules := by
  obtain ⟨e, hfirst, rfl⟩ := resolve_eq_some_iff.1 hr
  exact ⟨e, (governs_iff_firstLeads hexact).2 hfirst, rfl, decide_eq_true_iff, rules_of_governs⟩

/-- No rules are found for a place where no entry applies. Of entries with expressions of fewer than
    64 steps those are found else of the entry that governs it, and no product of weights on the way
    needs more than 64 bits. -/
theorem resolve_governs (t : RuleTable) (category : Category) (place : DocPath) :
    (t.resolve category place = none ↔ ∀ e ∈ t.entries category, ¬ Applies place e) ∧
    ((∀ e ∈ t.entries category, e.path.length < 64) →
      t.overflows category place = false ∧
      ∀ r, t.resolve category place = some r →
        ∃ e, Governs (t.entries category) place e ∧ r.list = e.list ∧
          (r.inherited = true ↔ e.path.length < place.length) ∧
          r.rules =
            if e.path.length < place.length then e.list.rules.filter (·.OnType)
            else e.list.rules) ∧
    ∀ e ∈ t.entries category, e.path.length < 64 → ∀ count weight,
      (e.path.upTo count).product place = some weight → weight < UInt64.size := by
  refine ⟨?_, fun hshort => ?_, fun e _ hshort count weight hw => DocPath.product_upTo_lt hshort hw⟩
  · rw [resolve, Option.map_eq_none_iff, best_eq_none_iff, List.filterMap_eq_nil_iff]
    refine forall₂_congr fun e _ => ?_
    rw [applies_iff_candidate?, ← Option.ne_none_iff_exists', not_not]
  · have hexact := exact_of_lengths hshort place
    exact ⟨exact_iff.1 hexact, fun r hr => governs_of_exact hexact hr⟩

/-- Entries for a whole body, for its members, for one of them, and for a part of its items. -/
def layeredTable : RuleTable where
  body := [⟨.root, .single (.minMax (some 1) none)⟩, ⟨⟨[.anyChild]⟩, .single .type⟩,
    ⟨⟨[.field "items"]⟩, ⟨[.equality, .type], .any⟩⟩,
    ⟨⟨[.field "items", .anyIndex, .field "id"]⟩, .single .equality⟩]

/-- The entry for the member counts at a name below it, and only by its rule on the type. -/
theorem resolve_governs_layered :
    let place : DocPath := ⟨[.field "items", .index 0, .field "name"]⟩
    let r : Resolved := ⟨⟨[.equality, .type], .any⟩, true⟩
    layeredTable.resolve .body place = some r ∧
    layeredTable.overflows .body place = false ∧
    (∃ e, Governs (layeredTable.entries .body) place e ∧ r.list = e.list ∧
      (r.inherited = true ↔ e.path.length < place.length) ∧
      r.rules =
        if e.path.length < place.length then e.list.rules.filter (·.OnType) else e.list.rules) ∧
    ∀ e ∈ layeredTable.entries .body, e.path.length < 64 ∧ ∀ count weight,
      (e.path.upTo count).product place = some weight → weight < UInt64.size := by
  intro place r
  have hfound : layeredTable.resolve .body place = some r := rfl
  have hshort : ∀ e ∈ layeredTable.entries .body, e.path.length < 64 := by decide
  obtain ⟨-, hgoverns, hfits⟩ := resolve_governs layeredTable .body place
  obtain ⟨hwords, hgoverns⟩ := hgoverns hshort
  exact ⟨hfound, hwords, hgoverns r hfound, fun e he => ⟨hshort e he, hfits e he (hshort e he)⟩⟩

end RuleTable

end MockProvider
