import MockProvider.Proofs.Lists.Choice
import MockProvider.Proofs.Rule.Tables

/-!
# Which rules are found

Of the entries of a category some come into question for a place, and of these some lead: no other
one beats them, so all of them are equally long and heavy. The rules that are found are those of the
leading entry that was declared first: `resolve_eq_some_iff`. In a category without wildcards no two
entries lead at one place.
-/

namespace MockProvider.RuleTable

/-! ## The best candidate -/

theorem Candidate.beats_iff {c d : Candidate} :
    c.beats d = true ↔ d.length < c.length ∨ (d.length = c.length ∧ d.weight < c.weight) := by
  simp [beats]

theorem Candidate.beats_eq_false_iff {c d : Candidate} :
    c.beats d = false ↔
      ¬ (d.length < c.length ∨ (d.length = c.length ∧ d.weight < c.weight)) := by
  rw [← beats_iff, Bool.not_eq_true]

theorem best_eq_firstBest (cs : List Candidate) : best cs = firstBest Candidate.beats cs := by
  induction cs with
  | nil => rfl
  | cons c cs ih =>
    rw [best, ih, firstBest]
    cases firstBest Candidate.beats cs <;> rfl

theorem best_eq_none_iff {cs : List Candidate} : best cs = none ↔ cs = [] := by
  rw [best_eq_firstBest, firstBest_eq_none_iff]

theorem best_mem {cs : List Candidate} {c : Candidate} (h : best cs = some c) : c ∈ cs := by
  rw [best_eq_firstBest] at h
  exact mem_of_firstBest h

/-- The best candidate beats all that stand before it, and none beats it. -/
theorem best_eq_some {cs : List Candidate} {c : Candidate} (h : best cs = some c) :
    ∃ front back, cs = front ++ c :: back ∧ (∀ d ∈ front, c.beats d = true) ∧
      ∀ d ∈ cs, d.beats c = false := by
  rw [best_eq_firstBest] at h
  apply firstBest_eq_some _ _ h
  · intro c d hcd
    rw [Candidate.beats_iff] at hcd
    rw [Candidate.beats_eq_false_iff]
    omega
  · intro c d e hcd hde
    rw [Candidate.beats_eq_false_iff] at hcd hde ⊢
    omega

/-! ## Candidates of entries -/

/-- What a candidate takes from its entry. -/
theorem candidate?_eq_some {place : DocPath} {e : RuleEntry} {c : Candidate}
    (h : candidate? place e = some c) :
    e.path.weightAgainst place = some c.weight ∧ c.length = e.path.length ∧
      c.resolved = ⟨e.list, e.path.length < place.length⟩ := by
  rw [candidate?] at h
  split at h
  · cases h
  · next weight hweight =>
    simp only at h
    split at h
    · cases h
    · cases h
      exact ⟨hweight, rfl, rfl⟩

/-- The entry comes into question for the place, and none of the entries beats it there. -/
def Leads (es : List RuleEntry) (place : DocPath) (e : RuleEntry) : Prop :=
  e ∈ es ∧ ∃ c, candidate? place e = some c ∧
    ∀ f ∈ es, ∀ d, candidate? place f = some d → d.beats c = false

/-- The leading entry that stands before all others that lead. -/
def FirstLeads (es : List RuleEntry) (place : DocPath) (e : RuleEntry) : Prop :=
  ∃ front back, es = front ++ e :: back ∧ Leads es place e ∧ ∀ f ∈ front, ¬ Leads es place f

theorem Leads.perm {es es' : List RuleEntry} (h : es.Perm es') {place : DocPath} {e : RuleEntry}
    (he : Leads es place e) : Leads es' place e := by
  obtain ⟨hmem, c, hc, hbest⟩ := he
  exact ⟨h.mem_iff.1 hmem, c, hc, fun f hf => hbest f (h.mem_iff.2 hf)⟩

/-- All entries that lead at a place are equally long. -/
theorem Leads.length_eq {es : List RuleEntry} {place : DocPath} {e f : RuleEntry}
    (he : Leads es place e) (hf : Leads es place f) : e.path.length = f.path.length := by
  obtain ⟨he, c, hc, hcbest⟩ := he
  obtain ⟨hf, d, hd, hdbest⟩ := hf
  have hcd := Candidate.beats_eq_false_iff.1 (hcbest f hf d hd)
  have hdc := Candidate.beats_eq_false_iff.1 (hdbest e he c hc)
  rw [← (candidate?_eq_some hc).2.1, ← (candidate?_eq_some hd).2.1]
  omega

theorem FirstLeads.leads {es : List RuleEntry} {place : DocPath} {e : RuleEntry}
    (h : FirstLeads es place e) : Leads es place e := by
  obtain ⟨front, back, -, hlead, -⟩ := h
  exact hlead

theorem FirstLeads.unique {es : List RuleEntry} {place : DocPath} {e f : RuleEntry}
    (he : FirstLeads es place e) (hf : FirstLeads es place f) : e = f := by
  obtain ⟨front, back, hes, hlead, hfront⟩ := he
  obtain ⟨front', back', hes', hlead', hfront'⟩ := hf
  -- the one that stands further in front would lead before the other
  rcases List.append_eq_append_iff.1 (hes.symm.trans hes') with ⟨mid, rfl, htail⟩ | ⟨mid, rfl, htail⟩
  · cases mid with
    | nil => exact (List.cons.inj htail).1
    | cons g mid =>
      obtain rfl := (List.cons.inj htail).1
      exact absurd hlead (hfront' e (by simp))
  · cases mid with
    | nil => exact (List.cons.inj htail).1.symm
    | cons g mid =>
      obtain rfl := (List.cons.inj htail).1
      exact absurd hlead' (hfront f (by simp))

/-- The best candidate is that of the first entry that leads. -/
theorem firstLeads_of_best {es : List RuleEntry} {place : DocPath} {c : Candidate}
    (h : best (es.filterMap (candidate? place)) = some c) :
    ∃ e, FirstLeads es place e ∧ candidate? place e = some c := by
  obtain ⟨front', back', hsplit, hfront', hall⟩ := best_eq_some h
  obtain ⟨front, rest, rfl, rfl, hrest⟩ := List.filterMap_eq_append_iff.1 hsplit
  obtain ⟨none, e, back, rfl, hnone, hc, rfl⟩ := List.filterMap_eq_cons_iff.1 hrest
  have hbeaten : ∀ f ∈ front ++ none, ∀ d, candidate? place f = some d → c.beats d = true := by
    intro f hf d hd
    rcases List.mem_append.1 hf with hf | hf
    · exact hfront' d (List.mem_filterMap.2 ⟨f, hf, hd⟩)
    · rw [hnone f hf] at hd
      cases hd
  refine ⟨e, ⟨front ++ none, back, by simp, ⟨by simp, c, hc, fun f hf d hd => ?_⟩, ?_⟩, hc⟩
  · exact hall d (List.mem_filterMap.2 ⟨f, hf, hd⟩)
  · rintro f hf ⟨-, d, hd, hbest⟩
    have hnot := hbest e (by simp) c hc
    rw [hbeaten f hf d hd] at hnot
    cases hnot

/-- Where an entry leads, there is a first one, and it is the one that gives the best candidate. -/
theorem Leads.exists_first {es : List RuleEntry} {place : DocPath} {e : RuleEntry}
    (h : Leads es place e) : ∃ f c, FirstLeads es place f ∧ candidate? place f = some c ∧
      best (es.filterMap (candidate? place)) = some c := by
  obtain ⟨hmem, c, hc, -⟩ := h
  cases hbest : best (es.filterMap (candidate? place)) with
  | none =>
    have hempty := List.filterMap_eq_nil_iff.1 (best_eq_none_iff.1 hbest) e hmem
    rw [hc] at hempty
    cases hempty
  | some d =>
    obtain ⟨f, hf, hd⟩ := firstLeads_of_best hbest
    exact ⟨f, d, hf, hd, rfl⟩

/-! ## What is found -/

/-- The rules that are found are those of the first entry that leads. -/
theorem resolve_eq_some_iff {t : RuleTable} {category : Category} {place : DocPath}
    {r : Resolved} :
    t.resolve category place = some r ↔ ∃ e, FirstLeads (t.entries category) place e ∧
      r = ⟨e.list, e.path.length < place.length⟩ := by
  constructor
  · intro h
    obtain ⟨c, hbest, rfl⟩ := Option.map_eq_some_iff.1 h
    obtain ⟨e, he, hc⟩ := firstLeads_of_best hbest
    exact ⟨e, he, (candidate?_eq_some hc).2.2⟩
  · rintro ⟨e, he, rfl⟩
    obtain ⟨f, c, hf, hc, hbest⟩ := he.leads.exists_first
    obtain rfl := he.unique hf
    rw [resolve, hbest, Option.map_some, (candidate?_eq_some hc).2.2]

/-! ## Categories without wildcards -/

/-- A name fits only places that begin with it. -/
theorem head?_of_field_fits {name : String} {place : DocPath}
    (h : (DocPath.root.field name).weightAgainst place ≠ none) :
    place.steps.head? = some (.field name) := by
  obtain ⟨steps⟩ := place
  cases steps with
  | nil => exact absurd rfl h
  | cons step steps =>
    cases step with
    | field other =>
      by_cases heq : name = other
      · rw [heq]
        rfl
      · refine absurd ?_ h
        simp [DocPath.weightAgainst, DocPath.root, DocPath.field, DocPath.push,
          DocPath.stepsWeight, DocPath.Step.weight, heq]
    | _ => exact absurd rfl h

/-- Outside bodies a place has its rules at one path only. -/
theorem Category.Holds.eq_of_fits {category : Category} (hbody : category ≠ .body)
    {p q place : DocPath} (hp : category.Holds p) (hq : category.Holds q)
    (hpfits : p.weightAgainst place ≠ none) (hqfits : q.weightAgainst place ≠ none) : p = q := by
  by_cases hwhole : category = .path ∨ category = .status
  · have hroot : ∀ {p}, category.Holds p → p = .root := fun h => by
      rcases hwhole with rfl | rfl <;> exact h
    exact (hroot hp).trans (hroot hq).symm
  · have hfield : ∀ {p}, category.Holds p → ∃ name, p = DocPath.root.field name := fun h => by
      cases category with
      | path => exact absurd (Or.inl rfl) hwhole
      | status => exact absurd (Or.inr rfl) hwhole
      | body => exact absurd rfl hbody
      | query => exact h.imp fun _ => id
      | header => exact h.imp' Ascii.lower fun _ => id
    obtain ⟨name, rfl⟩ := hfield hp
    obtain ⟨other, rfl⟩ := hfield hq
    have hsame := (head?_of_field_fits hpfits).symm.trans (head?_of_field_fits hqfits)
    simp only [Option.some.injEq, DocPath.Step.field.injEq] at hsame
    exact congrArg DocPath.root.field hsame

/-- Outside bodies no two entries lead at one place. -/
theorem WellFormed.leads_unique {t : RuleTable} (h : t.WellFormed) {category : Category}
    (hbody : category ≠ .body) {place : DocPath} {e f : RuleEntry}
    (he : Leads (t.entries category) place e) (hf : Leads (t.entries category) place f) :
    e = f := by
  obtain ⟨he, c, hc, -⟩ := he
  obtain ⟨hf, d, hd, -⟩ := hf
  have hfits : ∀ {g : RuleEntry} {b : Candidate}, candidate? place g = some b →
      g.path.weightAgainst place ≠ none := fun hb => by
    rw [(candidate?_eq_some hb).1]
    exact Option.some_ne_none _
  have hpath : e.path = f.path :=
    Category.Holds.eq_of_fits hbody (h.held category e he) (h.held category f hf) (hfits hc)
      (hfits hd)
  exact List.inj_on_of_nodup_map (h.distinct category) he hf hpath

/-! ## Tables that were read back -/

/-- The leading entry whose key in a document stands before those of all others that lead. -/
def WrittenFirst (t : RuleTable) (category : Category) (place : DocPath) (e : RuleEntry) : Prop :=
  Leads (t.entries category) place e ∧ ∀ f, Leads (t.entries category) place f →
    ¬ writtenKey category f.path < writtenKey category e.path

/-- The keys of the sorted entries ascend. -/
theorem ascending_sorted (t : RuleTable) (category : Category) :
    (t.sorted.entries category).Pairwise fun e f =>
      writtenKey category e.path < writtenKey category f.path := by
  have hkeys : ∀ entry ∈ keyed category (t.entries category),
      entry.1 = writtenKey category entry.2.path := by
    intro entry hentry
    obtain ⟨e, -, rfl⟩ := List.mem_map.1 (Assoc.mem_ofList hentry)
    rfl
  rw [entries_sorted, sortedEntries, List.pairwise_map]
  refine (Assoc.ascending_ofList _).imp_of_mem fun {a b} ha hb hlt => ?_
  rwa [← hkeys a ha, ← hkeys b hb]

/-- In the sorted table that entry leads first whose key stands first. -/
theorem WellFormed.firstLeads_sorted_iff {t : RuleTable} (h : t.WellFormed) (hu : t.Unquoted)
    {category : Category} {place : DocPath} {e : RuleEntry} :
    FirstLeads (t.sorted.entries category) place e ↔ t.WrittenFirst category place e := by
  have hperm := h.sorted_perm hu category
  have hforward : ∀ {e}, FirstLeads (t.sorted.entries category) place e →
      t.WrittenFirst category place e := by
    rintro e ⟨front, back, hsplit, hlead, hfront⟩
    refine ⟨hlead.perm hperm, fun f hf => ?_⟩
    have hf' := hf.perm hperm.symm
    have hmem := hf'.1
    have hascending := t.ascending_sorted category
    rw [hsplit] at hmem hascending
    rcases List.mem_append.1 hmem with hmem | hmem
    · exact absurd hf' (hfront f hmem)
    · rcases List.mem_cons.1 hmem with rfl | hmem
      · exact String.lt_irrefl _
      · have hlt := (List.pairwise_cons.1 (List.pairwise_append.1 hascending).2.1).1 f hmem
        exact fun hgt => String.lt_irrefl _ (String.lt_trans hlt hgt)
  refine ⟨hforward, fun he => ?_⟩
  -- of two leading entries neither of which stands behind the other both have one key
  obtain ⟨f, -, hf, -⟩ := (he.1.perm hperm.symm).exists_first
  have hfirst := hforward hf
  have hkey : writtenKey category e.path = writtenKey category f.path := by
    have h1 := hfirst.2 e he.1
    have h2 := he.2 f hfirst.1
    exact Std.le_antisymm (String.not_lt.1 h2) (String.not_lt.1 h1)
  have hsame : e = f := by
    have hnodup := h.nodup_keys hu category
    exact List.inj_on_of_nodup_map hnodup he.1.1 hfirst.1.1 hkey
  exact hsame ▸ hf

end MockProvider.RuleTable
