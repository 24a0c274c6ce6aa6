import MockProvider.Proofs.Rule.Resolution

/-!
# Rules that were written and read back

Rules that were read, in either form, are written by category and read back with the same lists at
the same paths: `reread_entries`. Their order is that of the written keys, and it decides between
entries that are equally long and heavy. So the same rules are found for a place exactly where the
first declared of the leading entries and the first written one have one list:
`reread_resolve_iff`. Weights that wrap around do so before and after, since the same entries are
weighed.
-/

namespace MockProvider.RuleTable

/-! ## Entries -/

/-- Rules are read back from what is written for them, each path once and with its list. -/
theorem reread_entries (location location' : Location) {value : Json} {t : RuleTable}
    (hread : ofJson location value = .ok t) (hnames : t.Unquoted) :
    ∃ again, ofJson location' t.toJson = .ok again ∧ ∀ category,
      (again.entries category).Perm (t.entries category) ∧
        ((again.entries category).map RuleEntry.path).Nodup ∧
        ∀ path, again.list? category path = t.list? category path := by
  have hformed := wellFormed_of_ofJson hread
  refine ⟨t.sorted, hformed.ofJson_toJson hnames location', fun category => ?_⟩
  refine ⟨hformed.sorted_perm hnames category, (hformed.sorted hnames).distinct category, ?_⟩
  exact fun path => (hformed.sameLists_sorted hnames category path).symm

/-- A flat document with two spellings of one path, a list without rules, and bounds. -/
def flatRules : Json :=
  .object
    [("$.body['id']", .object [("max", .number (.ofNat 9)), ("min", .number (.ofNat 0))]),
      ("$.body.id", .object [("combine", .string "or"), ("matchers", .array [])]),
      ("$.headers.X-Id", .object [("match", .string "type")])]

/-- The rules of that document: the first spelling brings the bounds and the logic. -/
def flatTable : RuleTable where
  body := [⟨⟨[.field "id"]⟩, ⟨[.minMax (some 0) (some 9)], .all⟩⟩]
  header := [⟨⟨[.field "x-id"]⟩, ⟨[.type], .all⟩⟩]

theorem ofJson_flatRules (location : Location) : ofJson location flatRules = .ok flatTable := rfl

theorem flatTable_unquoted : flatTable.Unquoted := by
  intro e he name hname
  obtain rfl := List.mem_singleton.1 he
  obtain rfl : name = "id" := by simpa using hname
  decide

theorem reread_entries_flatTable :
    ofJson ⟨"rules"⟩ flatRules = .ok flatTable ∧ flatTable.Unquoted ∧
      ∃ again, ofJson ⟨"written"⟩ flatTable.toJson = .ok again ∧ ∀ category,
        (again.entries category).Perm (flatTable.entries category) ∧
          ((again.entries category).map RuleEntry.path).Nodup ∧
          ∀ path, again.list? category path = flatTable.list? category path :=
  ⟨ofJson_flatRules _, flatTable_unquoted,
    reread_entries ⟨"rules"⟩ ⟨"written"⟩ (ofJson_flatRules _) flatTable_unquoted⟩

/-! ## What is found -/

/-- The rules found for a place are those of the leading entry that is written first. -/
theorem WellFormed.resolve_sorted_eq_some_iff {t : RuleTable} (h : t.WellFormed)
    (hu : t.Unquoted) {category : Category} {place : DocPath} {r : Resolved} :
    t.sorted.resolve category place = some r ↔ ∃ e, t.WrittenFirst category place e ∧
      r = ⟨e.list, e.path.length < place.length⟩ := by
  rw [resolve_eq_some_iff]
  simp only [h.firstLeads_sorted_iff hu]

/-- Sorting keeps what is found where the first leading entry and the first written one have one
    list. -/
theorem WellFormed.resolve_sorted_eq_iff {t : RuleTable} (h : t.WellFormed) (hu : t.Unquoted)
    (category : Category) (place : DocPath) :
    t.sorted.resolve category place = t.resolve category place ↔
      ∀ e f, FirstLeads (t.entries category) place e → t.WrittenFirst category place f →
        e.list = f.list := by
  constructor
  · intro hsame e f he hf
    have hdeclared := resolve_eq_some_iff.2 ⟨e, he, rfl⟩
    have hwritten := (h.resolve_sorted_eq_some_iff hu).2 ⟨f, hf, rfl⟩
    rw [hsame, hdeclared] at hwritten
    exact congrArg Resolved.list (Option.some.inj hwritten)
  · intro hlists
    refine Option.ext fun r => ?_
    rw [h.resolve_sorted_eq_some_iff hu, resolve_eq_some_iff]
    -- both tables have a leading entry at the place or neither has one
    constructor
    · rintro ⟨f, hf, rfl⟩
      obtain ⟨e, -, he, -⟩ := hf.1.exists_first
      refine ⟨e, he, ?_⟩
      rw [hlists e f he hf, he.leads.length_eq hf.1]
    · rintro ⟨e, he, rfl⟩
      obtain ⟨f, -, hf, -⟩ := (he.leads.perm (h.sorted_perm hu category).symm).exists_first
      have hwritten := (h.firstLeads_sorted_iff hu).1 hf
      refine ⟨f, hwritten, ?_⟩
      rw [hlists e f he hwritten, he.leads.length_eq hwritten.1]

/-- The order of the entries does not matter for whether one of them is too heavy. -/
theorem WellFormed.overflows_sorted {t : RuleTable} (h : t.WellFormed) (hu : t.Unquoted)
    (category : Category) (place : DocPath) :
    t.sorted.overflows category place = t.overflows category place := by
  rw [overflows, overflows, Bool.eq_iff_iff, List.any_eq_true, List.any_eq_true]
  simp only [(h.sorted_perm hu category).mem_iff]

/-- After rules were written and read back the same ones are found for a place exactly if the first
    of the leading entries and the one that is written first have the same list. Only in bodies can
    these be two entries. A weight is too large for a word in the one table if one is in the other,
    so where arithmetic is checked both searches stop or neither. -/
theorem reread_resolve_iff (location location' : Location) {value : Json} {t : RuleTable}
    (hread : ofJson location value = .ok t) (hnames : t.Unquoted) :
    ∃ again, ofJson location' t.toJson = .ok again ∧ ∀ category place,
      again.overflows category place = t.overflows category place ∧
      (again.resolve category place = t.resolve category place ↔
        ∀ e f, FirstLeads (t.entries category) place e → t.WrittenFirst category place f →
          e.list = f.list) ∧
      (category ≠ .body → again.resolve category place = t.resolve category place) := by
  have hformed := wellFormed_of_ofJson hread
  refine ⟨t.sorted, hformed.ofJson_toJson hnames location', fun category place => ?_⟩
  have hiff := hformed.resolve_sorted_eq_iff hnames category place
  refine ⟨hformed.overflows_sorted hnames category place, hiff, fun hbody => hiff.2 fun e f he hf => ?_⟩
  rw [hformed.leads_unique hbody he.leads hf.1]

/-! ## Entries that change their order -/

/-- Two expressions that are equally long and heavy where both fit; the second one is written with
    its field after a point, and then stands first. -/
def overlappingRules : Json :=
  .object [("body", .object
    [("$.items[*].id", .object [("match", .string "type")]),
      ("$['items'].*.id", .object [("match", .string "equality")])])]

/-- The identifier of the first item. -/
def firstItemId : DocPath := ⟨[.field "items", .index 0, .field "id"]⟩

/-- The rules of that document, in the order in which they are declared. -/
def overlappingTable : RuleTable where
  body := [⟨⟨[.field "items", .anyIndex, .field "id"]⟩, .single .type⟩,
    ⟨⟨[.field "items", .anyChild, .field "id"]⟩, .single .equality⟩]

theorem ofJson_overlappingRules (location : Location) :
    ofJson location overlappingRules = .ok overlappingTable := rfl

theorem overlappingTable_unquoted : overlappingTable.Unquoted := by
  intro e he name hname
  have hentry : e.path.steps = [.field "items", .anyIndex, .field "id"] ∨
      e.path.steps = [.field "items", .anyChild, .field "id"] := by
    rcases List.mem_cons.1 he with rfl | he
    · exact Or.inl rfl
    · rw [List.mem_singleton.1 he]
      exact Or.inr rfl
  have hnames : name = "items" ∨ name = "id" := by
    rcases hentry with hsteps | hsteps
    · simpa [hsteps] using hname
    · simpa [hsteps] using hname
  rcases hnames with rfl | rfl
  · decide
  · decide

theorem reread_resolve_iff_overlapping :
    ofJson ⟨"rules"⟩ overlappingRules = .ok overlappingTable ∧ overlappingTable.Unquoted ∧
      ∃ again, ofJson ⟨"written"⟩ overlappingTable.toJson = .ok again ∧ ∀ category place,
        again.overflows category place = overlappingTable.overflows category place ∧
        (again.resolve category place = overlappingTable.resolve category place ↔
          ∀ e f, FirstLeads (overlappingTable.entries category) place e →
            overlappingTable.WrittenFirst category place f → e.list = f.list) ∧
        (category ≠ .body →
          again.resolve category place = overlappingTable.resolve category place) :=
  ⟨ofJson_overlappingRules _, overlappingTable_unquoted,
    reread_resolve_iff ⟨"rules"⟩ ⟨"written"⟩ (ofJson_overlappingRules _)
      overlappingTable_unquoted⟩

/-- A place with rules on the type has rules on the value after they were read back. -/
theorem reread_resolve_differs :
    ofJson ⟨"rules"⟩ overlappingRules = .ok overlappingTable ∧ overlappingTable.Unquoted ∧
      overlappingTable.resolve .body firstItemId = some ⟨.single .type, false⟩ ∧
      ∃ again, ofJson ⟨"written"⟩ overlappingTable.toJson = .ok again ∧
        again.resolve .body firstItemId = some ⟨.single .equality, false⟩ := by
  refine ⟨ofJson_overlappingRules _, overlappingTable_unquoted, rfl,
    { body := overlappingTable.body.reverse }, ?_, rfl⟩
  decide +kernel

end MockProvider.RuleTable
