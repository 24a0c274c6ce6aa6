import MockProvider.Matching.Facets
import MockProvider.Proofs.Json.Reading
import MockProvider.Proofs.Rule.Resolution
import MockProvider.Proofs.Text.Ascii

/-!
# Rules that every value passes against itself

A rule for equality or for the type finds nothing when a value is compared with itself. Whatever
rules are resolved from a table of such rules, declared or inherited, with either logic, they find
nothing either; so neither do the comparisons of single values, queries and headers.
-/

namespace MockProvider

/-! ## Tables -/

/-- Every rule of the table asks for equality or for the type. -/
def RuleTable.Reflexive (t : RuleTable) : Prop :=
  ∀ category, ∀ entry ∈ t.entries category, ∀ rule ∈ entry.list.rules,
    rule = .equality ∨ rule = .type

namespace RuleTable

theorem list_of_resolve {t : RuleTable} {category : Category} {place : DocPath} {r : Resolved}
    (h : t.resolve category place = some r) : ∃ entry ∈ t.entries category, r.list = entry.list := by
  obtain ⟨c, hc, rfl⟩ := Option.map_eq_some_iff.1 h
  obtain ⟨entry, hentry, he⟩ := List.mem_filterMap.1 (best_mem hc)
  exact ⟨entry, hentry, by rw [(candidate?_eq_some he).2.2]⟩

/-- The rules in force are equality and type only. -/
def Resolved.Reflexive (r : Resolved) : Prop :=
  ∀ rule ∈ r.rules, rule = .equality ∨ rule = .type

theorem Reflexive.resolved {t : RuleTable} (ht : t.Reflexive) {category : Category}
    {place : DocPath} {r : Resolved} (h : t.resolve category place = some r) : r.Reflexive := by
  intro rule hrule
  obtain ⟨entry, hentry, hlist⟩ := list_of_resolve h
  have hmem : rule ∈ r.list.rules := (List.mem_filter.1 hrule).1
  exact ht category entry hentry rule (hlist ▸ hmem)

theorem Resolved.Reflexive.bounds?_eq_none {r : Resolved} (hr : r.Reflexive) :
    r.bounds? = none := by
  refine List.findSome?_eq_none_iff.2 fun rule hrule => ?_
  rcases hr rule hrule with rfl | rfl <;> rfl

end RuleTable

/-! ## Single values -/

theorem Json.sameType_self (value : Json) : value.sameType value = true := by
  cases value <;> rfl

theorem Rule.failure_self {rule : Rule} (h : rule = .equality ∨ rule = .type) (value : Json) :
    rule.failure value value = none := by
  rcases h with rfl | rfl
  · simp [Rule.failure]
  · simp [Rule.failure, typeFailure, Json.sameType_self]

theorem RuleTable.Resolved.Reflexive.failures_self {r : RuleTable.Resolved} (hr : r.Reflexive)
    (value : Json) : r.failures value value = [] := by
  rw [RuleTable.Resolved.failures]
  split
  · simp
  · next rules hrules =>
    have hnone : (r.rules.filterMap fun rule => rule.failure value value) = [] :=
      List.filterMap_eq_nil_iff.2 fun rule hrule => Rule.failure_self (hr rule hrule) value
    rw [hnone]
    -- where one rule is enough, one has to be there
    cases r.list.logic with
    | all => rfl
    | any =>
      have hpos : 0 < r.rules.length := List.length_pos_iff.2 hrules
      simp [hpos]

theorem RuleTable.Reflexive.outcome_self {t : RuleTable} (ht : t.Reflexive) (category : Category)
    (place : DocPath) (value : Json) : outcome (t.resolve category place) value value [] = [] := by
  cases h : t.resolve category place with
  | none => rfl
  | some r => exact (ht.resolved h).failures_self value

namespace Matching

variable {rules : RuleTable}

theorem compareLeaf_self (hrules : rules.Reflexive) (place : DocPath) (value : Json) :
    compareLeaf rules place value value = [] := by
  rw [compareLeaf, if_pos (Json.beq_self value), hrules.outcome_self]
  rfl

theorem wholePart_self (hrules : rules.Reflexive) (kind : MismatchKind) (category : Category)
    (value : Json) :
    wholePart kind value value (outcome (rules.resolve category .root) value value []) = [] := by
  rw [hrules.outcome_self]
  rfl

/-! ## Methods, paths and statuses -/

theorem matchMethod_self (method : String) : matchMethod method method = [] :=
  if_pos (beq_self_eq_true _)

theorem matchPath_self (hrules : rules.Reflexive) (path : String) :
    matchPath rules path path = [] := by
  rw [matchPath, if_pos rfl]
  exact wholePart_self hrules _ _ _

theorem matchStatus_self (hrules : rules.Reflexive) (status : UInt16) :
    matchStatus rules status status = [] := by
  rw [matchStatus, if_pos rfl]
  exact wholePart_self hrules _ _ _

/-! ## Queries -/

theorem ruledValues_self {r : RuleTable.Resolved} (hr : r.Reflexive) (key first : String) :
    ∀ (index : Nat) (values : List String), ruledValues r key values first index values = []
  | _, [] => rfl
  | index, value :: values => by
    rw [ruledValues, List.head?_cons, Option.getD_some, hr.failures_self, List.drop_one,
      List.tail_cons]
    exact ruledValues_self hr key first (index + 1) values

theorem plainValues_self (key : String) :
    ∀ (index : Nat) (values : List String), plainValues key index values values = []
  | _, [] => rfl
  | index, value :: values => by
    rw [plainValues, if_pos rfl]
    exact plainValues_self key (index + 1) values

theorem ruledFailures_self {r : RuleTable.Resolved} (hr : r.Reflexive) (key : String)
    (values : List String) : ruledFailures r key values values = [] := by
  unfold ruledFailures
  rw [hr.bounds?_eq_none]
  cases values with
  | nil => rfl
  | cons first values => exact ruledValues_self hr key first 0 (first :: values)

theorem plainFailures_self (key : String) (values : List String) :
    plainFailures key values values = [] := by
  rw [plainFailures, if_pos rfl, plainValues_self]

theorem keyMismatches_self (hrules : rules.Reflexive) {query : Query} {key : String}
    {values : List String} (h : query.get? key = some values) :
    keyMismatches rules query key values = [] := by
  rw [keyMismatches, h]
  cases hr : rules.resolveNamed .query key with
  | none => simp [plainFailures_self]
  | some r => simp [ruledFailures_self (hrules.resolved hr)]

theorem matchQuery_self (hrules : rules.Reflexive) (query : Option Query) :
    matchQuery rules query query = [] := by
  cases query with
  | none => rfl
  | some query =>
    refine List.flatMap_eq_nil_iff.2 fun (key, values) hm => ?_
    exact keyMismatches_self hrules (Dict.get?_of_mem hm)

end Matching

/-! ## Headers -/

/-- No two header names differ in the case of their letters only. -/
def Headers.Distinct (headers : Headers) : Prop :=
  headers.keys.Pairwise fun a b => Ascii.sameIgnoringCase a b = false

/-- A header is found under its own name. -/
theorem Headers.Distinct.lookup?_of_mem {headers : Headers} (h : headers.Distinct)
    {name : String} {values : List String} (hm : (name, values) ∈ headers.toList) :
    headers.lookup? name = some values := by
  have hpair : headers.toList.Pairwise fun a b => Ascii.sameIgnoringCase a.1 b.1 = false :=
    List.pairwise_map.1 h
  rw [Headers.lookup?]
  generalize headers.toList = entries at hm hpair
  induction entries with
  | nil => cases hm
  | cons entry entries ih =>
    obtain ⟨hfirst, hrest⟩ := List.pairwise_cons.1 hpair
    rcases List.mem_cons.1 hm with rfl | hm
    · simp [Ascii.sameIgnoringCase_self]
    -- an earlier header with the name would differ from it in case only
    · have hother : Ascii.sameIgnoringCase entry.1 name = false := hfirst (name, values) hm
      simp only [List.find?_cons, hother]
      exact ih hm hrest

namespace Matching

variable {rules : RuleTable}

theorem headerFailures_self (hrules : rules.Reflexive) (name value : String) :
    headerFailures rules name value value = [] := by
  have hsame : sameHeader name value value = true := by
    rw [sameHeader]
    split <;> exact beq_self_eq_true _
  rw [headerFailures, if_pos hsame]
  exact hrules.outcome_self _ _ _

theorem matchHeaders_self {m : Message} (hrules : m.rules.Reflexive)
    (hdistinct : ∀ headers, m.headers = some headers → headers.Distinct) :
    matchHeaders m m = [] := by
  rw [matchHeaders]
  split
  · rfl
  · next headers hheaders =>
    refine List.filterMap_eq_nil_iff.2 fun (name, values) hm => ?_
    -- the look-up ignores case, so distinct names are needed to find this very header
    have hfound : m.header? name = some values := by
      rw [Message.header?, hheaders]
      exact (hdistinct headers hheaders).lookup?_of_mem hm
    simp [headerMismatch, hfound, headerFailures_self hrules]

end Matching

end MockProvider
