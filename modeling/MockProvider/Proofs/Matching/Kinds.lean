import MockProvider.Matching.Body

/-!
# Kinds of body mismatches

Comparing two bodies of one kind, in whatever way, tells how the bodies differ and never that their
types do: `onBody_matchKind`. So types are reported exactly where the kinds of two present bodies
differ: `reportsType_matchBody_iff`.
-/

namespace MockProvider.Matching

/-- The mismatches are all about a body. -/
def OnBody (ms : List Mismatch) : Prop :=
  ∀ m ∈ ms, m.kind = .body

namespace OnBody

variable {α : Type} {ms ms' : List Mismatch}

theorem nil : OnBody [] := nofun

theorem single (place : DocPath) (expected actual : Json) (description : String) :
    OnBody [bodyMismatch place expected actual description] := by
  intro m hm
  rw [List.mem_singleton.1 hm]
  rfl

theorem append (h : OnBody ms) (h' : OnBody ms') : OnBody (ms ++ ms') := fun m hm =>
  (List.mem_append.1 hm).elim (h m) (h' m)

theorem flatMap {xs : List α} {f : α → List Mismatch} (h : ∀ x ∈ xs, OnBody (f x)) :
    OnBody (xs.flatMap f) := by
  intro m hm
  obtain ⟨x, hx, hm⟩ := List.mem_flatMap.1 hm
  exact h x hx m hm

theorem filterMap {xs : List α} {f : α → Option Mismatch}
    (h : ∀ x ∈ xs, ∀ m ∈ f x, m.kind = .body) : OnBody (xs.filterMap f) := by
  intro m hm
  obtain ⟨x, hx, hm⟩ := List.mem_filterMap.1 hm
  exact h x hx m hm

/-- A description, if there is one, makes a mismatch of a body. -/
theorem described (place : DocPath) (expected actual : Json) (description : Option String) :
    OnBody (description.toList.map (bodyMismatch place expected actual)) := by
  intro m hm
  obtain ⟨_, -, rfl⟩ := List.mem_map.1 hm
  rfl

end OnBody

/-! ## Documents -/

theorem onBody_failuresAt (place : DocPath) (expected actual : Json) (failures : List String) :
    OnBody (failuresAt place expected actual failures) := by
  cases failures with
  | nil => exact .nil
  | cons failure failures => exact .single _ _ _ _

/-- A check, of values or of elements, that finds mismatches of the body only. -/
def FindsBody {α : Type} (check : DocPath → α → List Mismatch) : Prop :=
  ∀ place actual, OnBody (check place actual)

variable {rules : RuleTable} {check : Check} {checks : List Check}

theorem onBody_checkMember (h : FindsBody check) (place : DocPath) (members : List (String × Json))
    (key : String) (expected : Json) : OnBody (checkMember place members key expected check) := by
  rw [checkMember]
  split
  · exact h _ _
  · exact .single _ _ _ _

theorem onBody_unexpectedMembers (place : DocPath) (expected actual : List (String × Json)) :
    OnBody (unexpectedMembers place expected actual) := by
  refine OnBody.filterMap fun member _ m hm => ?_
  simp only at hm
  split at hm
  · cases hm
  · cases hm
    rfl

section

variable {α : Type} {check : Walk α Mismatch} {checks : List (Walk α Mismatch)}

theorem onBody_checkPaired (h : ∀ check ∈ checks, FindsBody check) (place : DocPath) (index : Nat)
    (items : List α) : OnBody (checkPaired place index checks items) := by
  induction checks generalizing index items with
  | nil => exact .nil
  | cons check checks ih =>
    obtain ⟨hfirst, hrest⟩ := List.forall_mem_cons.1 h
    cases items with
    | nil => exact .nil
    | cons item items => exact (hfirst _ _).append (ih hrest _ _)

theorem onBody_checkEach (h : FindsBody check) (place : DocPath) (index : Nat) (items : List α) :
    OnBody (checkEach place check index items) := by
  induction items generalizing index with
  | nil => exact .nil
  | cons item items ih => exact (h _ _).append (ih _)

theorem onBody_checkTemplates (h : ∀ check ∈ checks, FindsBody check) (place : DocPath)
    (items : List α) : OnBody (checkTemplates place checks items) := by
  cases checks with
  | nil => exact .nil
  | cons first checks =>
    exact (onBody_checkPaired h _ _ _).append (onBody_checkEach (h first List.mem_cons_self) _ _ _)

end

theorem onBody_checkItems (h : ∀ check ∈ checks, FindsBody check)
    (resolved : Option RuleTable.Resolved) (place : DocPath) (expected items : List Json) :
    OnBody (checkItems resolved place expected checks items) := by
  rw [checkItems]
  split
  · exact (OnBody.described _ _ _ _).append (onBody_checkTemplates h _ _)
  · exact (OnBody.described _ _ _ _).append (onBody_checkPaired h _ _ _)

mutual

theorem findsBody_checkOf : ∀ expected : Json, FindsBody (checkOf rules expected)
  | .object expected, place, actual => by
    cases actual with
    | object members =>
      have hmembers := onBody_membersCheck expected place members
      rw [checkOf]
      split
      · exact onBody_failuresAt _ _ _ _
      · refine hmembers.append ?_
        split
        · exact .nil
        · exact onBody_unexpectedMembers _ _ _
    | _ =>
      rw [checkOf]
      · split
        · exact onBody_failuresAt _ _ _ _
        · exact onBody_failuresAt _ _ _ _
      · simp
  | .array expected, place, actual => by
    cases actual with
    | array items =>
      have hitems := findsBody_itemChecks expected
      rw [checkOf]
      split
      · exact onBody_failuresAt _ _ _ _
      · exact onBody_checkItems hitems _ _ _ _
    | _ =>
      rw [checkOf]
      · split
        · exact onBody_failuresAt _ _ _ _
        · exact onBody_failuresAt _ _ _ _
      · simp
  | .null, place, actual
  | .bool _, place, actual
  | .number _, place, actual
  | .string _, place, actual => by
    rw [checkOf]
    · exact onBody_failuresAt _ _ _ _
    all_goals simp

theorem findsBody_itemChecks :
    ∀ expected : List Json, ∀ check ∈ itemChecks rules expected, FindsBody check
  | [] => by simp [itemChecks]
  | item :: items => by
    rw [itemChecks]
    exact List.forall_mem_cons.2 ⟨findsBody_checkOf item, findsBody_itemChecks items⟩

theorem onBody_membersCheck : ∀ (expected : List (String × Json)) (place : DocPath)
    (members : List (String × Json)), OnBody (membersCheck rules expected place members)
  | [], _, _ => .nil
  | (_, value) :: expected, place, members => by
    rw [membersCheck]
    exact (onBody_checkMember (findsBody_checkOf value) _ _ _ _).append
      (onBody_membersCheck expected place members)

end

theorem onBody_matchJson (rules : RuleTable) (expected actual : Bytes) :
    OnBody (matchJson rules expected actual) := by
  rw [matchJson]
  split
  · exact .single _ _ _ _
  · split
    · exact .single _ _ _ _
    · exact findsBody_checkOf _ _ _

/-! ## Elements -/

theorem onBody_expectedAttributes (place : DocPath) (expected actual : Dict String) :
    OnBody (expectedAttributes rules place expected actual) := by
  refine OnBody.flatMap fun named _ => ?_
  simp only
  split
  · exact onBody_failuresAt _ _ _ _
  · exact .single _ _ _ _

theorem onBody_unexpectedAttributes (place : DocPath) (expected actual : Dict String) :
    OnBody (unexpectedAttributes place expected actual) := by
  refine OnBody.filterMap fun named _ m hm => ?_
  simp only at hm
  split at hm
  · cases hm
  · cases hm
    rfl

theorem onBody_compareText (place : DocPath) (lenient : Bool) (expected actual : String) :
    OnBody (compareText rules place lenient expected actual) := by
  rw [compareText]
  split
  · exact .nil
  · exact onBody_failuresAt _ _ _ _

theorem onBody_unexpectedGroups (place : DocPath) (checks : List NamedCheck)
    (actual : List Xml.Element) : OnBody (unexpectedGroups place checks actual) := by
  refine OnBody.filterMap fun name _ m hm => ?_
  split at hm
  · cases hm
  · cases hm
    rfl

theorem onBody_checkGroup {checks : List ElementCheck} (h : ∀ check ∈ checks, FindsBody check)
    (place : DocPath) (name : String) (actual : List Xml.Element) :
    OnBody (checkGroup rules place name checks actual) := by
  rw [checkGroup]
  split
  · exact OnBody.described _ _ _ _
  · split
    · exact (OnBody.described _ _ _ _).append (onBody_checkTemplates h _ _)
    · exact (OnBody.described _ _ _ _).append (onBody_checkPaired h _ _ _)

theorem onBody_checkGroups {checks : List NamedCheck} (h : ∀ check ∈ checks, FindsBody check.2)
    (place : DocPath) (actual : List Xml.Element) :
    OnBody (checkGroups rules place checks actual) := by
  refine OnBody.flatMap fun name _ => onBody_checkGroup (fun check hcheck => ?_) _ _ _
  obtain ⟨named, hnamed, rfl⟩ := List.mem_map.1 hcheck
  exact h named (List.mem_filter.1 hnamed).1

mutual

theorem findsBody_elementCheck : ∀ e : Xml.Element, FindsBody (elementCheck rules e)
  | .mk _ attributes text children, place, actual => by
    have hchildren : OnBody (checkGroups rules place (childChecks rules children) actual.children) :=
      onBody_checkGroups (findsBody_childChecks children) _ _
    have hlenient (lenient : Bool) {ms : List Mismatch} (h : OnBody ms) :
        OnBody (if lenient then [] else ms) := by
      cases lenient with
      | true => exact .nil
      | false => exact h
    rw [elementCheck, compareElement]
    exact ((((onBody_expectedAttributes _ _ _).append
      (hlenient _ (onBody_unexpectedAttributes _ _ _))).append (onBody_compareText _ _ _ _)).append
        hchildren).append (hlenient _ (onBody_unexpectedGroups _ _ _))

theorem findsBody_childChecks (children : List Xml.Element) :
    ∀ check ∈ childChecks rules children, FindsBody check.2 := by
  cases children with
  | nil => simp [childChecks]
  | cons child children =>
    rw [childChecks]
    exact List.forall_mem_cons.2 ⟨findsBody_elementCheck child, findsBody_childChecks children⟩

end

theorem onBody_matchXml (rules : RuleTable) (expected actual : Bytes) :
    OnBody (matchXml rules expected actual) := by
  rw [matchXml]
  split
  · exact .single _ _ _ _
  · split
    · exact .single _ _ _ _
    · split
      · exact findsBody_elementCheck _ _ _
      · exact .single _ _ _ _

/-! ## Bodies -/

theorem onBody_matchRaw (rules : RuleTable) (expected actual : Body) :
    OnBody (matchRaw rules expected actual) := by
  rw [matchRaw]
  split
  · exact .nil
  · exact .single _ _ _ _

theorem onBody_matchKind (rules : RuleTable) (kind : BodyKind) (expected actual : Body) :
    OnBody (matchKind rules kind expected actual) := by
  cases kind with
  | json => exact onBody_matchJson _ _ _
  | xml => exact onBody_matchXml _ _ _
  | text => exact onBody_matchRaw _ _ _
  | binary => exact onBody_matchRaw _ _ _

/-- Among the mismatches is one in the types of bodies. -/
def ReportsType (ms : List Mismatch) : Prop :=
  ∃ m ∈ ms, m.kind = .bodyType

theorem OnBody.not_reportsType {ms : List Mismatch} (h : OnBody ms) : ¬ ReportsType ms := by
  rintro ⟨m, hm, hkind⟩
  rw [h m hm] at hkind
  cases hkind

/-- Types are reported exactly if both bodies are present and of different kinds. -/
theorem reportsType_matchBody_iff {expected actual : Message} :
    ReportsType (matchBody expected actual) ↔
      ∃ type ∈ expected.body.type?, ∃ received ∈ actual.body.type?, type.kind ≠ received.kind := by
  rw [matchBody]
  cases hexpected : expected.body with
  | absent => exact iff_of_false OnBody.nil.not_reportsType (by simp [Body.type?])
  | empty =>
    refine iff_of_false (OnBody.not_reportsType ?_) (by simp [Body.type?])
    split
    · contradiction
    · exact .single _ _ _ _
    · exact .nil
    · contradiction
    · contradiction
  | present bytes type =>
    cases hactual : actual.body with
    | absent | empty =>
      exact iff_of_false (OnBody.single _ _ _ _).not_reportsType (by simp [Body.type?])
    | present received receivedType =>
      by_cases hkinds : type.kind = receivedType.kind
      · simp only [if_pos hkinds]
        refine iff_of_false (onBody_matchKind _ _ _ _).not_reportsType ?_
        simp [Body.type?, hkinds]
      · simp only [if_neg hkinds]
        refine iff_of_true ⟨_, List.mem_singleton_self _, rfl⟩ ?_
        simp [Body.type?, hkinds]

end MockProvider.Matching
