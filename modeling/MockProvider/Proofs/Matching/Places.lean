import MockProvider.Matching.Structure
import MockProvider.Proofs.DocPath.RoundTrip
import MockProvider.Proofs.Json.Remainders

/-!
# Places of mismatches

Every mismatch of a JSON body is about a place of the received document: its path is read as that of
the place, and its received value is what is there, or nothing where nothing is. No two mismatches
are about one place: `matchJson_places`. This asks for keys without apostrophes, since other paths
are not read back.

The comparison stays below the place that it was given, so the mismatches of two parts of a container
lie below two different steps. `Scattered` keeps record of these steps: `Scattered.append` puts parts
together whose steps differ.
-/

namespace MockProvider

/-! ## Documents and places -/

/-- No key of an object inside has an apostrophe. -/
def Json.UnquotedKeys (v : Json) : Prop :=
  v.Everywhere fun x => ∀ members, x = .object members → ∀ m ∈ members, '\'' ∉ m.1.toList

theorem Json.UnquotedKeys.of_get? {members : List (String × Json)} {key : String} {x : Json}
    (hv : (Json.object members).UnquotedKeys) (h : Assoc.get? members key = some x) :
    x.UnquotedKeys :=
  hv.child? (show (Json.object members).child? (.field key) = some x from h)

theorem Json.UnquotedKeys.of_mem {items : List Json} {x : Json}
    (hv : (Json.array items).UnquotedKeys) (h : x ∈ items) : x.UnquotedKeys := by
  obtain ⟨position, hposition⟩ := List.mem_iff_getElem?.1 h
  exact hv.child? (show (Json.array items).child? (.index position) = some x from hposition)

theorem Json.unquotedKeys_scalar {v : Json} (h : v.depth = 0) : v.UnquotedKeys := by
  refine everywhere_of_depth (fun members hv => ?_) h
  rw [hv] at h
  cases h

theorem Json.unquotedKeys_array {items : List Json} (h : ∀ x ∈ items, x.UnquotedKeys) :
    (Json.array items).UnquotedKeys :=
  everywhere_array nofun h

theorem Json.unquotedKeys_object {members : List (String × Json)}
    (h : ∀ m ∈ members, '\'' ∉ m.1.toList ∧ m.2.UnquotedKeys) :
    (Json.object members).UnquotedKeys := by
  refine everywhere_object (fun members' heq => ?_) fun m hm => (h m hm).2
  cases heq
  exact fun m hm => (h m hm).1

/-- A document all of whose places have paths that are read back. -/
structure Json.Addressable (doc : Json) : Prop where
  ordered : doc.Ordered
  keys : doc.UnquotedKeys
  indexes : doc.ArraysBelow DocPath.indexBound

/-- A path that names one place and is read back. -/
structure DocPath.Names (place : DocPath) : Prop where
  concrete : place.Concrete
  writable : place.Writable

namespace DocPath

theorem names_root : Names root := ⟨nofun, nofun⟩

theorem Names.field {place : DocPath} (h : place.Names) {key : String} (hkey : '\'' ∉ key.toList) :
    (place.field key).Names :=
  ⟨forall_push h.concrete trivial, forall_push h.writable hkey⟩

theorem Names.index {place : DocPath} (h : place.Names) {position : Nat}
    (hposition : position < indexBound) : (place.index position).Names :=
  ⟨forall_push h.concrete trivial, forall_push h.writable hposition⟩

/-- Places have different texts. -/
theorem Names.eq_of_render {p q : DocPath} (hp : p.Names) (hq : q.Names)
    (h : p.render = q.render) : p = q :=
  hp.writable.eq_of_render hq.writable h

end DocPath

/-- The comparison got to a value of the received document. -/
structure Json.Reaches (doc : Json) (place : DocPath) (value : Json) : Prop where
  names : place.Names
  found : doc.at? place = some value

namespace Json.Reaches

variable {doc : Json} {place : DocPath}

theorem key {members : List (String × Json)} (h : doc.Reaches place (.object members))
    (hdoc : doc.Addressable) {m : String × Json} (hm : m ∈ members) : '\'' ∉ m.1.toList :=
  hdoc.keys place _ h.found members rfl m hm

theorem field {members : List (String × Json)} (h : doc.Reaches place (.object members))
    (hdoc : doc.Addressable) {key : String} {value : Json}
    (hget : Assoc.get? members key = some value) : doc.Reaches (place.field key) value := by
  refine ⟨h.names.field (h.key hdoc (Assoc.mem_of_get? hget)), ?_⟩
  rw [DocPath.field, Json.at?_push, h.found]
  exact hget

theorem index {items : List Json} (h : doc.Reaches place (.array items)) (hdoc : doc.Addressable)
    {position : Nat} {item : Json} (hitem : items[position]? = some item) :
    doc.Reaches (place.index position) item := by
  have hposition := (List.getElem?_eq_some_iff.1 hitem).1
  refine ⟨h.names.index (Nat.lt_trans hposition (hdoc.indexes place _ h.found items rfl)), ?_⟩
  rw [DocPath.index, Json.at?_push, h.found]
  exact hitem

end Json.Reaches

/-! ## Mismatches at places -/

/-- A mismatch is about a place: its path is that of the place, and its received value is the one
    that is there, or null where nothing is. -/
structure Mismatch.IsAt (m : Mismatch) (doc : Json) (place : DocPath) : Prop where
  kind : m.kind = .body
  path : m.path = place.render
  names : place.Names
  actual : doc.at? place = some m.actual ∨ doc.at? place = none ∧ m.actual = .null

/-- A mismatch is about the place itself, or about one at or below a step further down. -/
def Mismatch.IsWithin (m : Mismatch) (doc : Json) (place : DocPath) : Option DocPath.Step → Prop
  | none => m.IsAt doc place
  | some step => ∃ p, (place.push step).steps <+: p.steps ∧ m.IsAt doc p

/-- What is within two different branches of a place has different paths. -/
theorem Mismatch.IsWithin.path_ne {m m' : Mismatch} {doc : Json} {place : DocPath}
    {branch branch' : Option DocPath.Step} (h : m.IsWithin doc place branch)
    (h' : m'.IsWithin doc place branch') (hne : branch ≠ branch') : m.path ≠ m'.path := by
  intro hpath
  have hsame : ∀ {p q}, m.IsAt doc p → m'.IsAt doc q → p = q := fun hp hq =>
    hp.names.eq_of_render hq.names (hp.path.symm.trans (hpath.trans hq.path))
  cases branch with
  | none =>
    cases branch' with
    | none => exact hne rfl
    | some step' =>
      obtain ⟨q, hbelow', hq⟩ := h'
      rw [← hsame h hq] at hbelow'
      exact place.not_push_prefix step' hbelow'
  | some step =>
    obtain ⟨p, hbelow, hp⟩ := h
    cases branch' with
    | none =>
      rw [hsame hp h'] at hbelow
      exact place.not_push_prefix step hbelow
    | some step' =>
      obtain ⟨q, hbelow', hq⟩ := h'
      rw [← hsame hp hq] at hbelow'
      exact hne (congrArg some (DocPath.push_prefix_inj hbelow hbelow'))

theorem Mismatch.IsWithin.exists_isAt {m : Mismatch} {doc : Json} {place : DocPath}
    {branch : Option DocPath.Step} (h : m.IsWithin doc place branch) : ∃ p, m.IsAt doc p := by
  cases branch with
  | none => exact ⟨place, h⟩
  | some step => exact h.imp fun _ hp => hp.2

namespace Matching

/-- Mismatches about different places, each within one of some branches of a place. -/
structure Scattered (doc : Json) (place : DocPath) (branches : Option DocPath.Step → Prop)
    (ms : List Mismatch) : Prop where
  within : ∀ m ∈ ms, ∃ branch, branches branch ∧ m.IsWithin doc place branch
  distinct : (ms.map Mismatch.path).Nodup

namespace Scattered

variable {doc : Json} {place : DocPath} {branches branches' : Option DocPath.Step → Prop}
  {ms ms' : List Mismatch}

theorem nil : Scattered doc place branches [] := ⟨nofun, List.nodup_nil⟩

theorem single {m : Mismatch} (branch : Option DocPath.Step) (h : m.IsWithin doc place branch) :
    Scattered doc place (· = branch) [m] :=
  ⟨List.forall_mem_singleton.2 ⟨branch, rfl, h⟩, List.nodup_singleton _⟩

theorem mono (h : Scattered doc place branches ms) (hle : ∀ b, branches b → branches' b) :
    Scattered doc place branches' ms :=
  ⟨fun m hm => (h.within m hm).imp fun b hb => ⟨hle b hb.1, hb.2⟩, h.distinct⟩

/-- Mismatches within other branches can be put behind. -/
theorem append (h : Scattered doc place branches ms) (h' : Scattered doc place branches' ms')
    (hapart : ∀ b, branches b → ¬ branches' b) :
    Scattered doc place (fun b => branches b ∨ branches' b) (ms ++ ms') := by
  refine ⟨List.forall_mem_append.2 ⟨fun m hm => ?_, fun m hm => ?_⟩, ?_⟩
  · exact (h.within m hm).imp fun b hb => ⟨Or.inl hb.1, hb.2⟩
  · exact (h'.within m hm).imp fun b hb => ⟨Or.inr hb.1, hb.2⟩
  · rw [List.map_append]
    refine List.nodup_append.2 ⟨h.distinct, h'.distinct, fun path hpath path' hpath' => ?_⟩
    obtain ⟨m, hm, rfl⟩ := List.mem_map.1 hpath
    obtain ⟨m', hm', rfl⟩ := List.mem_map.1 hpath'
    obtain ⟨b, hb, hwithin⟩ := h.within m hm
    obtain ⟨b', hb', hwithin'⟩ := h'.within m' hm'
    refine hwithin.path_ne hwithin' ?_
    rintro rfl
    exact hapart b hb hb'

/-- All that is scattered below a step lies in one branch. -/
theorem below {step : DocPath.Step} (h : Scattered doc (place.push step) branches ms) :
    Scattered doc place (· = some step) ms := by
  refine ⟨fun m hm => ⟨some step, rfl, ?_⟩, h.distinct⟩
  obtain ⟨branch, -, hwithin⟩ := h.within m hm
  cases branch with
  | none => exact ⟨_, List.prefix_rfl, hwithin⟩
  | some next =>
    obtain ⟨p, hprefix, hp⟩ := hwithin
    exact ⟨p, (List.prefix_append _ _).trans hprefix, hp⟩

end Scattered

/-! ## Checks -/

/-- Wherever a check gets to in a document, it gives mismatches about different places from there. -/
def Check.Scatters (doc : Json) (check : Check) : Prop :=
  ∀ place value, doc.Reaches place value → Scattered doc place (fun _ => True) (check place value)

variable {rules : RuleTable} {doc : Json} {place : DocPath}

theorem isAt_bodyMismatch {value : Json} (h : doc.Reaches place value) (expected : Json)
    (description : String) : (bodyMismatch place expected value description).IsAt doc place :=
  ⟨rfl, rfl, h.names, Or.inl h.found⟩

theorem scattered_failuresAt {value : Json} (h : doc.Reaches place value) (expected : Json)
    (failures : List String) :
    Scattered doc place (fun _ => True) (failuresAt place expected value failures) := by
  cases failures with
  | nil => exact .nil
  | cons => exact (Scattered.single none (isAt_bodyMismatch h _ _)).mono fun _ _ => trivial

/-! ## Members -/

/-- A missing member is about a place where nothing is. -/
theorem scattered_checkMember (hdoc : doc.Addressable) {members : List (String × Json)}
    (h : doc.Reaches place (.object members)) {key : String} (hkey : '\'' ∉ key.toList)
    (expected : Json) {check : Check} (hcheck : check.Scatters doc) :
    Scattered doc place (· = some (.field key)) (checkMember place members key expected check) := by
  rw [checkMember]
  split
  · next value hvalue => exact (hcheck _ _ (h.field hdoc hvalue)).below
  · next hnone =>
    refine .single (some (.field key)) ⟨place.field key, List.prefix_rfl, rfl, rfl, ?_, ?_⟩
    · exact h.names.field hkey
    · refine Or.inr ⟨?_, rfl⟩
      rw [DocPath.field, Json.at?_push, h.found]
      exact hnone

/-- The branches of keys that are not expected. -/
def IsUnexpected (expected : List (String × Json)) (branch : Option DocPath.Step) : Prop :=
  ∃ key, branch = some (.field key) ∧ Assoc.contains expected key = false

theorem scattered_unexpectedMembers (hdoc : doc.Addressable) {members : List (String × Json)}
    (h : doc.Reaches place (.object members)) (expected : List (String × Json)) :
    Scattered doc place (IsUnexpected expected) (unexpectedMembers place expected members) := by
  have hascending : Assoc.Ascending members := (hdoc.ordered.at? h.found).1
  -- the members are taken one by one, so the induction is over any part of them
  suffices ∀ rest : List (String × Json), (∀ m ∈ rest, m ∈ members) → (rest.map Prod.fst).Nodup →
      Scattered doc place (fun b => ∃ m ∈ rest, b = some (.field m.1) ∧
        Assoc.contains expected m.1 = false) (unexpectedMembers place expected rest) from
    (this members (fun _ hm => hm) hascending.nodup_keys).mono fun b ⟨m, _, hb⟩ => ⟨m.1, hb⟩
  intro rest
  induction rest with
  | nil => exact fun _ _ => .nil
  | cons member rest ih =>
    obtain ⟨key, value⟩ := member
    intro hmem hnodup
    obtain ⟨hfirst, hothers⟩ := List.forall_mem_cons.1 hmem
    obtain ⟨hfresh, hnodup⟩ := List.nodup_cons.1 hnodup
    have hrest := ih hothers hnodup
    by_cases hexpected : Assoc.contains expected key = true
    · have hskip : unexpectedMembers place expected ((key, value) :: rest) =
          unexpectedMembers place expected rest := by
        simp [unexpectedMembers, hexpected]
      rw [hskip]
      exact hrest.mono fun b ⟨m, hm, hb⟩ => ⟨m, List.mem_cons_of_mem _ hm, hb⟩
    · have hreported : unexpectedMembers place expected ((key, value) :: rest) =
          [bodyMismatch (place.field key) .null value ("Unexpected key '" ++ key ++ "'")] ++
            unexpectedMembers place expected rest := by
        simp [unexpectedMembers, hexpected]
      have hreached := h.field hdoc (hascending.get?_of_mem hfirst)
      rw [hreported]
      refine ((Scattered.single (some (.field key))
        ⟨_, List.prefix_rfl, isAt_bodyMismatch hreached _ _⟩).append hrest ?_).mono ?_
      · rintro b rfl ⟨m, hm, heq, -⟩
        cases heq
        exact hfresh (List.mem_map.2 ⟨m, hm, rfl⟩)
      · rintro b (rfl | ⟨m, hm, hb⟩)
        · exact ⟨_, List.mem_cons_self, rfl, eq_false_of_ne_true hexpected⟩
        · exact ⟨m, List.mem_cons_of_mem _ hm, hb⟩

/-! ## Items -/

/-- The branches of indexes from one on and below another one. -/
def IsItem (first last : Nat) (branch : Option DocPath.Step) : Prop :=
  ∃ position, first ≤ position ∧ position < last ∧ branch = some (.index position)

theorem isItem_apart {a b c d : Nat} (h : b ≤ c) {branch : Option DocPath.Step}
    (hleft : IsItem a b branch) : ¬ IsItem c d branch := by
  rintro ⟨position', hge, -, rfl⟩
  obtain ⟨position, -, hlt, heq⟩ := hleft
  cases heq
  omega

/-- Mismatches of one item, and those of the items behind it. -/
theorem Scattered.consItem {first last : Nat} {ms ms' : List Mismatch} (hlast : first < last)
    (h : Scattered doc (place.index first) (fun _ => True) ms)
    (h' : Scattered doc place (IsItem (first + 1) last) ms') :
    Scattered doc place (IsItem first last) (ms ++ ms') := by
  refine (h.below.append h' ?_).mono ?_
  · rintro b rfl ⟨position, hge, -, heq⟩
    cases heq
    omega
  · rintro b (rfl | ⟨position, hge, hlt, heq⟩)
    · exact ⟨first, Nat.le_refl _, hlast, rfl⟩
    · exact ⟨position, by omega, hlt, heq⟩

/-- Items stand at their places in the document. -/
def ReachesFrom (doc : Json) (place : DocPath) (index : Nat) (items : List Json) : Prop :=
  ∀ (position : Nat) (item : Json), items[position]? = some item →
    doc.Reaches (place.index (index + position)) item

theorem ReachesFrom.tail {index : Nat} {item : Json} {items : List Json}
    (h : ReachesFrom doc place index (item :: items)) : ReachesFrom doc place (index + 1) items := by
  intro position other hother
  rw [Nat.add_right_comm]
  exact h (position + 1) other hother

theorem ReachesFrom.drop {index : Nat} {items : List Json} (h : ReachesFrom doc place index items)
    (count : Nat) : ReachesFrom doc place (index + count) (items.drop count) := by
  intro position item hitem
  rw [List.getElem?_drop] at hitem
  rw [Nat.add_assoc]
  exact h (count + position) item hitem

theorem scattered_checkPaired {checks : List Check} {items : List Json} {index : Nat}
    (hchecks : ∀ check ∈ checks, check.Scatters doc) (hitems : ReachesFrom doc place index items) :
    Scattered doc place (IsItem index (index + checks.length))
      (checkPaired place index checks items) := by
  induction checks generalizing items index with
  | nil => exact .nil
  | cons check checks ih =>
    cases items with
    | nil => exact .nil
    | cons item items =>
      obtain ⟨hcheck, hothers⟩ := List.forall_mem_cons.1 hchecks
      have hrest := ih hothers hitems.tail
      rw [Nat.add_right_comm] at hrest
      exact .consItem (Nat.lt_add_of_pos_right (Nat.succ_pos _)) (hcheck _ _ (hitems 0 item rfl)) hrest

theorem scattered_checkEach {check : Check} {items : List Json} {index : Nat}
    (hcheck : check.Scatters doc) (hitems : ReachesFrom doc place index items) :
    Scattered doc place (IsItem index (index + items.length)) (checkEach place check index items) := by
  induction items generalizing index with
  | nil => exact .nil
  | cons item items ih =>
    have hrest := ih hitems.tail
    rw [Nat.add_right_comm] at hrest
    exact .consItem (Nat.lt_add_of_pos_right (Nat.succ_pos _)) (hcheck _ _ (hitems 0 item rfl)) hrest

/-- The branches of all indexes. -/
def IsIndex (branch : Option DocPath.Step) : Prop :=
  ∃ position, branch = some (.index position)

theorem IsItem.isIndex {first last : Nat} {branch : Option DocPath.Step}
    (h : IsItem first last branch) : IsIndex branch :=
  h.imp fun _ hposition => hposition.2.2

theorem scattered_checkTemplates {checks : List Check} {items : List Json}
    (hchecks : ∀ check ∈ checks, check.Scatters doc) (hitems : ReachesFrom doc place 0 items) :
    Scattered doc place IsIndex (checkTemplates place checks items) := by
  cases checks with
  | nil => exact .nil
  | cons first checks =>
    have hpaired := scattered_checkPaired hchecks hitems
    have hpast := scattered_checkEach (hchecks first List.mem_cons_self)
      (hitems.drop (first :: checks).length)
    rw [Nat.zero_add] at hpaired hpast
    rw [checkTemplates]
    refine (hpaired.append hpast fun b => isItem_apart (Nat.le_refl _)).mono ?_
    rintro b (hb | hb)
    · exact hb.isIndex
    · exact hb.isIndex

theorem scattered_checkItems (hdoc : doc.Addressable) {items : List Json}
    (h : doc.Reaches place (.array items)) {checks : List Check}
    (hchecks : ∀ check ∈ checks, check.Scatters doc) (resolved : Option RuleTable.Resolved)
    (expected : List Json) :
    Scattered doc place (fun _ => True) (checkItems resolved place expected checks items) := by
  have hitems : ReachesFrom doc place 0 items := fun position item hitem => by
    rw [Nat.zero_add]
    exact h.index hdoc hitem
  have harray : ∀ description : Option String, Scattered doc place (· = none)
      (description.toList.map (bodyMismatch place (.array expected) (.array items))) := by
    intro description
    cases description with
    | none => exact .nil
    | some description => exact .single none (isAt_bodyMismatch h _ _)
  have happend : ∀ {description : Option String} {ms : List Mismatch},
      Scattered doc place IsIndex ms → Scattered doc place (fun _ => True)
        (description.toList.map (bodyMismatch place (.array expected) (.array items)) ++ ms) :=
    fun hms => ((harray _).append hms (by rintro b rfl ⟨_, ⟨⟩⟩)).mono fun _ _ => trivial
  rw [checkItems]
  split
  · exact happend (scattered_checkTemplates hchecks hitems)
  · exact happend ((scattered_checkPaired hchecks hitems).mono fun _ => IsItem.isIndex)

/-! ## Whole values -/

/-- The branches of expected keys. -/
def IsExpected (expected : List (String × Json)) (branch : Option DocPath.Step) : Prop :=
  ∃ m ∈ expected, branch = some (.field m.1)

theorem IsExpected.not_isUnexpected {expected : List (String × Json)}
    {branch : Option DocPath.Step} (h : IsExpected expected branch) :
    ¬ IsUnexpected expected branch := by
  rintro ⟨key, rfl, hnot⟩
  obtain ⟨m, hm, heq⟩ := h
  cases heq
  have hnone := Option.not_isSome_iff_eq_none.1 (Bool.eq_false_iff.1 hnot)
  exact Assoc.get?_eq_none_iff.1 hnone (List.mem_map.2 ⟨m, hm, rfl⟩)

mutual

theorem scatters_checkOf (hdoc : doc.Addressable) : ∀ expected : Json, expected.Ordered →
    expected.UnquotedKeys → (checkOf rules expected).Scatters doc
  | .object expected, hordered, hkeys, place, actual, h => by
    cases actual with
    | object members =>
      have hnames : ∀ m ∈ expected, '\'' ∉ m.1.toList := hkeys.self expected rfl
      have hmembers := scattered_membersCheck hdoc h expected hordered.2 hordered.1.nodup_keys
        fun m hm => ⟨hnames m hm, hkeys.of_get? (hordered.1.get?_of_mem hm)⟩
      rw [checkOf]
      split
      · exact scattered_failuresAt h _ _
      · refine (hmembers.append (?_ : Scattered doc place (IsUnexpected expected) _)
          fun b => IsExpected.not_isUnexpected).mono fun _ _ => trivial
        split
        · exact .nil
        · exact scattered_unexpectedMembers hdoc h expected
    | _ =>
      rw [checkOf]
      · split
        · exact scattered_failuresAt h _ _
        · exact scattered_failuresAt h _ _
      · simp
  | .array expected, hordered, hkeys, place, actual, h => by
    cases actual with
    | array items =>
      have hitems := scatters_itemChecks hdoc expected hordered fun _ => hkeys.of_mem
      rw [checkOf]
      split
      · exact scattered_failuresAt h _ _
      · exact scattered_checkItems hdoc h hitems _ _
    | _ =>
      rw [checkOf]
      · split
        · exact scattered_failuresAt h _ _
        · exact scattered_failuresAt h _ _
      · simp
  | .null, _, _, place, actual, h
  | .bool _, _, _, place, actual, h
  | .number _, _, _, place, actual, h
  | .string _, _, _, place, actual, h => by
    rw [checkOf]
    · exact scattered_failuresAt h _ _
    all_goals simp

theorem scatters_itemChecks (hdoc : doc.Addressable) : ∀ expected : List Json,
    Json.OrderedItems expected → (∀ item ∈ expected, item.UnquotedKeys) →
      ∀ check ∈ itemChecks rules expected, check.Scatters doc
  | [], _, _ => by simp [itemChecks]
  | item :: items, hordered, hkeys => by
    obtain ⟨hfirst, hrest⟩ := List.forall_mem_cons.1 hkeys
    rw [itemChecks]
    exact List.forall_mem_cons.2 ⟨scatters_checkOf hdoc item hordered.1 hfirst,
      scatters_itemChecks hdoc items hordered.2 hrest⟩

theorem scattered_membersCheck (hdoc : doc.Addressable) {place : DocPath}
    {members : List (String × Json)} (h : doc.Reaches place (.object members)) :
    ∀ expected : List (String × Json), Json.OrderedMembers expected →
      (expected.map Prod.fst).Nodup →
      (∀ m ∈ expected, '\'' ∉ m.1.toList ∧ m.2.UnquotedKeys) →
      Scattered doc place (IsExpected expected) (membersCheck rules expected place members)
  | [], _, _, _ => .nil
  | (key, value) :: expected, hordered, hnodup, hkeys => by
    obtain ⟨hfirst, hrest⟩ := List.forall_mem_cons.1 hkeys
    obtain ⟨hfresh, hnodup⟩ := List.nodup_cons.1 hnodup
    have hmember := scattered_checkMember hdoc h hfirst.1 value
      (scatters_checkOf hdoc value hordered.1 hfirst.2)
    have hothers := scattered_membersCheck hdoc h expected hordered.2 hnodup hrest
    rw [membersCheck]
    refine (hmember.append hothers ?_).mono ?_
    · rintro b rfl ⟨m, hm, heq⟩
      cases heq
      exact hfresh (List.mem_map.2 ⟨m, hm, rfl⟩)
    · rintro b (rfl | ⟨m, hm, hb⟩)
      · exact ⟨_, List.mem_cons_self, rfl⟩
      · exact ⟨m, List.mem_cons_of_mem _ hm, hb⟩

end

/-! ## Documents -/

/-- Documents that were read, whose keys have no apostrophes: each mismatch is about a place of the
    received one, with the value that is there, and no two mismatches are about the same place. Octets
    are counted in 64 bits, as the indexes of a path are. -/
theorem matchJson_places {expected actual : Bytes} {e a : Json} (he : Json.parse expected = .ok e)
    (ha : Json.parse actual = .ok a) (hekeys : e.UnquotedKeys) (hakeys : a.UnquotedKeys)
    (hsize : actual.length < DocPath.indexBound) :
    (∀ m ∈ matchJson rules expected actual, m.kind = .body ∧
      ∃ place, DocPath.parse m.path = .ok place ∧ place.Concrete ∧
        (a.at? place = some m.actual ∨ a.at? place = none ∧ m.actual = .null)) ∧
    ((matchJson rules expected actual).map Mismatch.path).Nodup := by
  have hdoc : a.Addressable :=
    ⟨(Json.parse_shape ha).1, hakeys, (Json.parse_arraysBelow ha).mono (Nat.le_of_lt hsize)⟩
  have hscattered : Scattered a .root (fun _ => True) (checkOf rules e .root a) :=
    scatters_checkOf hdoc e (Json.parse_shape he).1 hekeys .root a ⟨DocPath.names_root, rfl⟩
  have hmatch : matchJson rules expected actual = checkOf rules e .root a := by
    rw [matchJson, he, ha]
  rw [hmatch]
  refine ⟨fun m hm => ?_, hscattered.distinct⟩
  obtain ⟨branch, -, hwithin⟩ := hscattered.within m hm
  obtain ⟨place, hplace⟩ := hwithin.exists_isAt
  refine ⟨hplace.kind, place, ?_, hplace.names.concrete, hplace.actual⟩
  rw [hplace.path, DocPath.parse_render hplace.names.writable]

/-- Too few items by a rule, one of them of another type, keys that no plain step of a path can have,
    and one key missing. -/
theorem matchJson_places_items :
    let rules : RuleTable := { body := [⟨⟨[.field "items"]⟩, .single (.minMax (some 3) none)⟩] }
    let expected := Bytes.ofString "\x7b\"a b\":1,\"items\":[1],\"left\":true\x7d"
    let actual := Bytes.ofString "\x7b\"\":0,\"a b\":2,\"items\":[3,null]\x7d"
    (matchJson rules expected actual).map Mismatch.path =
        ["$['a b']", "$.items", "$.items[1]", "$.left", "$['']"] ∧
      ∃ e a : Json, Json.parse expected = .ok e ∧ Json.parse actual = .ok a ∧ e.UnquotedKeys ∧
        a.UnquotedKeys ∧ actual.length < DocPath.indexBound ∧
        (∀ m ∈ matchJson rules expected actual, m.kind = .body ∧
          ∃ place, DocPath.parse m.path = .ok place ∧ place.Concrete ∧
            (a.at? place = some m.actual ∨ a.at? place = none ∧ m.actual = .null)) ∧
        ((matchJson rules expected actual).map Mismatch.path).Nodup := by
  intro rules expected actual
  have hpaths : (matchJson rules expected actual).map Mismatch.path =
      ["$['a b']", "$.items", "$.items[1]", "$.left", "$['']"] := by decide +kernel
  let e : Json := .object [("a b", .ofNat 1), ("items", .array [.ofNat 1]), ("left", .bool true)]
  let a : Json := .object [("", .ofNat 0), ("a b", .ofNat 2), ("items", .array [.ofNat 3, .null])]
  have he : Json.parse expected = .ok e := by decide +kernel
  have ha : Json.parse actual = .ok a := by decide +kernel
  have hnumber : ∀ n, (Json.ofNat n).UnquotedKeys := fun _ => Json.unquotedKeys_scalar rfl
  have hbool : (Json.bool true).UnquotedKeys := Json.unquotedKeys_scalar rfl
  have hnull : Json.null.UnquotedKeys := Json.unquotedKeys_scalar rfl
  have hekeys : e.UnquotedKeys :=
    Json.unquotedKeys_object (by simp [hnumber, hbool, Json.unquotedKeys_array])
  have hakeys : a.UnquotedKeys :=
    Json.unquotedKeys_object (by simp [hnumber, hnull, Json.unquotedKeys_array])
  have hsize : actual.length < DocPath.indexBound := by decide +kernel
  exact ⟨hpaths, e, a, he, ha, hekeys, hakeys, hsize, matchJson_places he ha hekeys hakeys hsize⟩

end Matching

end MockProvider
