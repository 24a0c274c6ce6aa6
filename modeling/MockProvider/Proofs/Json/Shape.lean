import MockProvider.Json.Basic
import MockProvider.Proofs.Dict.Lookup

/-!
# The shape of values

How deep the containers of a value nest, and what holds for all numbers inside a value. The
statements about items and members are those about each of them. Every value equals itself, and it
can be decided whether two values are identical, which is more than equal.
-/

namespace MockProvider.Json

/-! ## Depth -/

mutual

/-- How deep containers nest. -/
def depth : Json → Nat
  | .array items => depthItems items + 1
  | .object members => depthMembers members + 1
  | _ => 0

def depthItems : List Json → Nat
  | [] => 0
  | item :: items => max (depth item) (depthItems items)

/-- The greatest depth of the value of a member. -/
def depthMembers : List (String × Json) → Nat
  | [] => 0
  | (_, value) :: members => max (depth value) (depthMembers members)

end

theorem depthItems_le_iff {items : List Json} {d : Nat} :
    depthItems items ≤ d ↔ ∀ item ∈ items, item.depth ≤ d := by
  induction items with
  | nil => simp [depthItems]
  | cons item items ih => rw [depthItems, Nat.max_le, ih, List.forall_mem_cons]

theorem depthMembers_le_iff {members : List (String × Json)} {d : Nat} :
    depthMembers members ≤ d ↔ ∀ member ∈ members, member.2.depth ≤ d := by
  induction members with
  | nil => simp [depthMembers]
  | cons member members ih => rw [depthMembers, Nat.max_le, ih, List.forall_mem_cons]

/-! ## Numbers inside -/

mutual

/-- Something holds for all numbers inside a value. -/
def Numbers (P : Number → Prop) : Json → Prop
  | .number n => P n
  | .array items => NumbersItems P items
  | .object members => NumbersMembers P members
  | _ => True

/-- Something holds for all numbers inside the items. -/
def NumbersItems (P : Number → Prop) : List Json → Prop
  | [] => True
  | item :: items => Numbers P item ∧ NumbersItems P items

/-- Something holds for all numbers inside the values of the members. -/
def NumbersMembers (P : Number → Prop) : List (String × Json) → Prop
  | [] => True
  | (_, value) :: members => Numbers P value ∧ NumbersMembers P members

end

theorem numbersItems_iff {P : Number → Prop} {items : List Json} :
    NumbersItems P items ↔ ∀ item ∈ items, item.Numbers P := by
  induction items with
  | nil => simp [NumbersItems]
  | cons item items ih => simp [NumbersItems, ih]

theorem numbersMembers_iff {P : Number → Prop} {members : List (String × Json)} :
    NumbersMembers P members ↔ ∀ member ∈ members, member.2.Numbers P := by
  induction members with
  | nil => simp [NumbersMembers]
  | cons member members ih =>
    obtain ⟨key, value⟩ := member
    simp [NumbersMembers, ih]

mutual

theorem Numbers.imp {P Q : Number → Prop} (h : ∀ n, P n → Q n) :
    ∀ {value : Json}, value.Numbers P → value.Numbers Q
  | .number n, hn => h n hn
  | .array _, hn => NumbersItems.imp h hn
  | .object _, hn => NumbersMembers.imp h hn
  | .null, _ | .bool _, _ | .string _, _ => trivial

theorem NumbersItems.imp {P Q : Number → Prop} (h : ∀ n, P n → Q n) :
    ∀ {items : List Json}, NumbersItems P items → NumbersItems Q items
  | [], _ => trivial
  | _ :: _, hn => ⟨Numbers.imp h hn.1, NumbersItems.imp h hn.2⟩

theorem NumbersMembers.imp {P Q : Number → Prop} (h : ∀ n, P n → Q n) :
    ∀ {members : List (String × Json)}, NumbersMembers P members → NumbersMembers Q members
  | [], _ => trivial
  | (_, _) :: _, hn => ⟨Numbers.imp h hn.1, NumbersMembers.imp h hn.2⟩

end

mutual

theorem numbers_of_forall {P : Number → Prop} (h : ∀ n, P n) : ∀ value : Json, value.Numbers P
  | .number n => h n
  | .array items => numbersItems_of_forall h items
  | .object members => numbersMembers_of_forall h members
  | .null | .bool _ | .string _ => trivial

theorem numbersItems_of_forall {P : Number → Prop} (h : ∀ n, P n) :
    ∀ items : List Json, NumbersItems P items
  | [] => trivial
  | item :: items => ⟨numbers_of_forall h item, numbersItems_of_forall h items⟩

theorem numbersMembers_of_forall {P : Number → Prop} (h : ∀ n, P n) :
    ∀ members : List (String × Json), NumbersMembers P members
  | [] => trivial
  | (_, value) :: members => ⟨numbers_of_forall h value, numbersMembers_of_forall h members⟩

end

mutual

/-- The value with other numbers in place of those inside. -/
def mapNumbers (f : Number → Number) : Json → Json
  | .number n => .number (f n)
  | .array items => .array (mapNumbersItems f items)
  | .object members => .object (mapNumbersMembers f members)
  | .null => .null
  | .bool b => .bool b
  | .string s => .string s

def mapNumbersItems (f : Number → Number) : List Json → List Json
  | [] => []
  | item :: items => mapNumbers f item :: mapNumbersItems f items

def mapNumbersMembers (f : Number → Number) : List (String × Json) → List (String × Json)
  | [] => []
  | (key, value) :: members => (key, mapNumbers f value) :: mapNumbersMembers f members

end

mutual

/-- Numbers that are all replaced by themselves leave the value as it is. -/
theorem mapNumbers_eq_self {f : Number → Number} : ∀ {value : Json},
    value.Numbers (fun n => f n = n) → value.mapNumbers f = value
  | .number _, h => congrArg Json.number h
  | .array _, h => congrArg Json.array (mapNumbersItems_eq_self h)
  | .object _, h => congrArg Json.object (mapNumbersMembers_eq_self h)
  | .null, _ | .bool _, _ | .string _, _ => rfl

theorem mapNumbersItems_eq_self {f : Number → Number} : ∀ {items : List Json},
    NumbersItems (fun n => f n = n) items → mapNumbersItems f items = items
  | [], _ => rfl
  | _ :: _, h => by rw [mapNumbersItems, mapNumbers_eq_self h.1, mapNumbersItems_eq_self h.2]

theorem mapNumbersMembers_eq_self {f : Number → Number} : ∀ {members : List (String × Json)},
    NumbersMembers (fun n => f n = n) members → mapNumbersMembers f members = members
  | [], _ => rfl
  | (_, _) :: _, h => by
    rw [mapNumbersMembers, mapNumbers_eq_self h.1, mapNumbersMembers_eq_self h.2]

end

mutual

theorem mapNumbers_mapNumbers (f g : Number → Number) : ∀ value : Json,
    (value.mapNumbers f).mapNumbers g = value.mapNumbers (g ∘ f)
  | .number _ | .null | .bool _ | .string _ => rfl
  | .array items => congrArg Json.array (mapNumbersItems_mapNumbersItems f g items)
  | .object members => congrArg Json.object (mapNumbersMembers_mapNumbersMembers f g members)

theorem mapNumbersItems_mapNumbersItems (f g : Number → Number) : ∀ items : List Json,
    mapNumbersItems g (mapNumbersItems f items) = mapNumbersItems (g ∘ f) items
  | [] => rfl
  | item :: items => by
    rw [mapNumbersItems, mapNumbersItems, mapNumbersItems, mapNumbers_mapNumbers f g item,
      mapNumbersItems_mapNumbersItems f g items]

theorem mapNumbersMembers_mapNumbersMembers (f g : Number → Number) :
    ∀ members : List (String × Json),
      mapNumbersMembers g (mapNumbersMembers f members) = mapNumbersMembers (g ∘ f) members
  | [] => rfl
  | (key, value) :: members => by
    rw [mapNumbersMembers, mapNumbersMembers, mapNumbersMembers, mapNumbers_mapNumbers f g value,
      mapNumbersMembers_mapNumbersMembers f g members]

end

theorem mapNumbers_eq_null_iff {f : Number → Number} {value : Json} :
    value.mapNumbers f = .null ↔ value = .null := by
  cases value <;> simp [mapNumbers]

theorem mapNumbers_eq_string_iff {f : Number → Number} {value : Json} {s : String} :
    value.mapNumbers f = .string s ↔ value = .string s := by
  cases value <;> simp [mapNumbers]

theorem mapNumbersItems_eq (f : Number → Number) (items : List Json) :
    mapNumbersItems f items = items.map (mapNumbers f) := by
  induction items with
  | nil => rfl
  | cons item items ih => rw [mapNumbersItems, ih, List.map_cons]

theorem mapNumbersMembers_eq (f : Number → Number) (members : List (String × Json)) :
    mapNumbersMembers f members = Assoc.mapValues (mapNumbers f) members := by
  induction members with
  | nil => rfl
  | cons member members ih =>
    obtain ⟨key, value⟩ := member
    rw [mapNumbersMembers, ih]
    rfl

theorem mapNumbers_array (f : Number → Number) (items : List Json) :
    (array items).mapNumbers f = array (items.map (mapNumbers f)) :=
  congrArg array (mapNumbersItems_eq f items)

theorem mapNumbers_ofMembers (f : Number → Number) (pairs : List (String × Json)) :
    (ofMembers pairs).mapNumbers f = ofMembers (Assoc.mapValues (mapNumbers f) pairs) := by
  rw [ofMembers, mapNumbers, mapNumbersMembers_eq, ← Assoc.ofList_mapValues]
  rfl

theorem mapNumbers_ofDict (f : Number → Number) (d : Dict Json) :
    (ofDict d).mapNumbers f = ofDict (d.map (mapNumbers f)) :=
  congrArg object (mapNumbersMembers_eq f d.toList)

/-! ## Order of members -/

theorem orderedItems_iff {items : List Json} :
    OrderedItems items ↔ ∀ item ∈ items, item.Ordered := by
  induction items with
  | nil => simp [OrderedItems]
  | cons item items ih => simp [OrderedItems, ih]

theorem orderedMembers_iff {members : List (String × Json)} :
    OrderedMembers members ↔ ∀ member ∈ members, member.2.Ordered := by
  induction members with
  | nil => simp [OrderedMembers]
  | cons member members ih =>
    obtain ⟨key, value⟩ := member
    simp [OrderedMembers, ih]

/-! ## Values inside -/

theorem eq_object_of_members? {v : Json} {members : List (String × Json)}
    (h : v.members? = some members) : v = .object members := by
  cases v with
  | object members' => exact congrArg _ (Option.some.inj h)
  | _ => cases h

theorem mem_of_get? {v value : Json} {key : String} (h : v.get? key = some value) :
    ∃ members, v = .object members ∧ (key, value) ∈ members := by
  cases v with
  | object members => exact ⟨members, rfl, Assoc.mem_of_get? h⟩
  | _ => cases h

theorem Ordered.of_get? {v value : Json} {key : String} (hv : v.Ordered)
    (h : v.get? key = some value) : value.Ordered := by
  obtain ⟨members, rfl, hm⟩ := mem_of_get? h
  exact orderedMembers_iff.1 hv.2 _ hm

theorem depth_lt_of_get? {v value : Json} {key : String} (h : v.get? key = some value) :
    value.depth < v.depth := by
  obtain ⟨members, rfl, hm⟩ := mem_of_get? h
  exact Nat.lt_succ_of_le (depthMembers_le_iff.1 (Nat.le_refl _) _ hm)

theorem Ordered.of_item {items : List Json} (hv : (array items).Ordered) {item : Json}
    (h : item ∈ items) : item.Ordered :=
  orderedItems_iff.1 hv item h

theorem depth_lt_of_item {items : List Json} {item : Json} (h : item ∈ items) :
    item.depth < (array items).depth :=
  Nat.lt_succ_of_le (depthItems_le_iff.1 (Nat.le_refl _) item h)

/-! ## Equality -/

theorem number_same_refl (n : Number) : n.same n = true := by
  cases n with
  | integer value inRange => exact beq_self_eq_true value
  | float value => exact value.sameValue_refl

mutual

theorem same_refl : ∀ value : Json, value.same value = true
  | .null => rfl
  | .bool b => beq_self_eq_true b
  | .number n => number_same_refl n
  | .string s => beq_self_eq_true s
  | .array items => sameItems_refl items
  | .object members => sameMembers_refl members

theorem sameItems_refl : ∀ items : List Json, sameItems items items = true
  | [] => rfl
  | item :: items => by rw [sameItems, same_refl item, sameItems_refl items]; rfl

theorem sameMembers_refl : ∀ members : List (String × Json), sameMembers members members = true
  | [] => rfl
  | (key, value) :: members => by
    rw [sameMembers, beq_self_eq_true, same_refl value, sameMembers_refl members]; rfl

end

@[simp] theorem beq_self (value : Json) : (value == value) = true :=
  same_refl value

theorem number_same_comm (m n : Number) : m.same n = n.same m := by
  cases m with
  | integer =>
    cases n with
    | integer => exact Bool.beq_comm
    | float => rfl
  | float x =>
    cases n with
    | integer => rfl
    | float y => exact x.sameValue_comm y

theorem number_same_trans {l m n : Number} (h : l.same m = true) (h' : m.same n = true) :
    l.same n = true := by
  cases l with
  | integer =>
    cases m with
    | float => exact absurd h Bool.false_ne_true
    | integer =>
      obtain rfl := eq_of_beq h
      exact h'
  | float =>
    cases m with
    | integer => exact absurd h Bool.false_ne_true
    | float =>
      cases n with
      | integer => exact absurd h' Bool.false_ne_true
      | float => exact Binary64.sameValue_trans h h'

mutual

theorem same_comm : ∀ a b : Json, a.same b = b.same a
  | .null, b => by cases b <;> rfl
  | .bool a, b => by
    cases b with
    | bool b => exact Bool.beq_comm
    | _ => rfl
  | .number a, b => by
    cases b with
    | number b => exact number_same_comm a b
    | _ => rfl
  | .string a, b => by
    cases b with
    | string b => exact Bool.beq_comm
    | _ => rfl
  | .array as, b => by
    cases b with
    | array bs => exact sameItems_comm as bs
    | _ => rfl
  | .object as, b => by
    cases b with
    | object bs => exact sameMembers_comm as bs
    | _ => rfl

theorem sameItems_comm : ∀ as bs : List Json, sameItems as bs = sameItems bs as
  | [], bs => by cases bs <;> rfl
  | a :: as, bs => by
    cases bs with
    | nil => rfl
    | cons b bs => rw [sameItems, sameItems, same_comm a b, sameItems_comm as bs]

theorem sameMembers_comm : ∀ as bs : List (String × Json), sameMembers as bs = sameMembers bs as
  | [], bs => by cases bs <;> rfl
  | (key, a) :: as, bs => by
    cases bs with
    | nil => rfl
    | cons member bs =>
      obtain ⟨other, b⟩ := member
      rw [sameMembers, sameMembers, same_comm a b, sameMembers_comm as bs,
        Bool.beq_comm (a := key)]

end

mutual

theorem same_trans : ∀ {a b c : Json}, a.same b = true → b.same c = true → a.same c = true
  | .null, b, c, h, h' => by
    cases b with
    | null => exact h'
    | _ => exact absurd h Bool.false_ne_true
  | .bool a, b, c, h, h' => by
    cases b with
    | bool b =>
      obtain rfl : a = b := eq_of_beq h
      exact h'
    | _ => exact absurd h Bool.false_ne_true
  -- numbers compare by value, so the one in the middle need not be the first one
  | .number a, b, c, h, h' => by
    cases b with
    | number b =>
      cases c with
      | number c => exact number_same_trans h h'
      | _ => exact absurd h' Bool.false_ne_true
    | _ => exact absurd h Bool.false_ne_true
  | .string a, b, c, h, h' => by
    cases b with
    | string b =>
      obtain rfl : a = b := eq_of_beq h
      exact h'
    | _ => exact absurd h Bool.false_ne_true
  | .array as, b, c, h, h' => by
    cases b with
    | array bs =>
      cases c with
      | array cs => exact sameItems_trans h h'
      | _ => exact absurd h' Bool.false_ne_true
    | _ => exact absurd h Bool.false_ne_true
  | .object as, b, c, h, h' => by
    cases b with
    | object bs =>
      cases c with
      | object cs => exact sameMembers_trans h h'
      | _ => exact absurd h' Bool.false_ne_true
    | _ => exact absurd h Bool.false_ne_true

theorem sameItems_trans : ∀ {as bs cs : List Json},
    sameItems as bs = true → sameItems bs cs = true → sameItems as cs = true
  | [], bs, cs, h, h' => by
    cases bs with
    | nil => exact h'
    | cons => exact absurd h Bool.false_ne_true
  | a :: as, bs, cs, h, h' => by
    cases bs with
    | nil => exact absurd h Bool.false_ne_true
    | cons b bs =>
      cases cs with
      | nil => exact absurd h' Bool.false_ne_true
      | cons c cs =>
        obtain ⟨hfirst, hrest⟩ := Bool.and_eq_true_iff.1 h
        obtain ⟨hfirst', hrest'⟩ := Bool.and_eq_true_iff.1 h'
        exact Bool.and_eq_true_iff.2
          ⟨same_trans hfirst hfirst', sameItems_trans hrest hrest'⟩

theorem sameMembers_trans : ∀ {as bs cs : List (String × Json)},
    sameMembers as bs = true → sameMembers bs cs = true → sameMembers as cs = true
  | [], bs, cs, h, h' => by
    cases bs with
    | nil => exact h'
    | cons => exact absurd h Bool.false_ne_true
  | (key, a) :: as, bs, cs, h, h' => by
    cases bs with
    | nil => exact absurd h Bool.false_ne_true
    | cons member bs =>
      cases cs with
      | nil => exact absurd h' Bool.false_ne_true
      | cons member' cs =>
        obtain ⟨hfirst, hrest⟩ := Bool.and_eq_true_iff.1 h
        obtain ⟨hkey, hfirst⟩ := Bool.and_eq_true_iff.1 hfirst
        obtain ⟨hfirst', hrest'⟩ := Bool.and_eq_true_iff.1 h'
        obtain ⟨hkey', hfirst'⟩ := Bool.and_eq_true_iff.1 hfirst'
        have hkeys : (key == member'.1) = true := by
          rw [eq_of_beq hkey]
          exact hkey'
        exact Bool.and_eq_true_iff.2
          ⟨Bool.and_eq_true_iff.2 ⟨hkeys, same_trans hfirst hfirst'⟩,
            sameMembers_trans hrest hrest'⟩

end

/-! ## Identity -/

mutual

/-- Whether two values are one and the same, the signs of zeros included. -/
def identical : Json → Json → Bool
  | .null, .null => true
  | .bool a, .bool b => a == b
  | .number a, .number b => decide (a = b)
  | .string a, .string b => a == b
  | .array a, .array b => identicalItems a b
  | .object a, .object b => identicalMembers a b
  | _, _ => false

/-- Whether two lists of values are one and the same. -/
def identicalItems : List Json → List Json → Bool
  | [], [] => true
  | a :: as, b :: bs => identical a b && identicalItems as bs
  | _, _ => false

/-- Whether two lists of members are one and the same. -/
def identicalMembers : List (String × Json) → List (String × Json) → Bool
  | [], [] => true
  | (k, a) :: as, (l, b) :: bs => k == l && identical a b && identicalMembers as bs
  | _, _ => false

end

mutual

theorem identical_iff : ∀ a b : Json, identical a b = true ↔ a = b
  | .null, b => by cases b <;> simp [identical]
  | .bool _, b => by cases b <;> simp [identical]
  | .number _, b => by cases b <;> simp [identical]
  | .string _, b => by cases b <;> simp [identical]
  | .array a, b => by
    cases b with
    | array b => simp [identical, identicalItems_iff a b]
    | _ => simp [identical]
  | .object a, b => by
    cases b with
    | object b => simp [identical, identicalMembers_iff a b]
    | _ => simp [identical]

theorem identicalItems_iff : ∀ as bs : List Json, identicalItems as bs = true ↔ as = bs
  | [], bs => by cases bs <;> simp [identicalItems]
  | a :: as, bs => by
    cases bs with
    | nil => simp [identicalItems]
    | cons b bs =>
      simp [identicalItems, identical_iff a b, identicalItems_iff as bs]

theorem identicalMembers_iff : ∀ as bs : List (String × Json),
    identicalMembers as bs = true ↔ as = bs
  | [], bs => by cases bs <;> simp [identicalMembers]
  | (k, a) :: as, bs => by
    cases bs with
    | nil => simp [identicalMembers]
    | cons b bs =>
      obtain ⟨l, b⟩ := b
      simp [identicalMembers, identical_iff a b,
        identicalMembers_iff as bs, and_assoc]

end

instance : DecidableEq Json := fun a b => decidable_of_iff _ (identical_iff a b)

end MockProvider.Json
