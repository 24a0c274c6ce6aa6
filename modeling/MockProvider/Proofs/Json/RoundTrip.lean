import MockProvider.Proofs.Json.Reading
import MockProvider.Proofs.Json.Tokens

/-!
# Reading back documents

The two ways to write a value differ in their blanks only. `Layout.write` writes a value with the
blanks of any layout, and both writers are instances of it. What a layout writes is read back, by
`value_write`, as long as the containers nest no deeper than the reader allows and each number is
read back by itself.
-/

namespace MockProvider.Json

open Utf8 (encode encodeChar)

/-! ## Layouts -/

/-- The blanks of a document: a line before each item and member and before the end of a container,
    by the number of containers around it, and a space before the value of a member. -/
structure Layout where
  line : Nat → List Char
  space : List Char
  skips_line : ∀ level rest, skipBlanks (encode (line level) ++ rest) = skipBlanks rest
  skips_space : ∀ rest, skipBlanks (encode space ++ rest) = skipBlanks rest

namespace Layout

/-- No blanks at all. -/
def compact : Layout where
  line _ := []
  space := []
  skips_line _ _ := rfl
  skips_space _ := rfl

theorem skipBlanks_newLine (level : Nat) (rest : Bytes) :
    skipBlanks (encode (newLine level) ++ rest) = skipBlanks rest := by
  refine List.dropWhile_append_of_pos fun b hb => ?_
  obtain ⟨c, hc, hb⟩ := List.mem_flatMap.1 hb
  rcases List.mem_cons.1 hc with rfl | hc
  · cases List.mem_singleton.1 hb
    rfl
  · obtain rfl := List.eq_of_mem_replicate hc
    cases List.mem_singleton.1 hb
    rfl

/-- Items and members on lines of their own. -/
def lines : Layout where
  line := newLine
  space := [' ']
  skips_line := skipBlanks_newLine
  skips_space _ := rfl

mutual

/-- A value as a layout writes it inside so many containers. -/
def write (l : Layout) (level : Nat) : Json → List Char
  | .null => ['n', 'u', 'l', 'l']
  | .bool true => ['t', 'r', 'u', 'e']
  | .bool false => ['f', 'a', 'l', 's', 'e']
  | .number n => n.toChars
  | .string s => stringChars s
  | .array [] => ['[', ']']
  | .array items => '[' :: (l.writeItems (level + 1) items ++ (l.line level ++ [']']))
  | .object [] => ['\x7b', '\x7d']
  | .object members => '\x7b' :: (l.writeMembers (level + 1) members ++ (l.line level ++ ['\x7d']))

/-- Items with commas between them. -/
def writeItems (l : Layout) (level : Nat) : List Json → List Char
  | [] => []
  | [item] => l.line level ++ l.write level item
  | item :: items => l.line level ++ (l.write level item ++ ',' :: l.writeItems level items)

/-- Members with commas between them. -/
def writeMembers (l : Layout) (level : Nat) : List (String × Json) → List Char
  | [] => []
  | [(key, value)] => l.line level ++ (stringChars key ++ ':' :: (l.space ++ l.write level value))
  | (key, value) :: members =>
    l.line level ++ (stringChars key ++ ':' :: (l.space ++ (l.write level value ++
      ',' :: l.writeMembers level members)))

end

mutual

theorem toChars_eq : ∀ (value : Json) (level : Nat), value.toChars = compact.write level value
  | .null, _ | .bool true, _ | .bool false, _ | .number _, _ | .string _, _ => by
    simp only [toChars, write]
  | .array items, level => by
    rw [toChars, itemsChars_eq items (level + 1)]
    cases items <;> rfl
  | .object members, level => by
    rw [toChars, membersChars_eq members (level + 1)]
    cases members <;> rfl

theorem itemsChars_eq : ∀ (items : List Json) (level : Nat),
    itemsChars items = compact.writeItems level items
  | [], _ => rfl
  | [item], level => by rw [itemsChars, toChars_eq item level]; rfl
  | item :: next :: items, level => by
    simp only [itemsChars, toChars_eq item level, itemsChars_eq (next :: items) level]
    rfl

theorem membersChars_eq : ∀ (members : List (String × Json)) (level : Nat),
    membersChars members = compact.writeMembers level members
  | [], _ => rfl
  | [(key, value)], level => by rw [membersChars, toChars_eq value level]; rfl
  | (key, value) :: next :: members, level => by
    simp only [membersChars, toChars_eq value level, membersChars_eq (next :: members) level]
    rfl

end

mutual

theorem prettyChars_eq : ∀ (value : Json) (level : Nat),
    value.prettyChars level = lines.write level value
  | .null, _ | .bool true, _ | .bool false, _ | .number _, _ | .string _, _ => by
    simp only [prettyChars, write]
  | .array [], _ | .object [], _ => rfl
  | .array (item :: items), level => by
    simp only [prettyChars, write, prettyItems_eq (item :: items) (level + 1), List.append_assoc]
    rfl
  | .object (member :: members), level => by
    simp only [prettyChars, write, prettyMembers_eq (member :: members) (level + 1),
      List.append_assoc]
    rfl

theorem prettyItems_eq : ∀ (items : List Json) (level : Nat),
    prettyItems level items = lines.writeItems level items
  | [], _ => rfl
  | [item], level => by rw [prettyItems, prettyChars_eq item level]; rfl
  | item :: next :: items, level => by
    simp only [prettyItems, writeItems, prettyChars_eq item level,
      prettyItems_eq (next :: items) level, List.append_assoc]
    rfl

theorem prettyMembers_eq : ∀ (members : List (String × Json)) (level : Nat),
    prettyMembers level members = lines.writeMembers level members
  | [], _ => rfl
  | [(key, value)], level => by
    simp only [prettyMembers, writeMembers, prettyChars_eq value level, List.append_assoc]
    rfl
  | (key, value) :: next :: members, level => by
    simp only [prettyMembers, writeMembers, prettyChars_eq value level,
      prettyMembers_eq (next :: members) level, List.append_assoc]
    rfl

end

/-- What stands after an item: nothing, or a comma and further items. -/
def afterItem (l : Layout) (level : Nat) : List Json → List Char
  | [] => []
  | items => ',' :: l.writeItems level items

/-- What stands after a member: nothing, or a comma and further members. -/
def afterMember (l : Layout) (level : Nat) : List (String × Json) → List Char
  | [] => []
  | members => ',' :: l.writeMembers level members

theorem writeItems_cons (l : Layout) (level : Nat) (item : Json) (items : List Json) :
    l.writeItems level (item :: items) =
      l.line level ++ (l.write level item ++ l.afterItem level items) := by
  cases items with
  | nil => simp [writeItems, afterItem]
  | cons next items => simp [writeItems, afterItem]

theorem writeMembers_cons (l : Layout) (level : Nat) (key : String) (value : Json)
    (members : List (String × Json)) :
    l.writeMembers level ((key, value) :: members) =
      l.line level ++ (stringChars key ++ ':' :: (l.space ++ (l.write level value ++
        l.afterMember level members))) := by
  cases members with
  | nil => simp [writeMembers, afterMember]
  | cons next members => simp [writeMembers, afterMember]

end Layout

/-! ## Readers and blanks -/

theorem skipBlanks_skipBlanks (input : Bytes) : skipBlanks (skipBlanks input) = skipBlanks input := by
  induction input with
  | nil => rfl
  | cons b input ih =>
    by_cases hb : isBlank b = true
    · simpa [skipBlanks, hb] using ih
    · simp [skipBlanks, hb]

/-- A reader of values passes over blanks in front. -/
theorem value_skipBlanks (budget : Nat) (input : Bytes) :
    value budget (skipBlanks input) = value budget input := by
  cases budget <;> simp only [value, valueWith, skipBlanks_skipBlanks]

/-- No value begins with the end of an array. -/
theorem first_of_value {budget : Nat} {input : Bytes} {read : Json × Bytes}
    (h : value budget input = .ok read) :
    ∃ b rest, skipBlanks input = b :: rest ∧ b ≠ 0x5D := by
  rw [← value_skipBlanks] at h
  cases hinput : skipBlanks input with
  | nil =>
    rw [hinput] at h
    cases budget <;> cases h
  | cons b rest =>
    refine ⟨b, rest, rfl, ?_⟩
    rintro rfl
    rw [hinput] at h
    cases budget <;> cases h

/-- No number goes on into the end of a container, blanks before it or not. -/
theorem stops_of_skipBlanks {b : UInt8} {rest rest' : Bytes} (h : skipBlanks rest = b :: rest')
    (hb : Stops (b :: rest')) : Stops rest := by
  cases rest with
  | nil => cases h
  | cons c rest =>
    by_cases hc : isBlank c = true
    · simp only [isBlank, Bool.or_eq_true, beq_iff_eq] at hc
      obtain ((rfl | rfl) | rfl) | rfl := hc <;> exact stops_cons rfl (by decide) rfl
    · rw [skipBlanks, List.dropWhile_cons, if_neg hc] at h
      rwa [h]

theorem items_cons {budget : Nat} {input after rest : Bytes} {v : Json} {vs : List Json}
    (hfirst : value budget input = .ok (v, after))
    (hmore : moreItems (value budget) (after.length + 1) after = .ok (vs, rest)) :
    items (value budget) input = .ok (v :: vs, rest) := by
  obtain ⟨b, input', hinput, hb⟩ := first_of_value hfirst
  rw [← value_skipBlanks, hinput] at hfirst
  simp only [items, hinput, if_neg hb, hfirst, bind, Except.bind, hmore]
  rfl

theorem moreItems_cons {budget fuel : Nat} {input after rest : Bytes} {v : Json} {vs : List Json}
    (hnext : value budget input = .ok (v, after))
    (hmore : moreItems (value budget) fuel after = .ok (vs, rest)) :
    moreItems (value budget) (fuel + 1) (0x2C :: input) = .ok (v :: vs, rest) := by
  obtain ⟨b, input', hinput, hb⟩ := first_of_value hnext
  have hcomma : skipBlanks (0x2C :: input) = 0x2C :: input := rfl
  rw [← value_skipBlanks, hinput] at hnext
  simp only [moreItems, hcomma, hinput, if_neg hb, hnext, bind, Except.bind, hmore]
  rfl

theorem moreItems_nil {item : ValueReader} {fuel : Nat} {input rest : Bytes}
    (h : skipBlanks input = 0x5D :: rest) : moreItems item (fuel + 1) input = .ok ([], rest) := by
  simp only [moreItems, h, if_true]

theorem member_cons {item : ValueReader} {input afterKey afterColon rest : Bytes} {key : String}
    {v : Json} (hkey : stringAfterQuote input = .ok (key, afterKey))
    (hcolon : skipBlanks afterKey = 0x3A :: afterColon) (hvalue : item afterColon = .ok (v, rest)) :
    member (fun _ => item) input = .ok ((key, v), rest) := by
  simp only [member, hkey, bind, Except.bind, colon, hcolon, if_true, hvalue]
  rfl

theorem members_cons {item : ValueReader} {input input' after rest : Bytes} {m : String × Json}
    {ms : List (String × Json)} (hquote : skipBlanks input = 0x22 :: input')
    (hfirst : member (fun _ => item) input' = .ok (m, after))
    (hmore : moreMembers (fun _ => item) (after.length + 1) after = .ok (ms, rest)) :
    members (fun _ => item) input = .ok (m :: ms, rest) := by
  have hne : ¬ (0x22 : UInt8) = 0x7D := by decide
  simp only [members, hquote, if_neg hne, if_true, hfirst, bind, Except.bind, hmore]
  rfl

theorem moreMembers_cons {item : ValueReader} {fuel : Nat} {input input' after rest : Bytes}
    {m : String × Json} {ms : List (String × Json)} (hquote : skipBlanks input = 0x22 :: input')
    (hnext : member (fun _ => item) input' = .ok (m, after))
    (hmore : moreMembers (fun _ => item) fuel after = .ok (ms, rest)) :
    moreMembers (fun _ => item) (fuel + 1) (0x2C :: input) = .ok (m :: ms, rest) := by
  have hcomma : skipBlanks (0x2C :: input) = 0x2C :: input := rfl
  have hne : ¬ (0x2C : UInt8) = 0x7D := by decide
  simp only [moreMembers, hcomma, if_neg hne, if_true, hquote, hnext, bind, Except.bind, hmore]
  rfl

theorem moreMembers_nil {item : ValueReader} {fuel : Nat} {input rest : Bytes}
    (h : skipBlanks input = 0x7D :: rest) :
    moreMembers (fun _ => item) (fuel + 1) input = .ok ([], rest) := by
  simp only [moreMembers, h, if_true]

/-! ## What layouts write -/

namespace Layout

theorem value_line (l : Layout) (budget level : Nat) (rest : Bytes) :
    value budget (encode (l.line level) ++ rest) = value budget rest := by
  rw [← value_skipBlanks, l.skips_line, value_skipBlanks]

theorem value_space (l : Layout) (budget : Nat) (rest : Bytes) :
    value budget (encode l.space ++ rest) = value budget rest := by
  rw [← value_skipBlanks, l.skips_space, value_skipBlanks]

theorem skips_quote (l : Layout) (level : Nat) (rest : Bytes) :
    skipBlanks (encode (l.line level) ++ 0x22 :: rest) = 0x22 :: rest :=
  l.skips_line level _

theorem encode_afterItem_cons (l : Layout) (level : Nat) (item : Json) (items : List Json) :
    encode (l.afterItem level (item :: items)) =
      0x2C :: (encode (l.line level) ++
        (encode (l.write level item) ++ encode (l.afterItem level items))) := by
  have hcomma : encodeChar ',' = [0x2C] := rfl
  rw [afterItem, writeItems_cons]
  · simp only [Utf8.encode_cons, Utf8.encode_append, hcomma, List.singleton_append]
  · simp

theorem length_lt_afterItem (l : Layout) (level : Nat) (items : List Json) (rest : Bytes) :
    items.length < (encode (l.afterItem level items) ++ rest).length + 1 := by
  induction items with
  | nil => exact Nat.succ_pos _
  | cons item items ih =>
    simp only [encode_afterItem_cons, List.length_cons, List.length_append, List.cons_append] at ih ⊢
    omega

theorem stops_afterItem (l : Layout) (level : Nat) (items : List Json) {rest rest' : Bytes}
    (h : skipBlanks rest = 0x5D :: rest') : Stops (encode (l.afterItem level items) ++ rest) := by
  cases items with
  | nil => exact stops_of_skipBlanks h (stops_cons rfl (by decide) rfl)
  | cons item items =>
    rw [encode_afterItem_cons]
    exact stops_cons rfl (by decide) rfl

/-- The octets of a member after its opening quote: what is left of the key, a colon, the value. -/
def memberOctets (l : Layout) (level : Nat) (key : String) (v : Json) : Bytes :=
  encode (key.toList.flatMap escapeChar ++ ['"']) ++
    0x3A :: (encode l.space ++ encode (l.write level v))

theorem encode_writeMembers_cons (l : Layout) (level : Nat) (key : String) (v : Json)
    (members : List (String × Json)) :
    encode (l.writeMembers level ((key, v) :: members)) =
      encode (l.line level) ++ 0x22 :: (l.memberOctets level key v ++
        encode (l.afterMember level members)) := by
  have hquote : encodeChar '"' = [0x22] := rfl
  have hcolon : encodeChar ':' = [0x3A] := rfl
  simp only [writeMembers_cons, memberOctets, stringChars, Utf8.encode_cons, Utf8.encode_append,
    Utf8.encode_nil, hquote, hcolon, List.append_assoc, List.cons_append, List.nil_append]

theorem encode_afterMember_cons (l : Layout) (level : Nat) (member : String × Json)
    (members : List (String × Json)) :
    encode (l.afterMember level (member :: members)) =
      0x2C :: encode (l.writeMembers level (member :: members)) := rfl

theorem length_lt_afterMember (l : Layout) (level : Nat) (members : List (String × Json))
    (rest : Bytes) : members.length < (encode (l.afterMember level members) ++ rest).length + 1 := by
  induction members with
  | nil => exact Nat.succ_pos _
  | cons member members ih =>
    obtain ⟨key, v⟩ := member
    simp only [encode_afterMember_cons, encode_writeMembers_cons, List.length_cons,
      List.length_append, List.cons_append] at ih ⊢
    omega

theorem stops_afterMember (l : Layout) (level : Nat) (members : List (String × Json))
    {rest rest' : Bytes} (h : skipBlanks rest = 0x7D :: rest') :
    Stops (encode (l.afterMember level members) ++ rest) := by
  cases members with
  | nil => exact stops_of_skipBlanks h (stops_cons rfl (by decide) rfl)
  | cons member members => exact stops_cons rfl (by decide) rfl

theorem member_memberOctets (l : Layout) {budget level : Nat} (key : String) {v w : Json}
    {rest : Bytes} (h : value budget (encode (l.write level v) ++ rest) = .ok (w, rest)) :
    member (fun _ => value budget) (l.memberOctets level key v ++ rest) = .ok ((key, w), rest) := by
  have hvalue : value budget (encode l.space ++ (encode (l.write level v) ++ rest)) = .ok (w, rest) := by
    rw [value_space, h]
  rw [memberOctets, List.append_assoc, List.cons_append, List.append_assoc]
  exact member_cons (stringAfterQuote_stringChars key _) rfl hvalue

theorem value_array (budget : Nat) (input : Bytes) :
    value (budget + 1) (0x5B :: input) =
      (do let (values, rest) ← items (value budget) input; return (.array values, rest)) := rfl

theorem value_object (budget : Nat) (input : Bytes) :
    value (budget + 1) (0x7B :: input) =
      (do
        let (pairs, rest) ← members (fun _ => value budget) input
        return (ofMembers pairs, rest)) := rfl

theorem encode_array_cons (l : Layout) (level : Nat) (item : Json) (items : List Json) :
    encode (l.write level (.array (item :: items))) =
      0x5B :: (encode (l.line (level + 1)) ++ (encode (l.write (level + 1) item) ++
        (encode (l.afterItem (level + 1) items) ++ (encode (l.line level) ++ [0x5D])))) := by
  have hopen : encodeChar '[' = [0x5B] := rfl
  have hclose : encode [']'] = [0x5D] := rfl
  rw [write]
  · simp only [writeItems_cons, Utf8.encode_cons, Utf8.encode_append, hopen, hclose,
      List.append_assoc, List.cons_append, List.nil_append]
  · simp

theorem encode_object_cons (l : Layout) (level : Nat) (key : String) (v : Json)
    (members : List (String × Json)) :
    encode (l.write level (.object ((key, v) :: members))) =
      0x7B :: (encode (l.line (level + 1)) ++ 0x22 :: (l.memberOctets (level + 1) key v ++
        (encode (l.afterMember (level + 1) members) ++ (encode (l.line level) ++ [0x7D])))) := by
  have hopen : encodeChar '\x7b' = [0x7B] := rfl
  have hclose : encode ['\x7d'] = [0x7D] := rfl
  rw [write]
  · simp only [Utf8.encode_cons, Utf8.encode_append, encode_writeMembers_cons, hopen, hclose,
      List.append_assoc, List.cons_append, List.nil_append]
  · simp

mutual

/-- A value is read from what a layout writes, with the numbers that are read for those inside. -/
theorem value_write (l : Layout) {f : Number → Number} : ∀ (v : Json) (level budget : Nat)
    (rest : Bytes), v.Ordered → v.depth ≤ budget → v.Numbers (fun n => n.ReadsAs (f n)) →
      Stops rest → value budget (encode (l.write level v) ++ rest) = .ok (v.mapNumbers f, rest)
  | .null, _, budget, _, _, _, _, _ => by cases budget <;> rfl
  | .bool true, _, budget, _, _, _, _, _ => by cases budget <;> rfl
  | .bool false, _, budget, _, _, _, _, _ => by cases budget <;> rfl
  | .number n, _, budget, rest, _, _, hn, hrest => by
    cases budget with
    | zero => exact hn none rest hrest
    | succ budget => exact hn (some (value budget)) rest hrest
  | .string s, _, budget, rest, _, _, _, _ => by
    have hread := stringAfterQuote_stringChars s rest
    have hquoted : ∀ nested, valueWith nested (encode (stringChars s) ++ rest) =
        (do
          let (s, rest) ← stringAfterQuote (encode (s.toList.flatMap escapeChar ++ ['"']) ++ rest)
          return (.string s, rest)) := fun _ => rfl
    cases budget <;> rw [value, write, hquoted, hread] <;> rfl
  | .array [], _, budget + 1, _, _, _, _, _ => rfl
  | .object [], _, budget + 1, _, _, _, _, _ => rfl
  | .array (item :: items), level, budget + 1, rest, hordered, hdepth, hn, hrest => by
    have hdepth := Nat.max_le.1 (Nat.le_of_succ_le_succ hdepth)
    have hend : skipBlanks (encode (l.line level) ++ 0x5D :: rest) = 0x5D :: rest :=
      l.skips_line level _
    -- an item is followed by a comma or the end of the array, so a number stops there
    have hfirst := value_write l item (level + 1) budget _ hordered.1 hdepth.1 hn.1
      (l.stops_afterItem (level + 1) items hend)
    -- each item left takes an octet, so the length of the input is fuel enough
    have hfuel := l.length_lt_afterItem (level + 1) items (encode (l.line level) ++ 0x5D :: rest)
    have hmore := moreItems_write l items (level + 1) budget _ _ _ hordered.2 hdepth.2 hn.2 hfuel hend
    rw [← l.value_line budget (level + 1)] at hfirst
    have hitems := items_cons hfirst hmore
    simp only [encode_array_cons, List.cons_append, List.append_assoc, List.nil_append, value_array,
      hitems]
    rfl
  | .object ((key, v) :: members), level, budget + 1, rest, hordered, hdepth, hn, hrest => by
    obtain ⟨hascending, hordered⟩ := hordered
    have hdepth := Nat.max_le.1 (Nat.le_of_succ_le_succ hdepth)
    have hend : skipBlanks (encode (l.line level) ++ 0x7D :: rest) = 0x7D :: rest :=
      l.skips_line level _
    have hfirst := l.member_memberOctets key (value_write l v (level + 1) budget _
      hordered.1 hdepth.1 hn.1 (l.stops_afterMember (level + 1) members hend))
    have hfuel := l.length_lt_afterMember (level + 1) members (encode (l.line level) ++ 0x7D :: rest)
    have hmore := moreMembers_write l members (level + 1) budget _ _ _ hordered.2 hdepth.2 hn.2
      hfuel hend
    have hmembers := members_cons (l.skips_quote (level + 1) _) hfirst hmore
    simp only [encode_object_cons, List.cons_append, List.append_assoc, List.nil_append,
      value_object, hmembers]
    -- keys that ascend are not moved when an object is made from the members
    have hascending' := hascending.mapValues (mapNumbers f)
    rw [← mapNumbersMembers_eq] at hascending'
    exact congrArg (fun members => Except.ok (Json.object members, rest)) hascending'.ofList_eq

theorem moreItems_write (l : Layout) {f : Number → Number} : ∀ (items : List Json)
    (level budget fuel : Nat) (rest rest' : Bytes), OrderedItems items →
      depthItems items ≤ budget → NumbersItems (fun n => n.ReadsAs (f n)) items →
        items.length < fuel → skipBlanks rest = 0x5D :: rest' →
          moreItems (value budget) fuel (encode (l.afterItem level items) ++ rest) =
            .ok (mapNumbersItems f items, rest')
  | [], _, _, fuel + 1, _, _, _, _, _, _, hend => moreItems_nil hend
  | item :: items, level, budget, fuel + 1, rest, rest', hordered, hdepth, hn, hfuel, hend => by
    have hdepth := Nat.max_le.1 hdepth
    have hnext := value_write l item level budget _ hordered.1 hdepth.1 hn.1
      (l.stops_afterItem level items hend)
    have hmore := moreItems_write l items level budget fuel rest rest' hordered.2 hdepth.2 hn.2
      (Nat.lt_of_succ_lt_succ hfuel) hend
    rw [← l.value_line budget level] at hnext
    rw [encode_afterItem_cons, List.cons_append, List.append_assoc, List.append_assoc]
    exact moreItems_cons hnext hmore

theorem moreMembers_write (l : Layout) {f : Number → Number} : ∀ (members : List (String × Json))
    (level budget fuel : Nat) (rest rest' : Bytes), OrderedMembers members →
      depthMembers members ≤ budget → NumbersMembers (fun n => n.ReadsAs (f n)) members →
        members.length < fuel → skipBlanks rest = 0x7D :: rest' →
          moreMembers (fun _ => value budget) fuel (encode (l.afterMember level members) ++ rest) =
            .ok (mapNumbersMembers f members, rest')
  | [], _, _, fuel + 1, _, _, _, _, _, _, hend => moreMembers_nil hend
  | (key, v) :: members, level, budget, fuel + 1, rest, rest', hordered, hdepth, hn, hfuel, hend => by
    have hdepth := Nat.max_le.1 hdepth
    have hnext := l.member_memberOctets key (value_write l v level budget _ hordered.1
      hdepth.1 hn.1 (l.stops_afterMember level members hend))
    have hmore := moreMembers_write l members level budget fuel rest rest' hordered.2 hdepth.2 hn.2
      (Nat.lt_of_succ_lt_succ hfuel) hend
    rw [encode_afterMember_cons, encode_writeMembers_cons, List.cons_append, List.append_assoc,
      List.cons_append, List.append_assoc]
    exact moreMembers_cons (l.skips_quote level _) hnext hmore

end

end Layout

/-! ## Documents -/

/-- A value that a whole document can hold and give back. -/
structure Storable (v : Json) : Prop where
  ordered : v.Ordered
  depth : v.depth ≤ maxDepth
  numbers : v.Numbers Number.Rereads

/-- What a layout writes is a document whatever its numbers are read as. -/
theorem Layout.parse_write (l : Layout) {f : Number → Number} {v : Json} (hordered : v.Ordered)
    (hdepth : v.depth ≤ maxDepth) (hn : v.Numbers fun n => n.ReadsAs (f n)) :
    parse (encode (l.write 0 v)) = .ok (v.mapNumbers f) := by
  have hread := l.value_write v 0 maxDepth [] hordered hdepth hn stops_nil
  rw [List.append_nil] at hread
  rw [parse, document, hread]
  rfl

/-! ## Values inside documents -/

/-- A value that can stand inside a document, where containers may still nest so deep, and whose
    numbers are all of a kind. -/
structure Fits (P : Number → Prop) (room : Nat) (v : Json) : Prop where
  ordered : v.Ordered
  depth : v.depth ≤ room
  numbers : v.Numbers P

namespace Fits

variable {P : Number → Prop}

theorem storable {v : Json} (h : v.Fits Number.Rereads maxDepth) : v.Storable :=
  ⟨h.ordered, h.depth, h.numbers⟩

theorem imp {Q : Number → Prop} (hPQ : ∀ n, P n → Q n) {room : Nat} {v : Json}
    (h : v.Fits P room) : v.Fits Q room :=
  ⟨h.ordered, h.depth, h.numbers.imp hPQ⟩

theorem mono {room room' : Nat} {v : Json} (h : v.Fits P room) (hroom : room ≤ room') :
    v.Fits P room' :=
  ⟨h.ordered, Nat.le_trans h.depth hroom, h.numbers⟩

theorem string (room : Nat) (s : String) : (Json.string s).Fits P room :=
  ⟨trivial, Nat.zero_le room, trivial⟩

theorem ofNat (room n : Nat) : (Json.ofNat n).Fits Number.IsInteger room := by
  have hinteger : (Number.ofNat n).IsInteger := by
    unfold Number.ofNat
    split <;> trivial
  exact ⟨trivial, Nat.zero_le room, hinteger⟩

theorem array {room : Nat} {items : List Json} (h : ∀ item ∈ items, item.Fits P room) :
    (Json.array items).Fits P (room + 1) where
  ordered := orderedItems_iff.2 fun item hitem => (h item hitem).ordered
  depth := Nat.succ_le_succ (depthItems_le_iff.2 fun item hitem => (h item hitem).depth)
  numbers := numbersItems_iff.2 fun item hitem => (h item hitem).numbers

theorem ofMembers {room : Nat} {pairs : List (String × Json)}
    (h : ∀ pair ∈ pairs, pair.2.Fits P room) : (Json.ofMembers pairs).Fits P (room + 1) where
  ordered := ordered_ofMembers fun pair hpair => (h pair hpair).ordered
  depth := depth_ofMembers_le fun pair hpair => (h pair hpair).depth
  numbers := numbersMembers_iff.2 fun pair hpair => (h pair (Assoc.mem_ofList hpair)).numbers

theorem ofDict {room : Nat} {d : Dict Json} (h : ∀ entry ∈ d.toList, entry.2.Fits P room) :
    (Json.ofDict d).Fits P (room + 1) where
  ordered := ⟨d.ascending, orderedMembers_iff.2 fun entry hentry => (h entry hentry).ordered⟩
  depth := Nat.succ_le_succ (depthMembers_le_iff.2 fun entry hentry => (h entry hentry).depth)
  numbers := numbersMembers_iff.2 fun entry hentry => (h entry hentry).numbers

theorem insert {room : Nat} {members : List (String × Json)}
    (h : (Json.object members).Fits P (room + 1)) {value : Json} (hvalue : value.Fits P room)
    (key : String) : (Json.object (Assoc.insert key value members)).Fits P (room + 1) := by
  have hdepth := depthMembers_le_iff.1 (Nat.le_of_succ_le_succ h.depth)
  have hmembers : ∀ member ∈ Assoc.insert key value members, member.2.Fits P room := by
    intro member hmember
    rcases Assoc.mem_insert hmember with rfl | hmem
    · exact hvalue
    · exact ⟨orderedMembers_iff.1 h.ordered.2 member hmem, hdepth member hmem,
        numbersMembers_iff.1 h.numbers member hmem⟩
  exact ofDict (d := ⟨Assoc.insert key value members, h.ordered.1.insert key value⟩) hmembers

theorem ofStrings (room : Nat) (values : List String) :
    (Json.ofStrings values).Fits P (room + 1) := by
  refine array fun item hitem => ?_
  obtain ⟨s, -, rfl⟩ := List.mem_map.1 hitem
  exact string room s

end Fits

end MockProvider.Json
