import MockProvider.Proofs.Matching.HeaderElements
import MockProvider.Proofs.Matching.Reflexive
import MockProvider.Proofs.Message.Lookup

/-!
# Comparing headers element by element

Headers are compared in normal forms, which are texts. The normal form of a header tells its
elements and no more, and that of a content type its parts, so a header without rules matches just
when the elements or the parts are the same; and a normal form is its own normal form
(`matchHeaders_by_elements`).
-/

namespace MockProvider

/-! ## Headers of a message -/

/-- The message has a header with the name, in whatever case, and with these values. -/
def Message.Carries (m : Message) (name : String) (values : List String) : Prop :=
  ∃ entry ∈ (m.headers.getD .empty).toList,
    Ascii.sameIgnoringCase entry.1 name = true ∧ entry.2 = values

/-- Where names are distinct, the header that is found is the only one. -/
theorem Message.header?_eq_some_iff {m : Message} (h : (m.headers.getD .empty).Distinct)
    {name : String} {values : List String} :
    m.header? name = some values ↔ m.Carries name values := by
  rw [header?_eq, Carries]
  constructor
  · intro hfound
    obtain ⟨entry, hentry, hname, hvalues⟩ := Headers.mem_of_lookup? hfound
    exact ⟨entry, hentry, beq_iff_eq.2 hname, hvalues⟩
  · rintro ⟨entry, hentry, hname, rfl⟩
    rw [← Headers.lookup?_congr hname]
    exact h.lookup?_of_mem hentry

namespace Matching

/-! ## Content types -/

/-- A part of a content type in lower case and without blanks. -/
def contentTypePart (part : String) : String :=
  String.ofList ((Ascii.lower (Text.trim part)).toList.filter (· != ' '))

theorem contentTypeParts_eq (value : String) :
    contentTypeParts value =
      ((Text.split ';' value).map contentTypePart).filter fun part => !part.isEmpty := rfl

theorem toList_contentTypePart (part : String) :
    (contentTypePart part).toList =
      ((Text.trimChars part.toList).map Char.toLower).filter (· != ' ') := by
  simp only [contentTypePart, Ascii.lower, Text.trim, String.toList_ofList]

theorem isBlank_toLower (c : Char) : Text.isBlank c.toLower = Text.isBlank c := by
  simp only [Text.isBlank, Ascii.toNat_toLower]
  grind

theorem eq_of_toLower_eq_semicolon {c : Char} (h : c.toLower = ';') : c = ';' := by
  have hcode : c.toLower.toNat = 59 := congrArg Char.toNat h
  rw [Ascii.toNat_toLower] at hcode
  apply Char.toNat_inj.1
  show c.toNat = 59
  split at hcode <;> omega

/-- What is left of a part is trimmed, in lower case and without blanks. -/
theorem contentTypePart_contentTypePart (part : String) :
    contentTypePart (contentTypePart part) = contentTypePart part := by
  -- no blank stands at the ends after trimming, and none gets there when those inside are dropped
  have htrimmed : Text.Trimmed (contentTypePart part).toList := by
    rw [toList_contentTypePart]
    refine ((Text.trimmed_trimChars _).map isBlank_toLower).filter fun c hc => ?_
    rw [bne_iff_ne]
    rintro rfl
    cases hc
  have hlower : (contentTypePart part).toList.map Char.toLower = (contentTypePart part).toList := by
    refine (List.map_congr_left fun c hc => ?_).trans (List.map_id _)
    rw [toList_contentTypePart] at hc
    obtain ⟨c, -, rfl⟩ := List.mem_map.1 (List.mem_filter.1 hc).1
    exact Ascii.toLower_toLower c
  apply String.toList_inj.1
  rw [toList_contentTypePart (contentTypePart part), htrimmed.trimChars_eq, hlower,
    toList_contentTypePart, List.filter_filter]
  simp only [Bool.and_self]

/-- A text that is the only part of itself. -/
structure IsTypePart (text : String) : Prop where
  semicolon : ';' ∉ text.toList
  normal : contentTypePart text = text
  nonempty : text.isEmpty = false

theorem isTypePart_of_mem {value part : String} (h : part ∈ contentTypeParts value) :
    IsTypePart part := by
  rw [contentTypeParts_eq, List.mem_filter] at h
  obtain ⟨raw, hraw, rfl⟩ := List.mem_map.1 h.1
  refine ⟨fun hmem => ?_, contentTypePart_contentTypePart raw, by simpa using h.2⟩
  rw [toList_contentTypePart] at hmem
  obtain ⟨c, hc, hlower⟩ := List.mem_map.1 (List.mem_filter.1 hmem).1
  cases eq_of_toLower_eq_semicolon hlower
  exact Text.not_mem_of_mem_split hraw (Text.mem_of_mem_trimChars hc)

/-- The parts stand in the normal form, so it tells them apart. -/
theorem contentTypeParts_normalContentType (value : String) :
    contentTypeParts (normalContentType value) = contentTypeParts value := by
  rw [normalContentType]
  -- all that counts is that the parts are parts of themselves
  have hparts : ∀ part ∈ contentTypeParts value, IsTypePart part := fun _ => isTypePart_of_mem
  generalize contentTypeParts value = parts at hparts
  by_cases hnone : parts = []
  · rw [hnone]
    rfl
  · have hcut : Text.split ';' (Text.join ";" parts) = parts :=
      Text.split_join hnone fun part hpart => (hparts part hpart).semicolon
    have hnormal : parts.map contentTypePart = parts :=
      (List.map_congr_left fun part hpart => (hparts part hpart).normal).trans (List.map_id _)
    rw [contentTypeParts_eq, hcut, hnormal]
    exact List.filter_eq_self.2 fun part hpart => by simp [(hparts part hpart).nonempty]

theorem normalContentType_eq_iff {value other : String} :
    normalContentType value = normalContentType other ↔
      contentTypeParts value = contentTypeParts other := by
  constructor
  · intro h
    rw [← contentTypeParts_normalContentType, h, contentTypeParts_normalContentType]
  · intro h
    rw [normalContentType, h, ← normalContentType]

theorem normalContentType_normalContentType (value : String) :
    normalContentType (normalContentType value) = normalContentType value := by
  rw [normalContentType, contentTypeParts_normalContentType, ← normalContentType]

/-! ## Headers without rules -/

variable {rules : RuleTable} {expected actual : Message} {name : String} {values : List String}

theorem headerFailures_eq_nil_iff (h : rules.resolveNamed .header name = none)
    {wanted received : String} :
    headerFailures rules name wanted received = [] ↔ sameHeader name wanted received = true := by
  rw [headerFailures, h, outcome]
  split <;> simp_all

theorem sameHeader_iff (h : Ascii.sameIgnoringCase name "content-type" = false)
    {received : List String} :
    sameHeader name (normalHeader values) (normalHeader received) = true ↔
      comparedElements values = comparedElements received := by
  rw [sameHeader, h, if_neg Bool.false_ne_true, beq_iff_eq, normalHeader_eq_iff]

theorem sameHeader_type_iff (h : Ascii.sameIgnoringCase name "content-type" = true)
    {wanted received : String} :
    sameHeader name wanted received = true ↔
      contentTypeParts wanted = contentTypeParts received := by
  rw [sameHeader, if_pos h, beq_iff_eq, normalContentType_eq_iff]

theorem headerMismatch_eq_none_iff (h : rules.resolveNamed .header name = none) :
    headerMismatch rules actual name values = none ↔
      ∃ received, actual.header? name = some received ∧
        sameHeader name (normalHeader values) (normalHeader received) = true := by
  rw [headerMismatch]
  cases actual.header? name with
  | none => simp
  | some received =>
    simp only [Option.some.injEq, exists_eq_left', ← headerFailures_eq_nil_iff h]
    split <;> simp_all

theorem path_of_headerMismatch {m : Mismatch}
    (h : headerMismatch rules actual name values = some m) : m.path = name := by
  rw [headerMismatch] at h
  split at h
  · cases h
    rfl
  · simp only at h
    split at h
    · cases h
    · cases h
      rfl

/-- A header of the expected message is among the mismatches just when it has one. -/
theorem exists_mem_matchHeaders_iff
    (h : (expected.headers.getD .empty).get? name = some values) :
    (∃ m ∈ matchHeaders expected actual, m.path = name) ↔
      headerMismatch expected.rules actual name values ≠ none := by
  rw [matchHeaders]
  cases hheaders : expected.headers with
  | none =>
    rw [hheaders] at h
    cases h
  | some headers =>
    rw [hheaders, Option.getD_some] at h
    simp only [List.mem_filterMap]
    constructor
    -- no two expected headers have one name, so the mismatch with this path is of this header
    · rintro ⟨m, ⟨⟨other, others⟩, hentry, hm⟩, rfl⟩
      rw [path_of_headerMismatch hm] at h ⊢
      rw [Dict.get?_of_mem hentry] at h
      cases h
      rw [hm]
      exact Option.some_ne_none m
    · intro hne
      obtain ⟨m, hm⟩ := Option.ne_none_iff_exists'.1 hne
      exact ⟨m, ⟨(name, values), Dict.get?_eq_some_iff.1 h, hm⟩, path_of_headerMismatch hm⟩

/-- A header without rules is compared by its elements, whatever values they stand in, and a content
    type by its parts. The normal forms that are compared are normal themselves. -/
theorem matchHeaders_by_elements :
    (∀ expected actual : Message, (actual.headers.getD .empty).Distinct →
      ∀ name values, (expected.headers.getD .empty).get? name = some values →
        expected.rules.resolveNamed .header name = none →
        (Ascii.sameIgnoringCase name "content-type" = false →
          ((∃ m ∈ matchHeaders expected actual, m.path = name) ↔
            (∀ received, ¬ actual.Carries name received) ∨
              ∃ received, actual.Carries name received ∧
                comparedElements values ≠ comparedElements received)) ∧
        (Ascii.sameIgnoringCase name "content-type" = true →
          ((∀ m ∈ matchHeaders expected actual, m.path ≠ name) ↔
            ∃ received, actual.Carries name received ∧
              contentTypeParts (normalHeader values) = contentTypeParts (normalHeader received)))) ∧
    (∀ values, normalHeader [normalHeader values] = normalHeader values) ∧
    ∀ value, normalContentType (normalContentType value) = normalContentType value := by
  refine ⟨fun expected actual hdistinct name values hexpected hrule => ⟨fun hname => ?_,
    fun hname => ?_⟩, normalHeader_normalHeader, normalContentType_normalContentType⟩
  · rw [exists_mem_matchHeaders_iff hexpected, ne_eq, headerMismatch_eq_none_iff hrule]
    simp only [sameHeader_iff hname, Message.header?_eq_some_iff hdistinct]
    constructor
    · intro h
      by_cases hcarries : ∃ received, actual.Carries name received
      · obtain ⟨received, hreceived⟩ := hcarries
        exact Or.inr ⟨received, hreceived, fun hsame => h ⟨received, hreceived, hsame⟩⟩
      · exact Or.inl (not_exists.1 hcarries)
    · rintro (hmissing | ⟨received, hreceived, hdiffer⟩) ⟨other, hother, hsame⟩
      · exact hmissing other hother
      -- there is one header with the name, so both are it
      · have hfirst := (Message.header?_eq_some_iff hdistinct).2 hreceived
        rw [(Message.header?_eq_some_iff hdistinct).2 hother] at hfirst
        cases hfirst
        exact hdiffer hsame
  · have hnone : (∀ m ∈ matchHeaders expected actual, m.path ≠ name) ↔
        ¬ ∃ m ∈ matchHeaders expected actual, m.path = name := by
      simp only [not_exists, not_and, ne_eq]
    rw [hnone, exists_mem_matchHeaders_iff hexpected, ne_eq, not_not,
      headerMismatch_eq_none_iff hrule]
    simp only [sameHeader_type_iff hname, Message.header?_eq_some_iff hdistinct]

/-- A page with its type, and with a mark that has no values. -/
def expectedPage : Message where
  headers := some (Dict.ofList [("Content-Type", ["Text/HTML; Q=1"]), ("X-Mark", [])])

/-- The same page with its type in another spelling, and marked. -/
def receivedPage : Message where
  headers := some (Dict.ofList [("content-type", ["text/html;q = 1"]), ("x-mark", ["", ""])])

/-- The types of the pages are one, but no value is not as many elements as two. -/
theorem matchHeaders_by_elements_pages :
    (receivedPage.headers.getD .empty).Distinct ∧
    ((expectedPage.headers.getD .empty).get? "X-Mark" = some [] ∧
      expectedPage.rules.resolveNamed .header "X-Mark" = none ∧
      Ascii.sameIgnoringCase "X-Mark" "content-type" = false ∧
      ∃ m ∈ matchHeaders expectedPage receivedPage, m.path = "X-Mark") ∧
    ((expectedPage.headers.getD .empty).get? "Content-Type" = some ["Text/HTML; Q=1"] ∧
      expectedPage.rules.resolveNamed .header "Content-Type" = none ∧
      Ascii.sameIgnoringCase "Content-Type" "content-type" = true ∧
      ∀ m ∈ matchHeaders expectedPage receivedPage, m.path ≠ "Content-Type") := by
  have hdistinct : (receivedPage.headers.getD .empty).Distinct := by
    unfold Headers.Distinct
    decide +kernel
  have hmark : (expectedPage.headers.getD .empty).get? "X-Mark" = some [] := by decide +kernel
  have htype : (expectedPage.headers.getD .empty).get? "Content-Type" =
      some ["Text/HTML; Q=1"] := by decide +kernel
  have hother : Ascii.sameIgnoringCase "X-Mark" "content-type" = false := by decide +kernel
  have hsame : Ascii.sameIgnoringCase "Content-Type" "content-type" = true := by decide +kernel
  have hnone : ∀ name, expectedPage.rules.resolveNamed .header name = none := fun _ => rfl
  have hcompare := matchHeaders_by_elements.1 expectedPage receivedPage hdistinct
  refine ⟨hdistinct, ⟨hmark, hnone _, hother, ?_⟩, htype, hnone _, hsame, ?_⟩
  · refine ((hcompare _ _ hmark (hnone _)).1 hother).2 (Or.inr ⟨["", ""], ?_, by decide +kernel⟩)
    exact ⟨("x-mark", ["", ""]), by decide +kernel, by decide +kernel, rfl⟩
  · refine ((hcompare _ _ htype (hnone _)).2 hsame).2 ⟨["text/html;q = 1"], ?_, by decide +kernel⟩
    exact ⟨("content-type", ["text/html;q = 1"]), by decide +kernel, by decide +kernel, rfl⟩

end Matching

end MockProvider
