import MockProvider.Pattern.Parser

/-!
# Anchored patterns

A text that is read as a pattern between the signs for the begin and the end of a text, so that it
usually has to match a whole value. The text is put into a group as it stands, so a text that closes
this group and opens another one reaches around the signs.
-/

namespace MockProvider.Pattern

/-- The text of a pattern, put between the signs for the begin and the end of a text. -/
def anchor (text : String) : String :=
  "^(?:" ++ text ++ ")$"

/-- A text and the pattern that it gives when it is anchored. -/
structure Anchored where
  text : String
  pattern : Pattern
  compiled : ofText? (anchor text) = some pattern

namespace Anchored

/-- Two anchored patterns with one text are equal. -/
theorem eq_of_text {a b : Anchored} (h : a.text = b.text) : a = b := by
  obtain ⟨text, p, hp⟩ := a
  obtain ⟨text', q, hq⟩ := b
  obtain rfl : text = text' := h
  obtain rfl : p = q := Option.some.inj (hp.symm.trans hq)
  rfl

instance : DecidableEq Anchored := fun a b =>
  if h : a.text = b.text then isTrue (eq_of_text h)
  else isFalse fun e => h (congrArg Anchored.text e)

def ofText? (text : String) : Option Anchored :=
  match h : Pattern.ofText? (anchor text) with
  | some pattern => some ⟨text, pattern, h⟩
  | none => none

def accepts (a : Anchored) (value : String) : Bool :=
  a.pattern.found value.toList

end Anchored

end MockProvider.Pattern
