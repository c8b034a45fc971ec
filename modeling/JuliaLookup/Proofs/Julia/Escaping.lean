import JuliaLookup.Julia.StringLiteral

/-!
# Escaping by replacement

Escaping can be done by three replacements of a code point throughout the text, one after another. The
backslash has to come first: the other two put in backslashes of their own, which must not be doubled.
-/

namespace JuliaLookup

/-- Puts a text for every occurrence of a code point. -/
def Text.replace (old : CodePoint) (new t : Text) : Text :=
  t.flatMap fun c => if c = old then new else [c]

namespace StringLiteral

/-- Escapes backslashes, then double marks, then dollar signs, each throughout the text. -/
def escape (t : Text) : Text :=
  Text.replace dollar [backslash, dollar]
    (Text.replace mark [backslash, mark] (Text.replace backslash [backslash, backslash] t))

theorem escape_singleton (c : CodePoint) : escape [c] = writePoint c := by
  have hbm : backslash ≠ mark := by decide
  have hbd : backslash ≠ dollar := by decide
  have hmd : mark ≠ dollar := by decide
  by_cases hb : c = backslash
  · subst hb
    simp [escape, Text.replace, writePoint, needsEscape, hbm, hbd]
  · by_cases hm : c = mark
    · subst hm
      simp [escape, Text.replace, writePoint, needsEscape, hbm.symm, hbd, hmd]
    · by_cases hd : c = dollar
      · subst hd
        simp [escape, Text.replace, writePoint, needsEscape, hbd.symm, hmd.symm]
      · simp [escape, Text.replace, writePoint, needsEscape, hb, hm, hd]

/-- The three replacements come to escaping each code point by itself. -/
theorem escape_eq_flatMap (t : Text) : escape t = t.flatMap writePoint := by
  have hpoint : ∀ c, writePoint c = escape [c] := fun c => (escape_singleton c).symm
  induction t with
  | nil => rfl
  | cons c rest ih =>
    rw [List.flatMap_cons, ← ih, hpoint c]
    simp [escape, Text.replace]

theorem write_eq_escape (t : Text) : write t = mark :: (escape t ++ [mark]) := by
  rw [write, escape_eq_flatMap]

end StringLiteral

end JuliaLookup
