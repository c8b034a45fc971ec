import JuliaLookup.Text.Letter
import JuliaLookup.Text.Numeral

/-!
# Word characters

Letters, decimal digits, other numerals and the underscore. A word may start with any of them but a
decimal digit.
-/

namespace JuliaLookup.CodePoint

/-- Letters, numerals of every kind, and the underscore. -/
def isWord (c : CodePoint) : Bool :=
  c.isLetter || c.isDecimalDigit || c.isOtherNumeral || c == ofChar '_'

/-- A word character that is not a decimal digit. -/
def isWordStart (c : CodePoint) : Bool := c.isWord && !c.isDecimalDigit

theorem isWord_of_isWordStart {c : CodePoint} (h : c.isWordStart = true) : c.isWord = true := by
  simp only [isWordStart, Bool.and_eq_true] at h
  exact h.1

end JuliaLookup.CodePoint
