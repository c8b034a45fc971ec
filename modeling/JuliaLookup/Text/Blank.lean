import JuliaLookup.Text.Basic

/-!
# Blanks

White space, and texts with the white space at their ends removed. Trimming numbers is a little
narrower than `strip`: the four information separators U+001C to U+001F stay.
-/

namespace JuliaLookup

/-- Every code point that counts as white space. -/
def blanks : List Nat :=
  [0x09, 0x0A, 0x0B, 0x0C, 0x0D, 0x1C, 0x1D, 0x1E, 0x1F, 0x20, 0x85, 0xA0, 0x1680, 0x2000, 0x2001,
   0x2002, 0x2003, 0x2004, 0x2005, 0x2006, 0x2007, 0x2008, 0x2009, 0x200A, 0x2028, 0x2029, 0x202F,
   0x205F, 0x3000]

namespace CodePoint

def isBlank (c : CodePoint) : Bool := blanks.contains c.val

theorem isBlank_iff {c : CodePoint} : c.isBlank = true ↔ c.val ∈ blanks := by
  simp [isBlank]

/-- White space other than the information separators. -/
def isSpace (c : CodePoint) : Bool := c.isBlank && !(0x1C ≤ c.val && c.val ≤ 0x1F)

end CodePoint

namespace Text

/-- The text without the code points of a class at its two ends. -/
def trim (p : CodePoint → Bool) (t : Text) : Text :=
  ((t.dropWhile p).reverse.dropWhile p).reverse

/-- The text without white space at its two ends. -/
def strip (t : Text) : Text := t.trim CodePoint.isBlank

/-- Whether the text is empty or white space only. -/
def isBlank (t : Text) : Bool := t.all CodePoint.isBlank

@[simp] theorem trim_nil (p : CodePoint → Bool) : trim p [] = [] := rfl

@[simp] theorem strip_nil : strip [] = [] := rfl

end Text

end JuliaLookup
