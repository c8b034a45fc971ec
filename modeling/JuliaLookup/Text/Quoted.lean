import JuliaLookup.Text.Printable

/-!
# Quoted text

A text between quotation marks, on one line and in printable code points only. Single marks are
used unless the text holds one and no double mark.
-/

namespace JuliaLookup.Text

/-- The mark that a quoted text is put between. -/
def quoteMark (t : Text) : CodePoint :=
  if CodePoint.ofChar '\'' ∈ t ∧ CodePoint.ofChar '"' ∉ t
  then CodePoint.ofChar '"' else CodePoint.ofChar '\''

/-- A code point as its number, in the shortest of the three lengths that holds it. -/
def numericEscape (c : CodePoint) : Text :=
  if c.val < 0x100 then "\\x" ++ hex 2 c.val
  else if c.val < 0x10000 then "\\u" ++ hex 4 c.val
  else "\\U" ++ hex 8 c.val

/-- One code point of a text between `mark`s. -/
def quotePoint (mark c : CodePoint) : Text :=
  if c = mark ∨ c = CodePoint.ofChar '\\' then [CodePoint.ofChar '\\', c]
  else if c = CodePoint.ofChar '\n' then "\\n"
  else if c = CodePoint.ofChar '\r' then "\\r"
  else if c = CodePoint.ofChar '\t' then "\\t"
  else if c.isPrintable then [c]
  else numericEscape c

/-- The text between quotation marks, everything unprintable escaped. -/
def quoted (t : Text) : Text :=
  let mark := t.quoteMark
  mark :: (t.flatMap (quotePoint mark) ++ [mark])

end JuliaLookup.Text
