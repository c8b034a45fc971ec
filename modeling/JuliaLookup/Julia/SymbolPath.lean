import JuliaLookup.Text.Word

/-!
# Symbol paths

Dotted names such as `Base.sort`: segments with single points between them. A segment starts with a
word character other than a decimal digit and goes on with word characters and exclamation marks.
-/

namespace JuliaLookup.SymbolPath

/-- The point between segments. -/
def dot : CodePoint := CodePoint.ofChar '.'

/-- What a segment may hold after its first code point. -/
def isSegmentRest (c : CodePoint) : Bool := c.isWord || c == CodePoint.ofChar '!'

/-- Whether a text ends a path: within a segment if `inside`, else where a segment has to begin. -/
def continues : (inside : Bool) → Text → Bool
  | inside, [] => inside
  | true, c :: rest => if c = dot then continues false rest else isSegmentRest c && continues true rest
  | false, c :: rest => c.isWordStart && continues true rest

/-- Whether a text is a symbol path. -/
def isValid (path : Text) : Bool := continues false path

/-- The first segment of a path: everything before the first point. -/
def head (path : Text) : Text := path.takeWhile (· != dot)

/-- Whether a path has more than one segment. -/
def isDotted (path : Text) : Bool := path.contains dot

@[simp] theorem isValid_nil : isValid [] = false := rfl

end JuliaLookup.SymbolPath
