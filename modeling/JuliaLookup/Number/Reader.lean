import JuliaLookup.Text.Blank
import JuliaLookup.Text.Search
import JuliaLookup.Number.Basic

/-!
# Reading numbers

Numbers in settings texts. Space around them is dropped, a sign may lead, and single underscores may
stand within them. Integers have a limit on their digits, zeros that lead not counted.
-/

namespace JuliaLookup.Number

/-- The value of ASCII digits read from the left. -/
def ofDigits (digits : Text) : Nat := digits.foldl (fun n c => 10 * n + (c.val - 48)) 0

def underscore : CodePoint := CodePoint.ofChar '_'

/-- Whether two underscores stand side by side. -/
def hasPair : Text → Bool
  | c :: d :: rest => (c == underscore && d == underscore) || hasPair (d :: rest)
  | _ => false

/-- The text without its underscores, if it has any and none leads, ends or follows another. -/
def withoutSeparators? (t : Text) : Option Text :=
  if underscore ∈ t ∧ t.head? ≠ some underscore ∧ t.getLast? ≠ some underscore ∧ hasPair t = false then
    some (t.filter (· ≠ underscore))
  else none

/-- Splits off a leading sign; the first part tells whether it is a minus. -/
def takeSign : Text → Bool × Text
  | [] => (false, [])
  | c :: rest =>
    if c = CodePoint.ofChar '-' then (true, rest)
    else if c = CodePoint.ofChar '+' then (false, rest)
    else (false, c :: rest)

/-- The digits that a text starts with, and the rest. -/
def takeDigits (t : Text) : Text × Text := t.span CodePoint.isAsciiDigit

/-! ### Integers -/

/-- The most digits of an integer that is read. -/
def maxDigits : Nat := 4300

/-- Why a text is no integer. -/
inductive IntFault where
  | malformed
  | oversized
  deriving DecidableEq, Repr

/-- Reads an integer in its one plain form: an optional minus, and digits without a zero in front of
others. Too many digits are refused as such whatever follows them. -/
def readPlain (t : Text) : Except IntFault Int :=
  let (negative, body) := match t with
    | c :: rest => if c = CodePoint.ofChar '-' then (true, rest) else (false, t)
    | [] => (false, [])
  let (digits, rest) := takeDigits body
  let n : Int := ofDigits digits
  if digits.head? = some (CodePoint.ofChar '0') then
    if digits.length = 1 ∧ rest.isEmpty then .ok 0 else .error .malformed
  else if maxDigits < digits.length then .error .oversized
  else if digits.isEmpty ∨ ¬rest.isEmpty then .error .malformed
  else .ok (if negative then -n else n)

/-- What is left after zeros that lead, and underscores among them, when `last` was the last of these:
the rest from the first other digit or a minus on, or from `last` on before a point or at the end. -/
def skipZeros (last : CodePoint) : Text → Option Text
  | [] => some [last]
  | c :: rest =>
    if c = CodePoint.ofChar '0' ∨ c = underscore then skipZeros c rest
    else if c.isAsciiDigit ∨ c = CodePoint.ofChar '-' then some (c :: rest)
    else if c = CodePoint.ofChar '.' then some (last :: c :: rest)
    else none

/-- The text without zeros that lead. It has to start with a digit. -/
def dropZeros? : Text → Option Text
  | [] => none
  | c :: rest =>
    if c = CodePoint.ofChar '0' then skipZeros c rest
    else if c.isAsciiDigit then some (c :: rest)
    else none

/-- The text without a point that only zeros follow, at least one. -/
def dropFraction (t : Text) : Text :=
  let (whole, rest) := t.span (· ≠ CodePoint.ofChar '.')
  match rest with
  | _ :: zeros => if !zeros.isEmpty && zeros.all (· == CodePoint.ofChar '0') then whole else t
  | [] => whole

/-- A text brought to the plain form of an integer as far as it can be: without space around it, a plus,
zeros that lead, a fraction of zeros and single underscores. -/
def tidy? (t : Text) : Option Text := do
  let (negative, body) := takeSign (t.trim CodePoint.isSpace)
  let whole := dropFraction (← dropZeros? body)
  let digits := (withoutSeparators? whole).getD whole
  return if negative then CodePoint.ofChar '-' :: digits else digits

/-- Reads an integer as it is, or else tidied up. A text that has to be tidied up is malformed if it has
too many digits. -/
def readInt (t : Text) : Except IntFault Int :=
  match readPlain t with
  | .error .malformed =>
    match tidy? t with
    | some tidied => (readPlain tidied).mapError fun _ => .malformed
    | none => .error .malformed
  | result => result

/-! ### Floats -/

/-- Reads an exponent part, which may be missing. -/
def readExponent? : Text → Option Int
  | [] => some 0
  | c :: rest => do
    guard (c.asciiLower = CodePoint.ofChar 'e')
    let (negative, t) := takeSign rest
    let (digits, rest) := takeDigits t
    guard (!digits.isEmpty && rest.isEmpty)
    let n : Int := ofDigits digits
    return if negative then -n else n

/-- Reads digits with an optional point among or beside them, and an optional exponent. -/
def readDecimal? (negative : Bool) (t : Text) : Option Float := do
  let (integral, rest) := takeDigits t
  let (fraction, rest) := match rest with
    | c :: after => if c = CodePoint.ofChar '.' then takeDigits after else ([], rest)
    | [] => ([], [])
  guard (!integral.isEmpty || !fraction.isEmpty)
  let exponent ← readExponent? rest
  return Binary64.ofDecimal negative (ofDigits (integral ++ fraction)) (exponent - fraction.length)

/-- Reads a float without space or underscores: a decimal, an infinity or the text for what is not a
number. -/
def readReal? (t : Text) : Option Float :=
  let (negative, t) := takeSign t
  let name := t.asciiLower
  if name = ("inf" : Text) ∨ name = ("infinity" : Text) then
    some (Binary64.nearest negative (2 ^ 1024) 1)
  else if name = ("nan" : Text) then some (Float.ofBits 0x7FF8000000000000)
  else readDecimal? negative t

/-- Reads a float with space around it, or with underscores in it. -/
def readFloat? (t : Text) : Option Float :=
  readReal? (t.trim CodePoint.isSpace) <|> (withoutSeparators? t).bind readReal?

end JuliaLookup.Number
