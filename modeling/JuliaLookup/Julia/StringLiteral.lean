import JuliaLookup.Text.Basic

/-!
# String literals

A text as a Julia string literal, and the literal read back. Backslash, double mark and dollar sign
are written after a backslash; a bare dollar sign would interpolate. Main statement: reading
consumes what `write` produces and no more, whatever comes after it.
-/

namespace JuliaLookup.StringLiteral

def mark : CodePoint := CodePoint.ofChar '"'

def backslash : CodePoint := CodePoint.ofChar '\\'

def dollar : CodePoint := CodePoint.ofChar '$'

/-- What cannot stand for itself in a literal. -/
def needsEscape (c : CodePoint) : Bool := c == mark || c == backslash || c == dollar

def writePoint (c : CodePoint) : Text := if needsEscape c then [backslash, c] else [c]

/-- The literal for a text. -/
def write (t : Text) : Text := mark :: (t.flatMap writePoint ++ [mark])

/-- What comes of reading a literal. -/
inductive Reading where
  /-- The value of the literal, and the text after it. -/
  | closed (value rest : Text)
  /-- A dollar sign starts an interpolation. -/
  | interpolates
  /-- A backslash is followed by something other than the three escaped marks. -/
  | otherEscape
  /-- The literal does not begin or does not end. -/
  | broken
  deriving DecidableEq, Repr

namespace Reading

/-- Puts a code point before the value. -/
def push (c : CodePoint) : Reading → Reading
  | closed value rest => closed (c :: value) rest
  | r => r

end Reading

/-- Reads the inside of a literal; `escaped` after a backslash. -/
def readBody : (escaped : Bool) → Text → Reading
  | _, [] => .broken
  | true, c :: rest => if needsEscape c then (readBody false rest).push c else .otherEscape
  | false, c :: rest =>
    if c = mark then .closed [] rest
    else if c = backslash then readBody true rest
    else if c = dollar then .interpolates
    else (readBody false rest).push c

/-- Reads a literal at the start of a text. -/
def read : Text → Reading
  | [] => .broken
  | c :: rest => if c = mark then readBody false rest else .broken

/-! ### Reading what is written -/

theorem readBody_writePoint (c : CodePoint) (rest : Text) :
    readBody false (writePoint c ++ rest) = (readBody false rest).push c := by
  by_cases h : needsEscape c = true
  · have hm : backslash ≠ mark := by decide
    simp [writePoint, h, readBody, hm]
  · have hc : c ≠ mark ∧ c ≠ backslash ∧ c ≠ dollar := by
      simpa [needsEscape, and_assoc] using h
    simp [writePoint, h, readBody, hc]

theorem readBody_write (t rest : Text) :
    readBody false (t.flatMap writePoint ++ mark :: rest) = .closed t rest := by
  induction t with
  | nil => simp [readBody]
  | cons c t ih =>
    rw [List.flatMap_cons, List.append_assoc, readBody_writePoint, ih]
    rfl

/-- A written literal is read whole, and what follows it is left. -/
theorem read_write (t rest : Text) : read (write t ++ rest) = .closed t rest := by
  simp [read, write, readBody_write]

end JuliaLookup.StringLiteral
