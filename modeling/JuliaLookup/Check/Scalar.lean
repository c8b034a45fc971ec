import JuliaLookup.Number.Reader
import JuliaLookup.Check.Basic

/-!
# Lenient reading of single values

A truth value, a number or a text may be given in more than one form. Each check says which forms it
takes, and for the rest what is wrong. A text that is read as something else has to be free of lone
surrogates.
-/

namespace JuliaLookup.Check

def text : Value → Except Fault Text
  | .str t => .ok t
  | _ => .error .notString

/-- A text, or null for none. -/
def optionalText : Value → Except Fault (Option Text)
  | .null => .ok none
  | v => (text v).map some

/-- The words for false and for true. -/
def falseWords : List Text := ["0", "off", "f", "false", "n", "no"]

def trueWords : List Text := ["1", "on", "t", "true", "y", "yes"]

/-- Whether an integer fits in 64 bits. -/
def isWord64 (n : Int) : Bool := -2 ^ 63 ≤ n && n < 2 ^ 63

/-- Whether an integer given as a float is taken as an integer at all. -/
def isFloatWord64 (n : Int) : Bool := -2 ^ 63 < n && n < 2 ^ 63

/-- Zero and one as truth values. -/
def flagOfInt (n : Int) : Except Fault Bool :=
  if n = 0 then .ok false else if n = 1 then .ok true else .error .unclearBool

/-- A truth value: itself, zero or one, or one of a dozen words in any case. -/
def flag : Value → Except Fault Bool
  | .bool b => .ok b
  | .str t =>
    if t.any CodePoint.isSurrogate then .error .notUnicode
    else if t.asciiLower ∈ falseWords then .ok false
    else if t.asciiLower ∈ trueWords then .ok true
    else .error .unclearBool
  | .number (.int n) => if isWord64 n then flagOfInt n else .error .notBool
  | .number (.float x) =>
    match (Number.float x).whole? with
    | some n => if isFloatWord64 n then flagOfInt n else .error .notBool
    | none => .error .notBool
  | _ => .error .notBool

/-- An integer: itself, a truth value, a whole float, or a text that writes one. -/
def integer : Value → Except Fault Int
  | .bool b => .ok (if b then 1 else 0)
  | .number (.int n) => .ok n
  | .number (.float x) =>
    if !(Number.float x).isFinite then .error .infiniteInt
    else match (Number.float x).whole? with
      | some n => if isFloatWord64 n then .ok n else .error .oversizedInt
      | none => .error .fractionalInt
  | .str t =>
    if t.any CodePoint.isSurrogate then .error .notUnicode
    else match Number.readInt t with
      | .ok n => .ok n
      | .error .malformed => .error .unclearInt
      | .error .oversized => .error .oversizedInt
  | _ => .error .notInt

/-- A float: a number that fits, a truth value, or a text that writes one. -/
def real : Value → Except Fault Float
  | .bool b => .ok (if b then 1 else 0)
  | .number (.int n) =>
    if (Number.float (Number.floatOfInt n)).isFinite then .ok (Number.floatOfInt n)
    else .error .notReal
  | .number (.float x) => .ok x
  | .str t =>
    if t.any CodePoint.isSurrogate then .error .notUnicode
    else match Number.readFloat? t with
      | some x => .ok x
      | none => .error .unclearReal
  | _ => .error .notReal

/-- A check followed by a condition on what it yields. -/
def such {α : Type} (check : Value → Except Fault α) (holds : α → Bool) (fault : Fault) (v : Value) :
    Except Fault α :=
  match check v with
  | .ok x => if holds x then .ok x else .error fault
  | .error f => .error f

/-- One of the names that `named?` knows. -/
def choice {α : Type} (named? : Text → Option α) (fault : Fault) : Value → Except Fault α
  | .str t =>
    if t.any CodePoint.isSurrogate then .error .notUnicode
    else match named? t with
      | some x => .ok x
      | none => .error fault
  | _ => .error fault

/-- An object. -/
def object : Value → Except Fault Entries
  | .object entries => .ok entries
  | _ => .error .notObject

end JuliaLookup.Check
