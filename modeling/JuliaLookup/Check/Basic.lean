import JuliaLookup.Value.Quoted

/-!
# Checked input

What may be wrong with an input, where, and in which words. Checking goes on after a fault, so a
result holds every problem of an input, in the order of its fields and then of its unknown names.
-/

namespace JuliaLookup

/-- What is wrong with a path. -/
inductive PathFault where
  | empty
  | tooLong
  | notUnicode
  | control
  | notSymbol (path : Text)
  deriving DecidableEq

/-- The most code points that a path may have. -/
def maxPathLength : Nat := 500

namespace PathFault

def message : PathFault → Text
  | empty => "path must not be empty"
  | tooLong => "path must not exceed " ++ Text.ofNat maxPathLength ++ " characters"
  | notUnicode => "path must be valid UTF-8 text"
  | control => "path must not contain control characters"
  | notSymbol path =>
    "Invalid path: " ++ path.quoted ++ ". Expected a dotted Julia name such as 'Base.sort'"

end PathFault

/-- What is wrong with a field. -/
inductive Fault where
  | missing
  | unexpected
  | notString
  | notUnicode
  | notBool
  | unclearBool
  | notInt
  | unclearInt
  | fractionalInt
  | infiniteInt
  | oversizedInt
  | negative
  | notReal
  | unclearReal
  | notPositive
  | notMember (names : List Text)
  | notLiteral (names : List Text)
  | notRecord (name : Text)
  | notObject
  | path (fault : PathFault)

namespace Fault

/-- Names between single marks, with commas and a last "or" between them. -/
def alternatives (names : List Text) : Text :=
  let marked : List Text := names.map fun name => ("'" : Text) ++ name ++ "'"
  match marked.getLast? with
  | none => []
  | some last =>
    match marked.dropLast with
    | [] => last
    | others => Text.join ", " others ++ (" or " : Text) ++ last

/-- The short name of a kind of fault. -/
def kind : Fault → Text
  | missing => "missing"
  | unexpected => "extra_forbidden"
  | notString => "string_type"
  | notUnicode => "string_unicode"
  | notBool => "bool_type"
  | unclearBool => "bool_parsing"
  | notInt => "int_type"
  | unclearInt => "int_parsing"
  | fractionalInt => "int_from_float"
  | infiniteInt => "finite_number"
  | oversizedInt => "int_parsing_size"
  | negative => "greater_than_equal"
  | notReal => "float_type"
  | unclearReal => "float_parsing"
  | notPositive => "greater_than"
  | notMember _ => "enum"
  | notLiteral _ => "literal_error"
  | notRecord _ => "model_type"
  | notObject => "dict_type"
  | path _ => "value_error"

def message : Fault → Text
  | missing => "Field required"
  | unexpected => "Extra inputs are not permitted"
  | notString => "Input should be a valid string"
  | notUnicode => "Input should be a valid string, unable to parse raw data as a unicode string"
  | notBool => "Input should be a valid boolean"
  | unclearBool => "Input should be a valid boolean, unable to interpret input"
  | notInt => "Input should be a valid integer"
  | unclearInt => "Input should be a valid integer, unable to parse string as an integer"
  | fractionalInt => "Input should be a valid integer, got a number with a fractional part"
  | infiniteInt => "Input should be a finite number"
  | oversizedInt => "Unable to parse input string as an integer, exceeded maximum size"
  | negative => "Input should be greater than or equal to 0"
  | notReal => "Input should be a valid number"
  | unclearReal => "Input should be a valid number, unable to parse string as a number"
  | notPositive => "Input should be greater than 0"
  | notMember names => "Input should be " ++ alternatives names
  | notLiteral names => "Input should be " ++ alternatives names
  | notRecord name => "Input should be a valid dictionary or instance of " ++ name
  | notObject => "Input should be a valid dictionary"
  | path fault => "Value error, " ++ fault.message

end Fault

/-- A fault and the names that lead to the field that has it. -/
structure Problem where
  place : List Text
  fault : Fault

namespace Problem

/-- The problem as part of a sentence: the place, if it has a name, and the message. -/
def describe (p : Problem) : Text :=
  match Text.join "." p.place with
  | [] => p.fault.message
  | place => place ++ ": " ++ p.fault.message

/-- The problem as seen from outside the field `name`. -/
def under (name : Text) (p : Problem) : Problem := { p with place := name :: p.place }

end Problem

/-- A value, or all problems of the input in order. -/
abbrev Checked (α : Type) := Except (List Problem) α

namespace Checked

variable {α β : Type}

/-- The problems found, if any. -/
def problems : Checked α → List Problem
  | .ok _ => []
  | .error ps => ps

/-- Both values, or the problems of both. -/
def both (a : Checked α) (b : Checked β) : Checked (α × β) :=
  match a, b with
  | .ok x, .ok y => .ok (x, y)
  | a, b => .error (a.problems ++ b.problems)

/-- Every value, or the problems of all. -/
def all : List (Checked α) → Checked (List α)
  | [] => .ok []
  | c :: rest => (c.both (all rest)).map fun (x, xs) => x :: xs

theorem both_eq_ok_iff {a : Checked α} {b : Checked β} {x : α} {y : β} :
    a.both b = .ok (x, y) ↔ a = .ok x ∧ b = .ok y := by
  cases a <;> cases b <;> simp [both]

end Checked

namespace Check

variable {α : Type}

/-- The checked value of a field, or its default if it is not given. A field without a default has to
be given. -/
def field (name : Text) (default : Option α) (check : Value → Except Fault α) (given : Entries) :
    Checked α :=
  match given.get? name, default with
  | some v, _ => (check v).mapError fun fault => [{ place := [name], fault }]
  | none, some value => .ok value
  | none, none => .error [{ place := [name], fault := .missing }]

/-- No names are given but the known ones. -/
def nothingElse (known : List Text) (given : Entries) : Checked Unit :=
  match given.names.filter (· ∉ known) with
  | [] => .ok ()
  | unknown => .error (unknown.map fun name => { place := [name], fault := .unexpected })

/-- A record with its fields checked and no names but the known ones. A name with a lone surrogate spoils
the record as a whole, whatever else is wrong with it. -/
def record (known : List Text) (fields : Checked α) (given : Entries) : Checked α :=
  if given.names.any (·.any CodePoint.isSurrogate) then .error [{ place := [], fault := .notUnicode }]
  else (fields.both (nothingElse known given)).map Prod.fst

end Check

end JuliaLookup
