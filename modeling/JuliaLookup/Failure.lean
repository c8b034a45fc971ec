import JuliaLookup.Text.Basic

/-!
# Failures

A classified failure of a tool call: what kind it is, what to tell the caller, and whether trying again
may help.
-/

namespace JuliaLookup

/-- The kinds of failure. -/
inductive Code where
  | invalidInput
  | interpreterNotFound
  | packageNotFound
  | symbolNotFound
  | undefinedReference
  | emptyResult
  | timeout
  | interpreterError
  deriving DecidableEq, Repr

namespace Code

def every : List Code :=
  [invalidInput, interpreterNotFound, packageNotFound, symbolNotFound, undefinedReference,
    emptyResult, timeout, interpreterError]

def name : Code → Text
  | invalidInput => "INVALID_INPUT"
  | interpreterNotFound => "INTERPRETER_NOT_FOUND"
  | packageNotFound => "PACKAGE_NOT_FOUND"
  | symbolNotFound => "SYMBOL_NOT_FOUND"
  | undefinedReference => "UNDEFINED_REFERENCE"
  | emptyResult => "EMPTY_RESULT"
  | timeout => "TIMEOUT"
  | interpreterError => "INTERPRETER_ERROR"

/-- The kind with a name. -/
def named? (t : Text) : Option Code := every.find? (·.name == t)

@[simp] theorem named?_name (c : Code) : named? c.name = some c := by
  cases c <;> decide

end Code

structure Failure where
  code : Code
  message : Text
  suggestion : Option Text := none
  recoverable : Bool := false
  deriving DecidableEq

namespace Failure

/-- The blank line between paragraphs. -/
def paragraph : Text := "\n\n"

/-- What the caller reads: the message, and the suggestion as a paragraph of its own. -/
def render (f : Failure) : Text :=
  match f.suggestion with
  | none => f.message
  | some s => if s.isEmpty then f.message else f.message ++ paragraph ++ s

end Failure

end JuliaLookup
