import JuliaLookup.Text.Blank
import JuliaLookup.Julia.SymbolPath
import JuliaLookup.Check.Scalar
import JuliaLookup.Failure
import JuliaLookup.Tool

/-!
# Requests

A call to a tool, checked: the tool, its path without blanks around it, and every parameter of the tool
with a value. Requests with one key ask the same question.
-/

namespace JuliaLookup

structure Request where
  tool : Tool
  path : Text
  /-- The values of the parameters. -/
  options : Entries := []

/-- Why a call is turned down before any script runs. -/
inductive Refusal where
  | unknownTool (given : Value)
  | unknownOperation (given : Value)
  | badArguments (problems : List Problem)
  | badPath (path : Text)
  | badDirectory (path : Text)
  | badDetail (given : Value)

namespace Refusal

def message : Refusal → Text
  | unknownTool given => "Unknown tool: " ++ given.quoted
  | unknownOperation given => "Unknown operation: " ++ given.quoted
  | badArguments problems => "Invalid input: " ++ Text.join "; " (problems.map Problem.describe)
  | badPath path => "Invalid path: " ++ path.quoted
  | badDirectory path => "Invalid project path: " ++ path.quoted
  | badDetail given => "Invalid detail_level: " ++ given.quoted

def suggestion : Refusal → Option Text
  | badPath _ => some "Use a dotted Julia name such as 'Base.sort' or 'LinearAlgebra.norm'."
  | badDetail _ => some "Use one of: concise, full, all."
  | _ => none

/-- Every refusal is a failure of the input. -/
def failure (r : Refusal) : Failure :=
  { code := .invalidInput, message := r.message, suggestion := r.suggestion }

end Refusal

/-- Whether a code point is an ASCII control below the space. -/
def CodePoint.isControl (c : CodePoint) : Bool := c.val < 32

namespace Tool

/-- A path as given, without the blanks around it, if the tool can take it. -/
def tidyPath (tool : Tool) (given : Text) : Except PathFault Text :=
  let path := given.strip
  if path.isEmpty then .error .empty
  else if maxPathLength < path.length then .error .tooLong
  else if path.any CodePoint.isSurrogate then .error .notUnicode
  else if tool = .exploreProject then
    if path.any CodePoint.isControl then .error .control else .ok path
  else if SymbolPath.isValid path then .ok path
  else .error (.notSymbol path)

/-- Checks the path argument of a tool. -/
def checkPath (tool : Tool) (v : Value) : Except Fault Text :=
  match Check.text v with
  | .ok given => (tool.tidyPath given).mapError Fault.path
  | .error fault => .error fault

end Tool

namespace Parameter

/-- Checks a parameter and brings its value to the one form that stands for it. -/
def check : Parameter → Value → Except Fault Value
  | detailLevel, v =>
    (Check.choice Detail.named? (.notLiteral (Detail.every.map Detail.name)) v).map fun d => d.name
  | includeUnexported, v => (Check.flag v).map Value.bool

/-- The parameter's entry in the options of a request. -/
def take (p : Parameter) (given : Entries) : Checked (Text × Value) :=
  (Check.field p.name (some p.default) p.check given).map fun v => (p.name, v)

end Parameter

namespace Request

/-- Checks the arguments of a call to a tool. -/
def check (tool : Tool) (given : Entries) : Checked Request :=
  let path := Check.field Tool.pathName none tool.checkPath given
  let options := Checked.all (tool.parameters.map fun p => p.take given)
  let fields := (path.both options).map fun (path, options) => { tool, path, options }
  Check.record tool.argumentNames fields given

/-- The request that a call makes, or why it makes none. -/
def ofCall (operation : Value) (given : Entries) : Except Refusal Request :=
  match Tool.ofValue? operation with
  | none => .error (.unknownTool operation)
  | some tool => (check tool given).mapError Refusal.badArguments

/-- Reads a request from a record with the fields `operation`, `path` and `options`, whatever the
options are. -/
def ofRecord (given : Entries) : Checked Request :=
  let tool := Check.field "operation" none
    (Check.choice Tool.named? (.notMember (Tool.every.map Tool.name))) given
  let path := Check.field "path" none Check.text given
  let options := Check.field "options" (some []) Check.object given
  ((tool.both path).both options).map fun ((tool, path), options) => { tool, path, options }

/-! ### Keys -/

/-- How an option value appears in a key: truth values in lower case, anything else as it shows. -/
def keyValue : Value → Text
  | .bool b => if b then "true" else "false"
  | v => v.plain

def keyPart (option : Text × Value) : Text := option.1 ++ "=" ++ keyValue option.2

/-- The tool, the path and every option in the order of their names. -/
def key (r : Request) : Text :=
  Text.join ":" (r.tool.name :: r.path :: r.options.sorted.map keyPart)

end Request

end JuliaLookup
