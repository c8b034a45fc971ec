import JuliaLookup.Desk
import JuliaLookup.Value.Json

/-!
# The tools as offered

What a client sees of the tools, and what happens to a call on its way to the desk. Parameters are read
leniently here, unknown arguments are passed over, and what the desk answers becomes plain text.
-/

namespace JuliaLookup

/-! ### Descriptions -/

namespace Parameter

def title : Parameter → Text
  | detailLevel => "Detail Level"
  | includeUnexported => "Include Unexported"

def description : Parameter → Text
  | detailLevel =>
    "Level of documentation detail: concise (just signatures), full (standard docs), or all (docs, " ++
      "method signatures and fields)"
  | includeUnexported => "Whether to include unexported symbols"

/-- The values that a parameter takes, as a schema says it. -/
def valueSchema : Parameter → Entries
  | detailLevel =>
    [("enum", .list (Detail.every.map fun d => Value.str d.name)), ("type", "string")]
  | includeUnexported => [("type", "boolean")]

def schema (p : Parameter) : Value :=
  let entries : Entries :=
    ("default", p.default) :: ("description", p.description) :: ("title", p.title) :: p.valueSchema
  .object entries

end Parameter

namespace Tool

def description : Tool → Text
  | getDoc => "Get Julia documentation for a package, module, type, function, or method"
  | listPackage => "List available symbols in a Julia package or module"
  | exploreProject => "Explore a Julia project's structure and dependencies"
  | getSource => "Get Julia source code for a function, type, or method"

def pathDescription : Tool → Text
  | getDoc | getSource => "Path to Julia object (e.g., 'Base.sort', 'AbstractArray')"
  | listPackage => "Package or module name"
  | exploreProject => "Path to Julia project directory"

/-- The schema of the arguments of a tool. -/
def schema (tool : Tool) : Value :=
  let path : Value := .object
    [("description", tool.pathDescription), ("title", "Path"), ("type", "string")]
  let properties := tool.parameters.map fun p => (p.name, p.schema)
  .object
    [("properties", .object (properties ++ [(pathName, path)])),
     ("required", .list [pathName]), ("title", Value.str (tool.identifier ++ "Arguments")),
     ("type", "object")]

/-- A tool as a client sees it in a list. -/
def listing (tool : Tool) : Value :=
  .object [("name", tool.name), ("description", tool.description), ("inputSchema", tool.schema)]

end Tool

/-! ### Calls -/

/-- How a call of a client ends. -/
inductive ToolReply where
  | text (t : Text)
  | unknownTool (name : Text)
  | invalid (problems : List Problem)
  /-- A text argument has too much of something to be read as JSON. -/
  | unreadable (tool : Tool) (excess : Json.Excess)
  /-- The run of the tool crashed. -/
  | stopped (tool : Tool) (why : Crash)
  | cancelled

namespace Toolbox

/-- A text that writes a list, an object or null in JSON stands for it; every other value stands for
itself. -/
def unpack : Value → Except Json.Excess Value
  | .str t =>
    match Json.read t with
    | .ok (.list items) => .ok (.list items)
    | .ok (.object entries) => .ok (.object entries)
    | .ok .null => .ok .null
    | .error (.excess e) => .error e
    | _ => .ok (.str t)
  | v => .ok v

/-- The arguments with those of a tool's parameters unpacked. The path stays as it is. -/
def unpackAll (tool : Tool) (given : Entries) : Except Json.Excess Entries :=
  given.mapM fun (name, v) =>
    if name ∈ tool.parameters.map Parameter.name then (unpack v).map (name, ·) else .ok (name, v)

/-- Checks the arguments that a tool knows, and fills in the rest. -/
def bind (tool : Tool) (given : Entries) : Checked Entries :=
  let path := Check.field Tool.pathName none Check.text given
  let options := Checked.all (tool.parameters.map fun p => p.take given)
  (path.both options).map fun (path, options) => (Tool.pathName, .str path) :: options

/-- What a client gets when the desk is done with its call. -/
def reply (tool : Tool) : Reply → ToolReply
  | .answer a => .text a.text
  | .cancelled => .cancelled
  | .crashed why => .stopped tool why

variable {τ : Type} [Sub τ] [LT τ] [DecidableRel (α := τ) (· < ·)]

/-- Answers the call of a client. -/
def call (runner : Script → Activity Text) (now later : τ) (name : Text) (given : Entries)
    (c : Cache τ) : Desk.Turn τ ToolReply :=
  match Tool.named? name with
  | none => { reply := .unknownTool name, cache := c }
  | some tool =>
    match unpackAll tool given with
    | .error excess => { reply := .unreadable tool excess, cache := c }
    | .ok given =>
      match bind tool given with
      | .error problems => { reply := .invalid problems, cache := c }
      | .ok arguments =>
        let turn := Desk.call runner now later tool.name arguments c
        { turn with reply := reply tool turn.reply }

end Toolbox

namespace ToolReply

/-- What a client is told when a tool gives no answer. -/
def stopMessage (tool : Tool) (why : Text) : Text := "Error executing tool " ++ tool.name ++ ": " ++ why

/-- What a client is told of a call that could not be answered at all. -/
def error? : ToolReply → Option Text
  | unknownTool name => some ("Unknown tool: " ++ name)
  | unreadable tool excess => some (stopMessage tool excess.message)
  | stopped tool why => some (stopMessage tool why.message)
  | _ => none

end ToolReply

end JuliaLookup
