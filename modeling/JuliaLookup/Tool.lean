import JuliaLookup.Value.Basic

/-!
# Tools

The four questions that can be asked about Julia code, and the parameters that refine them. Every tool
takes a path besides its parameters: a symbol path, or for `exploreProject` a directory.
-/

namespace JuliaLookup

inductive Tool where
  | getDoc
  | listPackage
  | exploreProject
  | getSource
  deriving DecidableEq, Repr

/-- How much documentation is asked for. -/
inductive Detail where
  | concise
  | full
  | all
  deriving DecidableEq, Repr

/-- What may be asked besides the path. -/
inductive Parameter where
  | detailLevel
  | includeUnexported
  deriving DecidableEq, Repr

namespace Detail

def every : List Detail := [concise, full, all]

def name : Detail → Text
  | concise => "concise"
  | full => "full"
  | all => "all"

/-- The level with a name. -/
def named? (t : Text) : Option Detail := every.find? (·.name == t)

@[simp] theorem named?_name (d : Detail) : named? d.name = some d := by
  cases d <;> decide

end Detail

namespace Parameter

def name : Parameter → Text
  | detailLevel => "detail_level"
  | includeUnexported => "include_unexported"

/-- The value of a parameter that is not given. -/
def default : Parameter → Value
  | detailLevel => Detail.full.name
  | includeUnexported => false

end Parameter

namespace Tool

def every : List Tool := [getDoc, listPackage, exploreProject, getSource]

def name : Tool → Text
  | getDoc => "get-doc"
  | listPackage => "list-package"
  | exploreProject => "explore-project"
  | getSource => "get-source"

/-- The tool with a name. -/
def named? (t : Text) : Option Tool := every.find? (·.name == t)

/-- The tool that a value names. -/
def ofValue? (v : Value) : Option Tool := v.text?.bind named?

/-- The parameters of a tool besides its path, in order. -/
def parameters : Tool → List Parameter
  | getDoc => [.detailLevel, .includeUnexported]
  | listPackage => [.includeUnexported]
  | exploreProject => []
  | getSource => []

/-- The name of a tool in identifiers, where a hyphen cannot stand. -/
def identifier (tool : Tool) : Text :=
  tool.name.map fun c => if c = CodePoint.ofChar '-' then CodePoint.ofChar '_' else c

/-- The name under which every tool takes its path. -/
def pathName : Text := "path"

@[simp] theorem named?_name (tool : Tool) : named? tool.name = some tool := by
  cases tool <;> decide

theorem name_injective {a b : Tool} (h : a.name = b.name) : a = b := by
  have := congrArg named? h
  simpa using this

/-- The names that a call to a tool may use. -/
def argumentNames (tool : Tool) : List Text := pathName :: tool.parameters.map Parameter.name

end Tool

end JuliaLookup
