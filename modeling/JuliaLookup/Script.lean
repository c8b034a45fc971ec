import JuliaLookup.Julia.StringLiteral
import JuliaLookup.Request
import JuliaLookup.Script.Catalog

/-!
# Scripts

The Julia program that answers a question. A symbol path is spliced in as code, which its grammar makes
safe; a directory goes in as a string literal, so it can only ever be data.
-/

namespace JuliaLookup

/-- What a script shows of a symbol. -/
inductive View where
  | signatures
  | documentation
  | everything
  | unexported
  | members (all : Bool)
  | source
  deriving DecidableEq, Repr

namespace View

def template : View → Template
  | signatures => Catalog.signatures
  | documentation => Catalog.documentation
  | everything => Catalog.everything
  | unexported => Catalog.unexported
  | members all => Catalog.members all
  | source => Catalog.source

/-- What is shown at a level of detail. -/
def ofDetail : Detail → View
  | .concise => signatures
  | .full => documentation
  | .all => everything

end View

/-- A question that a script can answer. -/
inductive Query where
  | symbol (tool : Tool) (view : View) (path : Text)
  | project (directory : Text)

/-- A Julia program, and the package that it imports first. -/
structure Script where
  text : Text
  package : Option Text := none
  deriving DecidableEq

/-- The modules that are there without an import. -/
def rootModules : List Text := ["Base", "Core", "Main"]

/-- The package that has to be imported to look up a path. To list a package, the path itself names it;
for other symbols only a dotted path names one. -/
def Tool.package? (tool : Tool) (path : Text) : Option Text :=
  if tool = .exploreProject then none
  else if tool ≠ .listPackage ∧ !SymbolPath.isDotted path then none
  else if SymbolPath.head path ∈ rootModules then none
  else some (SymbolPath.head path)

namespace Query

/-- The level of detail that the options ask for. -/
def detail (options : Entries) : Except Refusal Detail :=
  let given := options.get? Parameter.detailLevel.name
  match (given.getD Parameter.detailLevel.default).text?.bind Detail.named? with
  | some level => .ok level
  | none => .error (.badDetail (given.getD .null))

/-- Whether the options ask for what is not exported. Any value counts as yes or no. -/
def wantsUnexported (options : Entries) : Bool :=
  ((options.get? Parameter.includeUnexported.name).getD .null).isTruthy

/-- What a tool shows under given options. -/
def view (tool : Tool) (options : Entries) : Except Refusal View :=
  match tool with
  | .getDoc =>
    (detail options).map fun level =>
      if wantsUnexported options then .unexported else .ofDetail level
  | .listPackage => .ok (.members (wantsUnexported options))
  | _ => .ok .source

/-- The question that a tool asks about a path. -/
def of (tool : Tool) (path : Text) (options : Entries) : Except Refusal Query :=
  if tool = .exploreProject then
    if path.isEmpty || path.any CodePoint.isControl then .error (.badDirectory path)
    else .ok (.project path)
  else if SymbolPath.isValid path then (view tool options).map fun v => .symbol tool v path
  else .error (.badPath path)

/-- The question that the tool under a name asks about a path. -/
def ofOperation (operation : Value) (path : Text) (options : Entries) : Except Refusal Query :=
  match Tool.ofValue? operation with
  | none => .error (.unknownOperation operation)
  | some tool => of tool path options

/-- The line that imports a package. -/
def importLine : Option Text → Text
  | none => []
  | some package => ("import " : Text) ++ package ++ "\n"

/-- The program that answers a question. -/
def script : Query → Script
  | symbol tool view path =>
    let package := tool.package? path
    { text := importLine package ++ view.template.fill path, package }
  | project directory => { text := Catalog.project.fill (StringLiteral.write directory) }

end Query

/-- The script of a request. -/
def Request.script (r : Request) : Except Refusal Script :=
  (Query.of r.tool r.path r.options).map Query.script

end JuliaLookup
