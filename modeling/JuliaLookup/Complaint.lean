import JuliaLookup.Failure
import JuliaLookup.Text.Blank
import JuliaLookup.Text.Search
import JuliaLookup.Text.Shell
import JuliaLookup.Text.Word

/-!
# Complaints

What Julia's error output complains about. The first kind in the order below whose words occur is the
one reported; a missing package comes with the command that installs it.
-/

namespace JuliaLookup

inductive Complaint where
  | missingPackage (name : Text)
  | undefinedReference
  | missingSymbol
  | other
  deriving DecidableEq, Repr

namespace Complaint

def backtick : CodePoint := CodePoint.ofChar '\x60'

/-- The text without a backtick in front, if there is one. -/
def afterBacktick (t : Text) : Text :=
  match t with
  | c :: rest => if c = backtick then rest else t
  | [] => []

/-- The package named by a text that starts with `package NAME not found`. The first letter may be a
capital, and the name may stand between backticks. -/
def packageHere? (t : Text) : Option Text :=
  match (Text.after? "package " t <|> Text.after? "Package " t).map afterBacktick with
  | none => none
  | some t =>
    let name := t.takeWhile CodePoint.isWord
    let rest := afterBacktick (t.dropWhile CodePoint.isWord)
    if (name.head?.any CodePoint.isWordStart) && (" not found" : Text).isPrefixOf rest then some name
    else none

/-- The first package that a text says is not found. -/
def namedPackage? : Text → Option Text
  | [] => none
  | c :: rest => packageHere? (c :: rest) <|> namedPackage? rest

/-- What the error output of a script that imports `package` complains about. The package given, if it
has a name, goes before the one named in the output. -/
def of (package : Option Text) (stderr : Text) : Complaint :=
  let named := namedPackage? stderr
  if ("could not load package" : Text).occursIn stderr || named.isSome then
    missingPackage ((package.filter (!·.isEmpty)).getD (named.getD "unknown"))
  else if ("UndefVarError" : Text).occursIn stderr then undefinedReference
  else if ("not found" : Text).occursIn stderr then missingSymbol
  else other

def code : Complaint → Code
  | missingPackage _ => .packageNotFound
  | undefinedReference => .undefinedReference
  | missingSymbol => .symbolNotFound
  | other => .interpreterError

/-- The first line of the message. -/
def title (project : Option Text) : Complaint → Text
  | missingPackage name =>
    let place : Text := match project with
      | some p => " (project: " ++ p ++ ")"
      | none => []
    "Package not found: " ++ name ++ place
  | undefinedReference => "Undefined variable"
  | missingSymbol => "Symbol not found"
  | other => "Julia error"

/-- The words of the command that installs a package. -/
def installWords (project : Option Text) (name : Text) : List Text :=
  let flag : List Text := match project with
    | some p => [("--project=" : Text) ++ p]
    | none => []
  let program : Text := "using Pkg; Pkg.add(\"" ++ name ++ "\")"
  ("julia" : Text) :: flag ++ [("-e" : Text), program]

/-- The command that installs a package. Only the project is quoted where it needs to be; the program
always stands between single marks. -/
def installCommand (project : Option Text) (name : Text) : Text :=
  let flag : Text := match project with
    | some p => " --project=" ++ Shell.quote p
    | none => []
  "julia" ++ flag ++ " -e 'using Pkg; Pkg.add(\"" ++ name ++ "\")'"

def suggestion (project : Option Text) : Complaint → Option Text
  | missingPackage name => some ("Install it with: " ++ installCommand project name)
  | _ => none

end Complaint

/-- The failure that error output means. A project or diagnostics without text count as not given. -/
def Failure.ofStderr (package project diagnostics : Option Text) (stderr : Text) : Failure :=
  let complaint := Complaint.of package stderr
  let project := project.filter (!·.isEmpty)
  let body := complaint.title project ++ paragraph ++ stderr.strip
  { code := complaint.code
    message := match diagnostics.filter (!·.isEmpty) with
      | some d => body ++ paragraph ++ d
      | none => body
    suggestion := complaint.suggestion project }

end JuliaLookup
