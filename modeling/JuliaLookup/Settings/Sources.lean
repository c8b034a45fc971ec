import JuliaLookup.Settings.Content
import JuliaLookup.Settings.Environment

/-!
# Where settings come from

Settings are given directly, by environment variables and by a file, in this order of precedence. An
object given in two places is merged field by field; anything else is replaced as a whole.
-/

namespace JuliaLookup

/-- Why there are no settings. -/
inductive SettingsError where
  /-- What the file holds cannot be used. -/
  | content (fault : ContentFault)
  /-- The variable for a whole section cannot be named. -/
  | unnamed (s : Section)
  /-- The variable for a whole section is not JSON that can be read. -/
  | unreadable (s : Section)
  /-- The variable for a whole section nests too deep. -/
  | tooDeep (innermost : Json.Container)
  | invalid (problems : List Problem)

namespace SettingsError

/-- The message about a variable that cannot be read. -/
def unreadableMessage (s : Section) : Text :=
  "error parsing value for field \"" ++ s.name ++ "\" from source \"EnvSettingsSource\""

/-- The message about a variable that cannot be named. -/
def unnamedMessage (s : Section) : Text :=
  "error getting value for field \"" ++ s.name ++ "\" from source \"EnvSettingsSource\""

/-- What is wrong with settings whose variable for a section cannot be read. -/
def ofFault (s : Section) : Json.Fault → SettingsError
  | .excess (.depth innermost) => .tooDeep innermost
  | _ => .unreadable s

end SettingsError

/-- The file that settings are read from. -/
inductive SettingsFile where
  | working
  | user
  deriving DecidableEq, Repr

/-- Everything that settings may come from. -/
structure Sources where
  given : Entries := []
  env : Environment := []
  /-- The content of the file in the working directory. -/
  workingFile : Option Value := none
  /-- The content of the file in the user's directory. -/
  userFile : Option Value := none

namespace Sources

/-- The file that counts: the first that exists. -/
def file? (s : Sources) : Option SettingsFile :=
  if s.workingFile.isSome then some .working
  else if s.userFile.isSome then some .user
  else none

/-- Entries with the names of sections found whatever their case. -/
def withSections (entries : Entries) : Entries := entries.knownFirst (Section.every.map Section.name)

/-- What the file sets. -/
def fileEntries (s : Sources) : Except SettingsError Entries :=
  match Content.entries ((s.workingFile <|> s.userFile).getD .null) with
  | .ok entries => .ok (withSections entries)
  | .error fault => .error (.content fault)

/-- What is given directly. -/
def givenEntries (s : Sources) : Entries :=
  withSections (s.given.filter fun e => e.1 ∉ Naming.optionNames)

/-- What the environment sets, read as the options among what is given directly ask for. -/
def envEntries (s : Sources) : Except SettingsError Entries :=
  match Naming.ofOptions? s.given with
  | none => .error (.unnamed .julia)
  | some naming =>
    let values := s.env.values naming
    Section.every.foldlM (fun entries sec =>
      match Environment.value? naming values sec with
      | .ok (some v) => .ok (entries.insert sec.name v)
      | .ok none => .ok entries
      | .error fault => .error (.ofFault sec fault)) []

/-- All that is set, by precedence. -/
def merged (s : Sources) : Except SettingsError Entries := do
  let file ← s.fileEntries
  let env ← s.envEntries
  return file.over (env.over s.givenEntries)

/-- The settings of all sources. -/
def settings (s : Sources) : Except SettingsError Settings :=
  match s.merged with
  | .error e => .error e
  | .ok entries => (Settings.check entries).mapError .invalid

end Sources

end JuliaLookup
