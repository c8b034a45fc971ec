import JuliaLookup.Settings.Basic
import JuliaLookup.Text.Lowercase
import JuliaLookup.Value.Json
import JuliaLookup.Value.Merge

/-!
# Settings in the environment

A variable sets a whole section in JSON, or a single field with its text. How variables are named can be
chosen by those who ask for the settings.
-/

namespace JuliaLookup

/-- Environment variables in order. -/
abbrev Environment := List (Text × Text)

/-- How variables for settings are named and read. -/
structure Naming where
  /-- What the name of every variable starts with. -/
  lead : Text := "JULIADOC__"
  /-- What stands between the parts of a name. With nothing there, names have no parts. -/
  divider : Text := "__"
  /-- The most parts that follow a section's name, if there is a limit. -/
  parts : Option Nat := none
  matchesCase : Bool := false
  /-- Whether a variable with no text counts as not set. -/
  skipsEmpty : Bool := false
  /-- The text that stands for null. -/
  nullText : Option Text := none

namespace Naming

/-- Names that say how settings are read, and are no settings themselves. Those about files of variables,
secrets and command lines make no difference here. -/
def optionNames : List Text :=
  ["_case_sensitive", "_nested_model_default_partial_update", "_env_prefix", "_env_prefix_target",
    "_env_file", "_env_file_encoding", "_env_file_depth", "_env_ignore_empty", "_env_nested_delimiter",
    "_env_nested_max_split", "_env_parse_none_str", "_env_parse_enums", "_cli_prog_name",
    "_cli_parse_args", "_cli_settings_source", "_cli_parse_none_str", "_cli_hide_none_type",
    "_cli_avoid_json", "_cli_enforce_required", "_cli_use_class_docs_for_groups", "_cli_exit_on_error",
    "_cli_prefix", "_cli_flag_prefix_char", "_cli_implicit_flags", "_cli_ignore_unknown_args",
    "_cli_kebab_case", "_cli_shortcuts", "_cli_show_env_vars", "_secrets_dir"]

/-- Whether names start with the lead at all. -/
def hasLead (options : Entries) : Bool :=
  match (options.get? "_env_prefix_target").getD .null with
  | .null => true
  | .str t => t ∈ ([("variable" : Text), "all"] : List Text)
  | _ => false

/-- The lead that options ask for. Only a text can lead a name. -/
def lead? (options : Entries) : Option Text :=
  if hasLead options then
    match (options.get? "_env_prefix").getD .null with
    | .null => some ({} : Naming).lead
    | v => v.text?
  else some []

/-- The naming that options ask for, if variables can be named so. -/
def ofOptions? (options : Entries) : Option Naming :=
  let option (name : Text) : Value := (options.get? name).getD .null
  (lead? options).map fun lead =>
    { lead
      divider := match option "_env_nested_delimiter" with
        | .null => ({} : Naming).divider
        | v => v.text?.getD []
      parts := match option "_env_nested_max_split" with
        | .number (.int n) => if 0 < n then some n.toNat else none
        | .bool true => some 1
        | _ => none
      matchesCase := (option "_case_sensitive").isTruthy
      skipsEmpty := (option "_env_ignore_empty").isTruthy
      nullText := (option "_env_parse_none_str").text? }

/-- The name under which a variable is known. -/
def fold (n : Naming) (name : Text) : Text := if n.matchesCase then name else name.lower

/-- The name of the variable for a whole section. -/
def sectionName (n : Naming) (s : Section) : Text := n.fold (n.lead ++ s.name)

/-- Cuts what follows a section's name into the place of a field. -/
def place (n : Naming) (rest : Text) : List Text :=
  Text.cut n.divider (match n.parts with
    | some most => most - 1
    | none => rest.length) rest

end Naming

namespace Environment

/-- The variables that count under their known names. Of two with one name the later counts. -/
def values (env : Environment) (n : Naming) : Entries :=
  let counted := env.filter fun e => !(n.skipsEmpty && e.2.isEmpty)
  Entries.insertAll [] (counted.map fun (name, t) =>
    (n.fold name, if n.nullText = some t then .null else .str t))

/-- The fields of a section that variables set one by one. -/
def fields (n : Naming) (values : Entries) (s : Section) : Entries :=
  if n.divider.isEmpty then []
  else values.foldl (fun entries (name, v) =>
    match Text.after? (n.sectionName s ++ n.divider) name with
    | some rest => entries.insertAt v (n.place rest)
    | none => entries) []

/-- Field names found whatever their case, unless case matters. -/
def tidied (n : Naming) (s : Section) (entries : Entries) : Value :=
  .object (if n.matchesCase then entries else entries.withNames s.fieldNames)

/-- What variables give for a section. The variable for the whole section comes first, and single fields
are set over it if it holds an object. -/
def value? (n : Naming) (values : Entries) (s : Section) : Except Json.Fault (Option Value) :=
  let fields := fields n values s
  match values.get? (n.sectionName s) with
  | some (.str t) =>
    (Json.read t).map fun
      | .null => none
      | .object entries => some (tidied n s (Entries.over entries fields))
      | v => some v
  | some v => .ok (some v)
  | none => .ok (if fields.isEmpty then none else some (tidied n s fields))

end Environment

end JuliaLookup
