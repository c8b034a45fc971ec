import JuliaLookup.Value.Basic

/-!
# Merging entries

Objects laid over one another, names that differ in case brought together, and values set at places
within nested objects.
-/

namespace JuliaLookup

mutual

/-- The value `high` over the value `low`. -/
def Value.over (low : Value) : (high : Value) → Value
  | .object high =>
    match low with
    | .object entries => .object (Entries.over entries high)
    | _ => .object high
  | high => high

/-- The entries `high` over the entries `low`. -/
def Entries.over (low : Entries) : (high : Entries) → Entries
  | [] => low
  | (name, v) :: rest =>
    let merged := match Entries.get? low name with
      | some w => Value.over w v
      | none => v
    Entries.over (Entries.insert name merged low) rest

end

namespace Entries

/-- Every name that equals a known one but for the case of ASCII letters is replaced by it. Of two
entries that come to one name the later counts. -/
def withNames (known : List Text) (entries : Entries) : Entries :=
  insertAll [] (entries.map fun (name, v) =>
    ((known.find? (·.asciiLower == name.asciiLower)).getD name, v))

/-- The entries under known names in lower case, found whatever the case of their ASCII letters, before
all others. Of several entries that come to one known name the first counts. -/
def knownFirst (known : List Text) (entries : Entries) : Entries :=
  let found := known.filterMap fun name =>
    (entries.find? (·.1.asciiLower == name)).map fun e => (name, e.2)
  found ++ entries.filter fun e => e.1.asciiLower ∉ known

/-- Sets the value at a place within nested objects, making objects on the way. A place below a value
that is no object stays unset, and null gives way to a value that is there already. -/
def insertAt (value : Value) : (place : List Text) → Entries → Entries
  | [], entries => entries
  | [name], entries =>
    match value, entries.get? name with
    | .null, some (.object []) => entries.insert name .null
    | .null, some _ => entries
    | value, _ => entries.insert name value
  | name :: rest, entries =>
    match entries.get? name with
    | none => entries.insert name (.object (insertAt value rest []))
    | some (.object inner) => entries.insert name (.object (insertAt value rest inner))
    | some _ => entries

end Entries

end JuliaLookup
