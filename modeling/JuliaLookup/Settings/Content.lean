import JuliaLookup.Value.Quoted

/-!
# The content of a settings file

What a file holds is an object, or a list of pairs that could be one. An empty value of any kind sets
nothing.
-/

namespace JuliaLookup

/-- Why the content of a file sets nothing that can be used. -/
inductive ContentFault where
  /-- A value that holds no others. -/
  | single (v : Value)
  /-- The item at a place holds no others. -/
  | noPair (place : Nat)
  /-- The item at a place holds another number of values than two. -/
  | wrongCount (place count : Nat)
  /-- A list or an object in the place of a name. -/
  | containerName (v : Value)
  /-- Something else than a text in the place of a name. -/
  | oddName (v : Value)

namespace ContentFault

def message : ContentFault → Text
  | single v => ("'" : Text) ++ v.kind ++ "' object is not iterable"
  | noPair place =>
    "cannot convert dictionary update sequence element #" ++ Text.ofNat place ++ " to a sequence"
  | wrongCount place count =>
    "dictionary update sequence element #" ++ Text.ofNat place ++ " has length " ++ Text.ofNat count ++
      "; 2 is required"
  | containerName v => "unhashable type: '" ++ v.kind ++ "'"
  | oddName v => ("'" : Text) ++ v.kind ++ "' object has no attribute 'lower'"

end ContentFault

/-- The values that a value holds: the code points of a text, the items of a list, the names of an
object. -/
def Value.members? : Value → Option (List Value)
  | .str t => some (t.map fun c => .str [c])
  | .list items => some items
  | .object entries => some (entries.map fun e => .str e.1)
  | _ => none

namespace Content

/-- The item at a place as a name with its value. -/
def pair (item : Value × Nat) : Except ContentFault (Value × Value) :=
  match item.1.members? with
  | none => .error (.noPair item.2)
  | some [name, v] =>
    match name with
    | .list _ | .object _ => .error (.containerName name)
    | _ => .ok (name, v)
  | some members => .error (.wrongCount item.2 members.length)

/-- A name that is a text. -/
def named (entry : Value × Value) : Except ContentFault (Text × Value) :=
  match entry.1 with
  | .str name => .ok (name, entry.2)
  | v => .error (.oddName v)

/-- What a content sets. Of pairs with one name the last counts, at the place of the first. -/
def entries (content : Value) : Except ContentFault Entries :=
  if !content.isTruthy then .ok []
  else match content with
    | .object entries => .ok entries
    | content =>
      match content.members? with
      | none => .error (.single content)
      | some items => do
        let pairs ← items.zipIdx.mapM pair
        return Entries.insertAll [] (← pairs.mapM named)

end Content

end JuliaLookup
