import JuliaLookup.Text.Quoted
import JuliaLookup.Text.Search
import JuliaLookup.Value.Basic

/-!
# Values as text

`quoted` shows a value so that its kind can be told: strings between quotation marks, lists and
objects with their members quoted. `plain` shows a string as it is and any other value as `quoted`
does. `kind` is the name of a value's kind in messages.
-/

namespace JuliaLookup.Value

mutual

def quoted : Value → Text
  | null => "None"
  | bool true => "True"
  | bool false => "False"
  | number n => n.text
  | str t => t.quoted
  | list items => "[" ++ Text.join ", " (quotedItems items) ++ "]"
  | object entries => "\x7b" ++ Text.join ", " (quotedEntries entries) ++ "\x7d"

def quotedItems : List Value → List Text
  | [] => []
  | v :: rest => quoted v :: quotedItems rest

def quotedEntries : List (Text × Value) → List Text
  | [] => []
  | (name, v) :: rest => (name.quoted ++ ": " ++ quoted v) :: quotedEntries rest

end

def plain : Value → Text
  | str t => t
  | v => v.quoted

def kind : Value → Text
  | null => "NoneType"
  | bool _ => "bool"
  | number (.int _) => "int"
  | number (.float _) => "float"
  | str _ => "str"
  | list _ => "list"
  | object _ => "dict"

end JuliaLookup.Value
