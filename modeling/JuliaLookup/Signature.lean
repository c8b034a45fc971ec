import JuliaLookup.Text.Search

/-!
# What functions take

A function has parameters that must be given and parameters that may be left out. Values come in places
from the front, and then under names. `misfit?` tells the first thing that is wrong with them: names in
the order in which they are given, then places, then what is missing.
-/

namespace JuliaLookup

structure Signature where
  /-- What the function is called in messages. -/
  function : Text
  required : List Text
  optional : List Text := []
  /-- Whether it takes values in more places than it has parameters. -/
  anyPlaces : Bool := false
  /-- Whether it takes values under other names than its parameters. -/
  anyNames : Bool := false
  deriving DecidableEq, Repr

/-- Why a function cannot take what it is given. -/
inductive Misfit where
  /-- The parameter of a name has its value in a place already. -/
  | taken (name : Text)
  | unexpected (name : Text)
  | tooMany (places given : Nat)
  | missing (names : List Text)
  deriving DecidableEq, Repr

namespace Signature

def parameters (s : Signature) : List Text := s.required ++ s.optional

/-- What is wrong with a name, if `places` values come before all names. -/
def nameMisfit? (s : Signature) (places : Nat) (name : Text) : Option Misfit :=
  if name ∈ s.parameters.take places then some (.taken name)
  else if s.anyNames ∨ name ∈ s.parameters then none
  else some (.unexpected name)

/-- The first thing that is wrong with values in some places and under some names. -/
def misfit? (s : Signature) (places : Nat) (names : List Text) : Option Misfit :=
  match names.findSome? (s.nameMisfit? places) with
  | some m => some m
  | none =>
    if s.parameters.length < places ∧ s.anyPlaces = false then
      some (.tooMany s.parameters.length places)
    else match (s.required.drop places).filter (· ∉ names) with
      | [] => none
      | absent => some (.missing absent)

/-- A number of arguments that come in places. -/
def positional (n : Nat) : Text :=
  Text.ofNat n ++ " positional argument" ++ (if n = 1 then [] else ("s" : Text))

/-- A name between single marks. -/
def marked (name : Text) : Text := "'" ++ name ++ "'"

def message (s : Signature) (m : Misfit) : Text :=
  s.function ++ "() " ++ match m with
    | .taken name => "got multiple values for argument " ++ marked name
    | .unexpected name => "got an unexpected keyword argument " ++ marked name
    | .tooMany places given =>
      "takes " ++ positional places ++ " but " ++ Text.ofNat given ++
        (if given = 1 then (" was given" : Text) else " were given")
    | .missing names =>
      "missing " ++ Text.ofNat names.length ++ " required positional argument" ++
        (if names.length = 1 then ([] : Text) else "s") ++ ": " ++
        Text.join " and " (names.map marked)

end Signature

end JuliaLookup
