import JuliaLookup.Number.Basic

/-!
# Values

The data that calls, settings and log records carry: JSON's kinds of value, with objects that keep
the order of their entries.
-/

namespace JuliaLookup

inductive Value where
  | null
  | bool (b : Bool)
  | number (n : Number)
  | str (t : Text)
  | list (items : List Value)
  | object (entries : List (Text × Value))

/-- Named values in order. A name is meant to occur once; `insert` keeps it so. -/
abbrev Entries := List (Text × Value)

namespace Value

instance : Inhabited Value := ⟨null⟩
instance : Coe Text Value := ⟨str⟩
instance : Coe Bool Value := ⟨bool⟩
instance : Coe String Value := ⟨fun s => str s⟩

def int (n : Int) : Value := number (.int n)

/-- A text if there is one, null otherwise. -/
def ofText? : Option Text → Value
  | some t => str t
  | none => null

/-- The text of a string value. -/
def text? : Value → Option Text
  | str t => some t
  | _ => none

/-- Whether a value counts as true: everything but null, false, zero, and what is empty. -/
def isTruthy : Value → Bool
  | null => false
  | bool b => b
  | number n => !n.isZero
  | str t => !t.isEmpty
  | list items => !items.isEmpty
  | object entries => !entries.isEmpty

end Value

namespace Entries

/-- The value under a name. -/
def get? : Entries → Text → Option Value
  | [], _ => none
  | (n, v) :: rest, name => if n = name then some v else get? rest name

def names (entries : Entries) : List Text := entries.map Prod.fst

/-- Sets the value under a name: in its place if the name is there, at the end otherwise. -/
def insert (name : Text) (value : Value) : Entries → Entries
  | [] => [(name, value)]
  | (n, v) :: rest =>
    if n = name then (name, value) :: rest else (n, v) :: insert name value rest

/-- Inserts entries one after another. -/
def insertAll (entries added : Entries) : Entries :=
  added.foldl (fun acc e => acc.insert e.1 e.2) entries

/-- The entries in the order of their names. -/
def sorted (entries : Entries) : Entries := entries.mergeSort fun a b => a.1 ≤ b.1

variable {name other : Text} {value : Value} {entries : Entries}

@[simp] theorem get?_nil : get? [] name = none := rfl

@[simp] theorem get?_insert_self : get? (insert name value entries) name = some value := by
  induction entries with
  | nil => simp [insert, get?]
  | cons e rest ih =>
    obtain ⟨n, v⟩ := e
    by_cases h : n = name
    · simp [insert, get?, h]
    · simp [insert, get?, h, ih]

theorem get?_insert_of_ne (h : name ≠ other) :
    get? (insert name value entries) other = get? entries other := by
  induction entries with
  | nil => simp [insert, get?, h]
  | cons e rest ih =>
    obtain ⟨n, v⟩ := e
    by_cases hn : n = name
    · subst hn
      simp [insert, get?, h]
    · simp only [insert, if_neg hn, get?, ih]

end Entries

end JuliaLookup
