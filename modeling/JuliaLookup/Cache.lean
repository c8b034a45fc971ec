import JuliaLookup.Check.Scalar
import JuliaLookup.Event

/-!
# Cache

Texts under keys, each with the reading of the clock when it was stored. An entry older than the
lifetime is removed by the look-up that finds it; nothing else looks at ages. Readings may be of any
type with a difference and an order.
-/

namespace JuliaLookup

variable {τ : Type}

/-- A stored text. -/
structure Cache.Entry (τ : Type) where
  key : Text
  value : Text
  storedAt : τ

/-- Entries in the order in which their keys were first stored. -/
structure Cache (τ : Type) where
  lifetime : τ
  entries : List (Cache.Entry τ) := []

namespace Cache

/-- What a look-up finds. -/
inductive Found where
  | live (value : Text)
  | expired
  | absent
  deriving DecidableEq

namespace Found

/-- The text found, unless it is too old. -/
def value? : Found → Option Text
  | live value => some value
  | _ => none

/-- A removal is reported. -/
def events (key : Text) : Found → List Event
  | expired => [{ level := .debug, name := "cache_evicted", fields := [("key", key)] }]
  | _ => []

end Found

/-- The entry under a key, whatever its age. -/
def entry? (c : Cache τ) (key : Text) : Option (Entry τ) := c.entries.find? (·.key == key)

/-- Whether a key has an entry, whatever its age. -/
def contains (c : Cache τ) (key : Text) : Bool := c.entries.any (·.key == key)

def size (c : Cache τ) : Nat := c.entries.length

/-- Removes the entry under a key. -/
def erase (c : Cache τ) (key : Text) : Cache τ :=
  { c with entries := c.entries.filter (·.key != key) }

section Ages

variable [Sub τ] [LT τ] [DecidableRel (α := τ) (· < ·)]

/-- Whether an entry is older than the lifetime. -/
def isExpired (c : Cache τ) (now : τ) (e : Entry τ) : Bool := c.lifetime < now - e.storedAt

/-- What a look-up finds under a key. -/
def find (c : Cache τ) (now : τ) (key : Text) : Found :=
  match c.entry? key with
  | none => .absent
  | some e => if c.isExpired now e then .expired else .live e.value

/-- Looks a key up, and removes its entry if it is too old. -/
def get (c : Cache τ) (now : τ) (key : Text) : Found × Cache τ :=
  match c.find now key with
  | .expired => (.expired, c.erase key)
  | found => (found, c)

end Ages

/-- Sets the entry under a key, in its place if there is one and last otherwise. -/
def put (new : Entry τ) : List (Entry τ) → List (Entry τ)
  | [] => [new]
  | e :: rest => if e.key = new.key then new :: rest else e :: put new rest

/-- Stores a text as of now. -/
def set (c : Cache τ) (now : τ) (key value : Text) : Cache τ :=
  { c with entries := put { key, value, storedAt := now } c.entries }

/-- Stores a value, which has to be a text. -/
def setValue (c : Cache τ) (now : τ) (key : Text) (value : Value) : Checked (Cache τ) :=
  match Check.text value with
  | .ok t => .ok (c.set now key t)
  | .error fault => .error [{ place := ["value"], fault }]

/-- Drops every entry. -/
def clear (c : Cache τ) : Cache τ := { c with entries := [] }

/-- What clearing reports: how many entries there were. -/
def clearEvent (c : Cache τ) : Event :=
  { level := .info, name := "cache_cleared", fields := [("entries", Value.int c.size)] }

end Cache

end JuliaLookup
