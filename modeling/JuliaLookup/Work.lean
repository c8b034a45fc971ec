import JuliaLookup.Child
import JuliaLookup.Event
import JuliaLookup.Failure

/-!
# Work

Work that starts processes and waits for them. Whenever it waits, other work may go on, so it is a tree
cut at its waits: `perform` runs it with nothing in between, and `advance` takes it to its next wait.
-/

namespace JuliaLookup

/-- What stops work that nothing here classifies. -/
inductive Crash where
  | foreign (kind message : Text)
  /-- A time limit is an integer beyond all floats. -/
  | hugeLimit
  /-- A process timed out that had no time limit. -/
  | noLimit
  /-- The arguments of a call are a value of this kind and have no names. -/
  | noNames (kind : Text)
  deriving DecidableEq

namespace Crash

def message : Crash → Text
  | foreign _ message => message
  | hugeLimit => "int too large to convert to float"
  | noLimit => "unsupported format string passed to NoneType.__format__"
  | noNames kind => ("'" : Text) ++ kind ++ "' object has no attribute 'get'"

end Crash

/-- How work ends: with a result, a classified failure, its own cancellation, or a crash. -/
inductive Outcome (α : Type) where
  | done (result : α)
  | failed (failure : Failure)
  | cancelled
  | crashed (why : Crash)

/-- A process as it was started, and what was done to it. -/
structure Spawn where
  argv : List Text
  env : Entries := []
  signals : List Signal := []

/-- Work that waits at most `n` times. To start a process, it says what is on record of the process once
it is known what came of the attempt, and how it goes on. -/
inductive Work (α : Type) : (n : Nat) → Type where
  | ended {n : Nat} (outcome : Outcome α) : Work α n
  | report {n : Nat} (event : Event) (next : Work α n) : Work α n
  | start {n : Nat} (tell : Attempt → Spawn) (next : Attempt → Work α n) : Work α n
  | wait {n : Nat} (next : Work α n) : Work α (n + 1)

/-- Work that is over: how it ended, what was reported on the way, and the processes that it tried to
start, in order. -/
structure Activity (α : Type) where
  outcome : Outcome α
  events : List Event := []
  spawns : List Spawn := []

/-- How a stretch of work stops: at its end, or at a wait. -/
inductive Stop (α : Type) (n : Nat) where
  | ended (outcome : Outcome α)
  | waiting (rest : Work α n)

/-- A stretch of work, and the attempts that are left after it. -/
structure Stretch (α : Type) (n : Nat) where
  stop : Stop α n
  events : List Event := []
  spawns : List Spawn := []
  attempts : List Attempt

namespace Work

variable {α : Type}

/-- The same work, counted as if it waited once more. -/
def ease {n : Nat} : Work α n → Work α (n + 1)
  | .ended outcome => .ended outcome
  | .report event next => .report event next.ease
  | .start tell next => .start tell fun attempt => (next attempt).ease
  | .wait next => .wait next.ease

/-- Work after some reports. -/
def reporting {n : Nat} (events : List Event) (next : Work α n) : Work α n :=
  events.foldr .report next

/-- Runs work to its end with nothing in between. -/
def perform {n : Nat} : Work α n → (attempts : List Attempt) → Activity α
  | .ended outcome, _ => { outcome }
  | .report event next, attempts =>
    let rest := next.perform attempts
    { rest with events := event :: rest.events }
  | .start tell next, attempts =>
    let attempt := attempts.headD default
    let rest := (next attempt).perform attempts.tail
    { rest with spawns := tell attempt :: rest.spawns }
  | .wait next, attempts => next.perform attempts

/-- Runs work up to its next wait. -/
def advance {n : Nat} : Work α n → (attempts : List Attempt) → Stretch α (n - 1)
  | .ended outcome, attempts => { stop := .ended outcome, attempts }
  | .report event next, attempts =>
    let rest := next.advance attempts
    { rest with events := event :: rest.events }
  | .start tell next, attempts =>
    let attempt := attempts.headD default
    let rest := (next attempt).advance attempts.tail
    { rest with spawns := tell attempt :: rest.spawns }
  | .wait next, attempts => { stop := .waiting next, attempts }

end Work

end JuliaLookup
