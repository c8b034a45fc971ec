import JuliaLookup.Text.Basic

/-!
# Child processes

What may come of starting a process and waiting for it, and what is done to a process that is given up.
-/

namespace JuliaLookup

/-- Why a process could not be started. -/
inductive SpawnError where
  | missing
  | denied
  | notDirectory
  | system
  | badValue
  /-- The work was cancelled before the process was there. -/
  | cancelled
  /-- Any other exception, of which nothing is known. -/
  | foreign (kind : Text)

/-- How waiting for a process ends. -/
inductive Wait where
  | completes
  | timesOut
  | cancelled
  /-- By another exception, also of a class that is known to keep a process from starting. -/
  | raises (kind message : Text)
  deriving DecidableEq, Repr

/-- A process that was started. -/
structure Child where
  stdout : List UInt8 := []
  stderr : List UInt8 := []
  wait : Wait := .completes
  /-- Whether its return code is known when waiting ends. -/
  ended : Bool := false
  /-- Whether it is gone by the time it is killed. -/
  gone : Bool := false

/-- What comes of an attempt to start a process. Of itself a process ends at once and prints nothing. -/
inductive Attempt where
  | started (child : Child)
  | refused (why : SpawnError) (text : Text)

instance : Inhabited Attempt := ⟨.started {}⟩

/-- What is done to a process. -/
inductive Signal where
  | kill
  | wait
  deriving DecidableEq, Repr

namespace Child

/-- Gives a process up: it is killed and waited for unless it has ended. A process that is gone cannot
be killed, and is waited for all the same. -/
def terminate (c : Child) : List Signal := if c.ended then [] else [.kill, .wait]

/-- What is done to a process when waiting for it has ended. Another exception leaves it alone. -/
def signals (c : Child) : Wait → List Signal
  | .completes => []
  | .timesOut => c.terminate
  | .cancelled => c.terminate
  | .raises .. => []

end Child

end JuliaLookup
