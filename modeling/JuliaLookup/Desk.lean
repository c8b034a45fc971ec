import JuliaLookup.Cache
import JuliaLookup.Script
import JuliaLookup.Work

/-!
# Answering calls

A call is received, run and finished. Receiving it checks the arguments and looks the question up in the
cache; a call that is not answered by then waits for its script to run. Finishing it stores the result.
Failures are answers too, and are never stored. While a script runs other calls may come and go: `call`
answers one call with nothing in between, `together` answers several in turns.
-/

namespace JuliaLookup

/-- What the caller of a tool gets. -/
structure Answer where
  text : Text
  cached : Bool := false
  isError : Bool := false
  deriving DecidableEq

/-- How a call ends: with an answer, its own cancellation, or a crash of its run. -/
inductive Reply where
  | answer (a : Answer)
  | cancelled
  | crashed (why : Crash)
  deriving DecidableEq

/-- A call that has been received. -/
inductive Received where
  | answered (a : Answer)
  | pending (request : Request) (script : Script)

namespace Desk

variable {τ : Type}

/-- The result of a step, with the cache after it and what it reports. -/
structure Step (τ α : Type) where
  result : α
  cache : Cache τ
  events : List Event := []

/-- The most code points of a path that are reported. -/
def pathLimit : Nat := 200

/-- A path as it is reported: as given, long texts cut. -/
def reportedPath : Option Value → Value
  | some (.str t) => t.take pathLimit
  | some v => v
  | none => .null

/-- The report of a call, made before anything is checked. -/
def callEvent (operation : Value) (given : Entries) : Event :=
  { level := .info, name := "tool_call"
    fields := [("operation", operation.plain), ("path", reportedPath (given.get? Tool.pathName))] }

def failureEvent (f : Failure) : Event :=
  { level := .warning, name := "tool_failed"
    fields := [("code", f.code.name), ("recoverable", f.recoverable)] }

def hitEvent (key : Text) : Event :=
  { level := .info, name := "cache_hit", fields := [("key", key)] }

/-- The answer that tells of a failure. -/
def failureAnswer (f : Failure) : Answer := { text := f.render, isError := true }

section Receive

variable [Sub τ] [LT τ] [DecidableRel (α := τ) (· < ·)]

/-- Looks a checked request up in the cache, and builds its script if it has to run. -/
def lookUp (now : τ) (request : Request) (c : Cache τ) : Step τ Received :=
  let (found, cache) := c.get now request.key
  let events := found.events request.key
  match found.value? with
  | some text =>
    { result := .answered { text, cached := true }, cache
      events := events ++ [hitEvent request.key] }
  | none =>
    match request.script with
    | .ok script => { result := .pending request script, cache, events }
    | .error refusal =>
      { result := .answered (failureAnswer refusal.failure), cache
        events := events ++ [failureEvent refusal.failure] }

/-- Receives a call. -/
def receive (now : τ) (operation : Value) (given : Entries) (c : Cache τ) : Step τ Received :=
  match Request.ofCall operation given with
  | .error refusal =>
    { result := .answered (failureAnswer refusal.failure), cache := c
      events := [callEvent operation given, failureEvent refusal.failure] }
  | .ok request =>
    let step := lookUp now request c
    { step with events := callEvent operation given :: step.events }

end Receive

/-- Finishes a call whose script has run. -/
def finish (now : τ) (request : Request) (outcome : Outcome Text) (c : Cache τ) : Step τ Reply :=
  match outcome with
  | .done text => { result := .answer { text }, cache := c.set now request.key text }
  | .failed f => { result := .answer (failureAnswer f), cache := c, events := [failureEvent f] }
  | .cancelled => { result := .cancelled, cache := c }
  | .crashed why => { result := .crashed why, cache := c }

/-! ### Whole calls -/

/-- A call from its receipt to its end. -/
structure Turn (τ ρ : Type) where
  reply : ρ
  cache : Cache τ
  events : List Event := []
  /-- The script that was run, if any, and what came of it. -/
  run : Option (Script × Activity Text) := none

section Call

variable [Sub τ] [LT τ] [DecidableRel (α := τ) (· < ·)]

/-- Answers a call with nothing in between. The clock shows `now` when the call is received and `later`
when it is finished. -/
def call (runner : Script → Activity Text) (now later : τ) (operation : Value) (given : Entries)
    (c : Cache τ) : Turn τ Reply :=
  let received := receive now operation given c
  match received.result with
  | .answered a => { reply := .answer a, cache := received.cache, events := received.events }
  | .pending request script =>
    let activity := runner script
    let finished := finish later request activity.outcome received.cache
    { reply := finished.result, cache := finished.cache
      events := received.events ++ activity.events ++ finished.events
      run := some (script, activity) }

/-- Answers a call whose arguments may be any value. Without names it comes to nothing. -/
def answer (runner : Script → Activity Text) (now later : τ) (operation arguments : Value) (c : Cache τ) :
    Turn τ Reply :=
  match arguments with
  | .object given => call runner now later operation given c
  | v => { reply := .crashed (.noNames v.kind), cache := c }

end Call

/-! ### Calls side by side -/

/-- Where a call stands that may wait `n` more times. -/
inductive Standing (n : Nat) where
  | over (reply : Reply)
  | working (request : Request) (work : Work Text n)

/-- What calls side by side share, and what they have left behind so far. -/
structure Floor (τ : Type) where
  cache : Cache τ
  /-- What comes of the processes still to be started. -/
  attempts : List Attempt := []
  events : List Event := []
  /-- The scripts that were run, in order. -/
  scripts : List Script := []
  spawns : List Spawn := []

section Together

variable [Sub τ] [LT τ] [DecidableRel (α := τ) (· < ·)]

/-- Takes the work of a call up to its next wait, and finishes the call if the work ends there. -/
def carryOn {n : Nat} (now : τ) (request : Request) (work : Work Text n) (f : Floor τ) :
    Standing (n - 1) × Floor τ :=
  let stretch := work.advance f.attempts
  let f := { f with
    attempts := stretch.attempts
    events := f.events ++ stretch.events
    spawns := f.spawns ++ stretch.spawns }
  match stretch.stop with
  | .waiting rest => (.working request rest, f)
  | .ended outcome =>
    let finished := finish now request outcome f.cache
    (.over finished.result,
      { f with cache := finished.cache, events := f.events ++ finished.events })

/-- Receives a call, and takes it up to its first wait. -/
def enter {n : Nat} (runner : Script → Work Text n) (now : τ) (operation arguments : Value)
    (f : Floor τ) : Standing (n - 1) × Floor τ :=
  match arguments with
  | .object given =>
    let received := receive now operation given f.cache
    let f := { f with cache := received.cache, events := f.events ++ received.events }
    match received.result with
    | .answered a => (.over (.answer a), f)
    | .pending request script =>
      carryOn now request (runner script) { f with scripts := f.scripts ++ [script] }
  | v => (.over (.crashed (.noNames v.kind)), f)

/-- Takes every call that is not over up to its next wait, in order. -/
def goRound {n : Nat} (now : τ) : List (Standing n) → Floor τ → List (Standing (n - 1)) × Floor τ
  | [], f => ([], f)
  | s :: others, f =>
    let (first, f) := match s with
      | .over reply => (.over reply, f)
      | .working request work => carryOn now request work f
    let (rest, f) := goRound now others f
    (first :: rest, f)

/-- Receives calls in order, each taken up to its first wait. -/
def enterAll {n : Nat} (runner : Script → Work Text n) (now : τ) :
    List (Value × Value) → Floor τ → List (Standing (n - 1)) × Floor τ
  | [], f => ([], f)
  | (operation, arguments) :: calls, f =>
    let (first, f) := enter runner now operation arguments f
    let (rest, f) := enterAll runner now calls f
    (first :: rest, f)

/-- Takes a call to its end. -/
def conclude (now : τ) : Standing 0 → Floor τ → Reply × Floor τ
  | .over reply, f => (reply, f)
  | .working request work, f =>
    let activity := work.perform f.attempts
    let finished := finish now request activity.outcome f.cache
    (finished.result,
      { f with
        cache := finished.cache
        attempts := f.attempts.drop activity.spawns.length
        events := f.events ++ activity.events ++ finished.events
        spawns := f.spawns ++ activity.spawns })

def concludeAll (now : τ) : List (Standing 0) → Floor τ → List Reply × Floor τ
  | [], f => ([], f)
  | s :: others, f =>
    let (first, f) := conclude now s f
    let (rest, f) := concludeAll now others f
    (first :: rest, f)

/-- Goes round until every call is over. -/
def settle (now : τ) : {n : Nat} → List (Standing n) → Floor τ → List Reply × Floor τ
  | 0, standings, f => concludeAll now standings f
  | _ + 1, standings, f =>
    let (standings, f) := goRound now standings f
    settle now standings f

/-- Answers calls side by side, each given by its operation and its arguments. While one waits the others
go on, always in the order of receipt. -/
def together {n : Nat} (runner : Script → Work Text n) (now : τ) (calls : List (Value × Value))
    (f : Floor τ) : List Reply × Floor τ :=
  let (standings, f) := enterAll runner now calls f
  settle now standings f

end Together

end Desk

end JuliaLookup
