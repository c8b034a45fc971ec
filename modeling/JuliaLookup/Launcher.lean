import JuliaLookup.Complaint
import JuliaLookup.Script
import JuliaLookup.Text.Utf8
import JuliaLookup.Work

/-!
# Launching Julia

A script goes to `julia -e` as one argument; no shell is involved. Any error output means failure, and
then a second, short script describes the environment for the message.
-/

namespace JuliaLookup

structure Launcher where
  executable : Text := "julia"
  project : Option Text := none
  /-- The most seconds to wait for a process, if there is a limit. -/
  timeout : Option Number := some (.float 60)
  /-- The environment variables of the processes. -/
  env : Entries := []

namespace Launcher

/-- The heading over a description of the environment. -/
def diagnosticsHeading : Text := "Julia environment diagnostics:"

/-- The most code points of error output that are reported. -/
def reportLimit : Nat := 500

/-- The script that describes the environment. -/
def diagnosticScript : Text := Catalog.diagnostics.fill []

/-- The arguments of the process that runs a script. -/
def command (l : Launcher) (script : Text) : List Text :=
  let flag : List Text := match l.project.filter (!·.isEmpty) with
    | some p => [("--project=" : Text) ++ p]
    | none => []
  l.executable :: ("--color=no" : Text) :: flag ++ [("-e" : Text), script]

/-! ### Failures -/

def notFound (l : Launcher) : Failure :=
  { code := .interpreterNotFound
    message := "Julia executable not found: " ++ l.executable
    suggestion := some ("Install Julia from https://julialang.org/downloads/ and make sure " ++
      "\x60julia\x60 is on PATH, or set JULIADOC__JULIA__EXECUTABLE.") }

def notStarted (text : Text) : Failure :=
  { code := .interpreterError, message := "Could not start Julia: " ++ text }

/-- What a process comes to that ran out of time. A limit that cannot be told makes the work crash. -/
def timedOut (l : Launcher) : Outcome (Text × Text) :=
  match l.timeout with
  | none => .crashed .noLimit
  | some t =>
    if t.fitsFloat then
      .failed
        { code := .timeout
          message := "Julia did not finish within " ++ t.general ++ " seconds and was stopped."
          suggestion := some "Package precompilation can be slow on first use; try again."
          recoverable := true }
    else .crashed .hugeLimit

def noResult : Failure :=
  { code := .emptyResult
    message := "No result: Julia ran successfully but printed nothing." }

/-! ### Single processes -/

/-- What comes of a process that cannot be started, and what is reported. -/
def refuse (l : Launcher) (text : Text) : SpawnError → Outcome (Text × Text) × List Event
  | .missing | .denied | .notDirectory =>
    (.failed l.notFound,
      [{ level := .error, name := "julia_not_found", fields := [("executable", l.executable)] }])
  | .system | .badValue =>
    (.failed (notStarted text),
      [{ level := .error, name := "julia_spawn_failed",
         fields := [("executable", l.executable), ("error", text)] }])
  | .cancelled => (.cancelled, [])
  | .foreign kind => (.crashed (.foreign kind text), [])

/-- Whether a wait under the limit cannot even begin. -/
def cannotWait (l : Launcher) : Bool := l.timeout.any fun t => .int 0 < t && !t.fitsFloat

/-- Whether there is no time to wait at all. -/
def isOutOfTime (l : Launcher) : Bool := l.timeout.any fun t => !(.int 0 < t) && !t.isNaN

/-- How waiting for a process ends. Without time to wait it is given up at once. -/
def waits (l : Launcher) (c : Child) : Wait := if l.isOutOfTime then .timesOut else c.wait

/-- What comes of a process that was waited for, and what is reported. -/
def conclude (l : Launcher) (c : Child) : Outcome (Text × Text) × List Event :=
  match l.waits c with
  | .completes => (.done (Utf8.decode c.stdout, Utf8.decode c.stderr), [])
  | .timesOut =>
    (l.timedOut,
      [{ level := .warning, name := "julia_timeout",
         fields := [("timeout_seconds", (l.timeout.map Value.number).getD .null)] }])
  | .cancelled => (.cancelled, [])
  | .raises kind message => (.crashed (.foreign kind message), [])

/-- What is on record of a process that runs a script. -/
def tell (l : Launcher) (script : Text) : Attempt → Spawn
  | .started c =>
    { argv := l.command script, env := l.env
      signals := if l.cannotWait then [] else c.signals (l.waits c) }
  | .refused .. => { argv := l.command script, env := l.env }

/-- The report of a process before it is started. -/
def startEvent (l : Launcher) (script : Text) : Event :=
  { level := .debug, name := "julia_exec", fields := [("command", Shell.line (l.command script))] }

section Execute

variable {α : Type} {n : Nat}

/-- Waits for a process and goes on with its output and its error output. Without a limit nothing else
goes on meanwhile. -/
def await (l : Launcher) (c : Child) (next : Outcome (Text × Text) → Work α n) : Work α (n + 1) :=
  let (outcome, events) := l.conclude c
  if l.cannotWait then (next (.crashed .hugeLimit)).ease
  else if l.timeout.isNone then (Work.reporting events (next outcome)).ease
  else .wait (Work.reporting events (next outcome))

/-- Runs a script in a process of its own and goes on with its output and its error output. -/
def execute (l : Launcher) (script : Text) (next : Outcome (Text × Text) → Work α n) :
    Work α (n + 1) :=
  .report (l.startEvent script) (.start (l.tell script) fun
    | .started c => l.await c next
    | .refused why text =>
      let (outcome, events) := l.refuse text why
      (Work.reporting events (next outcome)).ease)

end Execute

/-! ### Descriptions of the environment -/

/-- The description under the heading: what was printed, or why nothing could be. -/
def describe : Outcome (Text × Text) → Outcome Text
  | .done (stdout, stderr) =>
    let body := Text.join "\n" ([stdout.strip, stderr.strip].filter (!·.isEmpty))
    .done (diagnosticsHeading ++ "\n" ++ (if body.isEmpty then ("(no output)" : Text) else body))
  | .failed f => .done (diagnosticsHeading ++ "\n(diagnostics unavailable: " ++ f.message ++ ")")
  | .cancelled => .cancelled
  | .crashed why => .crashed why

/-- Describes the environment of Julia processes. -/
def diagnostics (l : Launcher) : Work Text 1 :=
  l.execute diagnosticScript fun outcome => .ended (describe outcome)

/-! ### Scripts -/

/-- The failure that error output means, once the environment is described. -/
def complain (l : Launcher) (package : Option Text) (stderr : Text) : Outcome Text → Outcome Text
  | .done description => .failed (.ofStderr package l.project (some description) stderr)
  | .failed f => .failed f
  | .cancelled => .cancelled
  | .crashed why => .crashed why

/-- The report of error output. -/
def complaintEvent (package : Option Text) (stderr : Text) : Event :=
  { level := .warning, name := "julia_error"
    fields := [("package", .ofText? package), ("stderr", stderr.strip.take reportLimit)] }

/-- What follows the process of a script. Error output is explained by a second process. -/
def judge (l : Launcher) (package : Option Text) : Outcome (Text × Text) → Work Text 1
  | .done (stdout, stderr) =>
    if !stderr.isBlank then
      .report (complaintEvent package stderr) (l.execute diagnosticScript fun outcome =>
        .ended (l.complain package stderr (describe outcome)))
    else if stdout.isBlank then .ended (.failed noResult)
    else .ended (.done stdout.strip)
  | .failed f => .ended (.failed f)
  | .cancelled => .ended .cancelled
  | .crashed why => .ended (.crashed why)

/-- Runs a script; the result is what it prints, without blanks around it. -/
def run (l : Launcher) (script : Text) (package : Option Text) : Work Text 2 :=
  l.execute script (l.judge package)

/-- Runs the scripts of calls, one at a time. The attempts are those still to come. -/
def runner (l : Launcher) (attempts : List Attempt) (script : Script) : Activity Text :=
  (l.run script.text script.package).perform attempts

end Launcher

end JuliaLookup
