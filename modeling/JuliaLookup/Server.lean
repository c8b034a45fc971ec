import JuliaLookup.Interpreter
import JuliaLookup.Launcher
import JuliaLookup.Settings.Sources
import JuliaLookup.Toolbox

/-!
# The server

What is fixed when the server starts, and what a session of it does: the cache is empty again when a
session ends, however its calls went.
-/

namespace JuliaLookup

/-- The name that the server goes by. -/
def serverName : Text := "juliadoc"

def serverVersion : Text := "0.1.0"

/-- What a server works with. The interpreter and the environment are looked up once. -/
structure Server where
  launcher : Launcher
  lifetime : Int

namespace Server

/-- The server on a machine with given settings. -/
def of (settings : Settings) (machine : Machine) (env : Entries) : Except LocateFault Server :=
  (Interpreter.locate machine settings.julia.executable).map fun executable =>
    { launcher :=
        { executable
          project := settings.julia.project
          timeout := some (.float settings.julia.timeoutSeconds)
          env }
      lifetime := settings.cache.lifetimeSeconds }

/-- The report of the interpreter that was found. -/
def locatedEvent (s : Server) : Event :=
  { level := .info, name := "julia_located"
    fields := [("executable", s.launcher.executable), ("project", .ofText? s.launcher.project)] }

/-- The report at the start of a session. -/
def startEvent (s : Server) : Event :=
  { level := .info, name := "server_start"
    fields := [("julia", s.launcher.executable), ("project", .ofText? s.launcher.project),
      ("cache_ttl_seconds", Value.int s.lifetime)] }

def stopEvent : Event := { level := .info, name := "server_stop" }

/-- The cache that a server starts with. -/
def cache (s : Server) : Cache Number := { lifetime := .int s.lifetime }

/-- The end of a session, with the cache that is left. -/
def leave (c : Cache Number) : Cache Number × List Event := (c.clear, [c.clearEvent, stopEvent])

end Server

end JuliaLookup
