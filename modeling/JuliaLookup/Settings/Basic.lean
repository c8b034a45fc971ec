import JuliaLookup.Check.Scalar
import JuliaLookup.Event

/-!
# Settings

What can be configured, in three sections, and how a section is checked. Every field has a default.
-/

namespace JuliaLookup

/-- How log lines are written. -/
inductive LogFormat where
  | json
  | text
  deriving DecidableEq, Repr

namespace LogFormat

def every : List LogFormat := [json, text]

def name : LogFormat → Text
  | json => "json"
  | text => "text"

/-- The format with a name. -/
def named? (t : Text) : Option LogFormat := every.find? (·.name == t)

end LogFormat

namespace Level

/-- The levels that can be set as the least that counts. -/
def settable : List Level := [debug, info, warning, error]

/-- The name of a level in settings. -/
def settingName : Level → Text
  | debug => "DEBUG"
  | info => "INFO"
  | warning => "WARNING"
  | error => "ERROR"
  | critical => "CRITICAL"

/-- The level with a name in settings. -/
def ofSetting? (t : Text) : Option Level := settable.find? (·.settingName == t)

end Level

structure JuliaSettings where
  executable : Option Text := none
  project : Option Text := none
  timeoutSeconds : Float := 60

structure CacheSettings where
  lifetimeSeconds : Int := 300

structure LogSettings where
  level : Level := .info
  format : LogFormat := .json

structure Settings where
  julia : JuliaSettings := {}
  cache : CacheSettings := {}
  logging : LogSettings := {}

namespace JuliaSettings

def fieldNames : List Text := ["executable", "project", "timeout_seconds"]

def check (given : Entries) : Checked JuliaSettings :=
  let isPositive (x : Float) : Bool := Number.int 0 < Number.float x
  let executable := Check.field "executable" (some none) Check.optionalText given
  let project := Check.field "project" (some none) Check.optionalText given
  let timeout := Check.field "timeout_seconds" (some ({} : JuliaSettings).timeoutSeconds)
    (Check.such Check.real isPositive .notPositive) given
  let fields := ((executable.both project).both timeout).map
    fun ((executable, project), timeoutSeconds) => { executable, project, timeoutSeconds }
  Check.record fieldNames fields given

end JuliaSettings

namespace CacheSettings

def fieldNames : List Text := ["ttl_seconds"]

def check (given : Entries) : Checked CacheSettings :=
  let lifetime := Check.field "ttl_seconds" (some ({} : CacheSettings).lifetimeSeconds)
    (Check.such Check.integer (0 ≤ ·) .negative) given
  Check.record fieldNames (lifetime.map fun lifetimeSeconds => { lifetimeSeconds }) given

end CacheSettings

namespace LogSettings

def fieldNames : List Text := ["level", "format"]

def check (given : Entries) : Checked LogSettings :=
  let level := Check.field "level" (some ({} : LogSettings).level)
    (Check.choice Level.ofSetting? (.notLiteral (Level.settable.map Level.settingName))) given
  let format := Check.field "format" (some ({} : LogSettings).format)
    (Check.choice LogFormat.named? (.notLiteral (LogFormat.every.map LogFormat.name))) given
  let fields := (level.both format).map fun (level, format) => { level, format }
  Check.record fieldNames fields given

end LogSettings

/-- A section of the settings. -/
inductive Section where
  | julia
  | cache
  | logging
  deriving DecidableEq, Repr

namespace Section

def every : List Section := [julia, cache, logging]

def name : Section → Text
  | julia => "julia"
  | cache => "cache"
  | logging => "logging"

/-- The name of a section's record in messages. -/
def recordName : Section → Text
  | julia => "JuliaSettings"
  | cache => "CacheSettings"
  | logging => "LoggingSettings"

def fieldNames : Section → List Text
  | julia => JuliaSettings.fieldNames
  | cache => CacheSettings.fieldNames
  | logging => LogSettings.fieldNames

/-- Checks a section, which has to be an object. A section that is not given is empty. -/
def check {α : Type} (s : Section) (checkFields : Entries → Checked α) (given : Entries) :
    Checked α :=
  match given.get? s.name with
  | none => checkFields []
  | some (.object fields) =>
    (checkFields fields).mapError fun problems => problems.map (·.under s.name)
  | some _ => .error [{ place := [s.name], fault := .notRecord s.recordName }]

end Section

/-- Checks all settings. -/
def Settings.check (given : Entries) : Checked Settings :=
  let julia := Section.julia.check JuliaSettings.check given
  let cache := Section.cache.check CacheSettings.check given
  let logging := Section.logging.check LogSettings.check given
  let sections := ((julia.both cache).both logging).map
    fun ((julia, cache), logging) => { julia, cache, logging }
  Check.record (Section.every.map Section.name) sections given

end JuliaLookup
