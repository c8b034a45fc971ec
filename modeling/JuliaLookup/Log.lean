import JuliaLookup.Settings.Basic
import JuliaLookup.Value.Json
import JuliaLookup.Value.Quoted

/-!
# Log lines

A record as one JSON object, or as a text in columns with the rest of its values in the order of their
names. A trace in a record follows below the columns.
-/

namespace JuliaLookup

namespace Log

def eventName : Text := "event"

def levelName : Text := "level"

def timeName : Text := "timestamp"

/-- The name of a value that comes before all columns: none at all. -/
def leadName : Text := []

/-- The names of values that have a column of their own behind the event. -/
def columnNames : List Text := ["logger", "logger_name"]

/-- The name of the path that led to a record. -/
def stackName : Text := "stack"

/-- The name of the exception of a record. -/
def exceptionName : Text := "exception"

/-- The name of what asks for the current exception. There is none, so nothing is shown for it. -/
def requestName : Text := "exc_info"

/-- What is logged at once: a level and named values, among them what happened. -/
structure Record where
  level : Level
  values : Entries

/-- Why a record has no line: in the place of a text there is a value of some kind. -/
structure LineFault where
  kind : Text
  deriving DecidableEq

def LineFault.message (f : LineFault) : Text :=
  "can only concatenate str (not \"" ++ f.kind ++ "\") to str"

/-! ### Objects -/

/-- A record as an object: its values, then its level and the time. A value of one of these names gives
way and keeps its place. -/
def jsonLine (time : Text) (r : Record) : Text :=
  let levelled := r.values.insert levelName (.str r.level.name)
  let timed := levelled.insert timeName (.str time)
  Json.write (.object (timed.filter fun e => e.1 ≠ requestName))

/-! ### Columns -/

/-- What sets the values of fields apart from the fields beside them. -/
def needsMarks (c : CodePoint) : Bool := (" \t\r\n='\"" : Text).contains c

/-- A value in a field: a text as it is where that can be read, any other value as it shows. -/
def fieldValue : Value → Text
  | .str t => if t.any needsMarks then t.quoted else t
  | v => v.quoted

def fieldText (field : Text × Value) : Text := field.1 ++ "=" ++ fieldValue field.2

/-- Without spaces at its end. -/
def dropSpaces (t : Text) : Text :=
  (t.reverse.dropWhile (· == CodePoint.ofChar ' ')).reverse

/-- A text between brackets. -/
def bracketed (t : Text) : Text := ("[" : Text) ++ t ++ "]"

/-- The names that are no fields. -/
def reservedNames : List Text :=
  [leadName, eventName, levelName, timeName, stackName, exceptionName, requestName] ++ columnNames

/-- The columns of a record. -/
def columns (time : Text) (r : Record) : Text :=
  let lead := (r.values.get? leadName).map fun v => fieldText (leadName, v)
  let event := (r.values.get? eventName).map fun v => v.plain.padRight 30
  let named := columnNames.filterMap fun name => (r.values.get? name).map fun v => bracketed v.plain
  let fields := Entries.sorted (r.values.filter fun e => e.1 ∉ reservedNames)
  dropSpaces (Text.join " "
    (lead.toList ++ [time, bracketed (r.level.name.padRight 9)] ++ event.toList ++ named ++ fields.map fieldText))

/-- The rule between a path and an exception. -/
def rule : Text := List.replicate 79 (CodePoint.ofChar '=')

/-- A value that has to be a text where it is not null. -/
def textOrNull (r : Record) (name : Text) : Except LineFault (Option Text) :=
  match (r.values.get? name).getD .null with
  | .null => .ok none
  | .str t => .ok (some t)
  | v => .error { kind := v.kind }

/-- What follows below the columns of a record. -/
def trace (r : Record) : Except LineFault Text := do
  let stack ← textOrNull r stackName
  let exception ← textOrNull r exceptionName
  let asked := ((r.values.get? requestName).getD .null).isTruthy
  let path : Text := match stack with
    | none => []
    | some t => "\n" ++ t ++ (if asked || exception.isSome then ("\n\n" : Text) ++ rule ++ "\n" else [])
  return path ++ ((exception.map fun t => ("\n" : Text) ++ t).getD [])

/-- A record as text. -/
def textLine (time : Text) (r : Record) : Except LineFault Text :=
  (trace r).map fun below => columns time r ++ below

end Log

/-- What is logged of an event. -/
def Event.record (e : Event) : Log.Record :=
  { level := e.level, values := e.fields.insert Log.eventName (.str e.name) }

def LogFormat.line : LogFormat → (time : Text) → Log.Record → Except Log.LineFault Text
  | json, time, r => .ok (Log.jsonLine time r)
  | text, time, r => Log.textLine time r

namespace LogSettings

/-- Whether a record of this level is grave enough. -/
def admits (s : LogSettings) (level : Level) : Bool := s.level.gravity ≤ level.gravity

/-- The lines of the records that are grave enough. A record takes several where it breaks. -/
def lines (s : LogSettings) (time : Text) (records : List Log.Record) : Except Log.LineFault (List Text) :=
  ((records.filter fun r => s.admits r.level).mapM (s.format.line time)).map fun lines =>
    lines.flatMap (Text.pieces (CodePoint.ofChar '\n'))

end LogSettings

end JuliaLookup
