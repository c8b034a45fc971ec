import JuliaLookup.Log
import JuliaLookup.Signature

/-!
# Logging by name

A logger is asked by name, with a message and further values by name. Most names write a line at some
level, and each of these has a second one that writes it later on, which nobody waits for; other names
ask about levels, or make a logger that keeps values. What cannot be done is told instead of all lines,
those before it as well.
-/

namespace JuliaLookup

namespace Logger

/-- What a logger is asked: the name that is called, a message, and values by name. -/
structure Call where
  method : Text
  message : Value
  values : Entries := []

/-- What a name stands for. -/
inductive Deed where
  /-- Writes a line at a level. -/
  | write (level : Level)
  /-- Writes an error line, with the current exception unless the values say something about that. -/
  | raise
  /-- Writes a line at a level that comes in the place of the message. The message is among the values. -/
  | writeAt
  /-- Tells whether a level counts, which comes in the place of the message. -/
  | weigh
  /-- Tells the least level that counts. -/
  | tellLeast
  /-- Makes a logger that keeps further values. -/
  | bind
  /-- Makes a logger that keeps other values. -/
  | renew
  /-- Makes a logger without a value that is kept. -/
  | unbind
  /-- Makes a logger without a value that may be kept. -/
  | tryUnbind
  deriving DecidableEq, Repr

/-- When a line is written. -/
inductive Delivery where
  | now
  | later
  deriving DecidableEq, Repr

/-- Why nothing is logged. -/
inductive Fault where
  | noMethod (least : Level) (name : Text)
  | misfit (s : Signature) (why : Misfit)
  /-- A value of this kind cannot be compared with a level by this sign. -/
  | notLevel (sign kind : Text)
  /-- No level has this number. -/
  | noLevel (n : Number)
  /-- No value of this name is kept. -/
  | notKept (name : Value)
  /-- A value of this kind can be no name. -/
  | noName (kind : Text)
  | line (fault : Log.LineFault)

/-- The name of a level in the name of a logger. -/
def loggerName (least : Level) : Text :=
  match least.settingName with
  | [] => []
  | c :: rest => ("BoundLoggerFilteringAt" : Text) ++ c :: Text.asciiLower rest

namespace Fault

def message : Fault → Text
  | noMethod least name => ("'" : Text) ++ loggerName least ++ "' object has no attribute '" ++ name ++ "'"
  | misfit s why => s.message why
  | notLevel sign kind =>
    ("'" : Text) ++ sign ++ "' not supported between instances of '" ++ kind ++ "' and 'int'"
  | noLevel n => n.text
  | notKept name => name.quoted
  | noName kind => "unhashable type: '" ++ kind ++ "'"
  | line fault => fault.message

end Fault

/-! ### Names -/

/-- The names that write a line and are not names of levels. -/
def otherWriters : List (Text × Deed) :=
  [("msg", .write .info), ("warn", .write .warning), ("fatal", .write .critical),
    ("exception", .raise), ("log", .writeAt)]

/-- The names that write a line. -/
def writers : List (Text × Deed) := (Level.every.map fun l => (l.name, .write l)) ++ otherWriters

/-- The names that write no line. -/
def others : List (Text × Deed) :=
  [("is_enabled_for", .weigh), ("get_effective_level", .tellLeast), ("bind", .bind), ("new", .renew),
    ("unbind", .unbind), ("try_unbind", .tryUnbind)]

/-- What a name stands for. Those that write later on have an `a` in front. -/
def deed? (name : Text) : Option (Deed × Delivery) :=
  match List.lookup name (writers ++ others) with
  | some deed => some (deed, .now)
  | none => ((Text.after? "a" name).bind fun name => List.lookup name writers).map (·, .later)

/-! ### What names take -/

/-- What stands before the names of functions that a logger is made with. -/
def factory : Text := "_make_filtering_bound_logger.<locals>."

/-- What stands before the names of functions that a logger has before it is made. -/
def proxy : Text := "BoundLoggerLazyProxy."

/-- The name of a function, with an `a` in front if it writes later on. -/
def Delivery.named (d : Delivery) (name : Text) : Text :=
  match d with
  | now => name
  | later => "a" ++ name

def ownerName : Text := "self"

/-- What a name takes. The logger itself comes first. -/
def signature (s : LogSettings) (d : Delivery) : Deed → Signature
  | .write level =>
    { function :=
        if s.admits level then factory ++ "make_method.<locals>." ++ d.named "meth"
        else "_" ++ d.named "nop"
      required := [ownerName, Log.eventName], anyPlaces := true, anyNames := true }
  | .raise =>
    { function := d.named "exception"
      required := [ownerName, Log.eventName], anyPlaces := true, anyNames := true }
  | .writeAt =>
    { function := factory ++ d.named "log"
      required := [ownerName, Log.levelName, Log.eventName], anyPlaces := true, anyNames := true }
  | .weigh => { function := factory ++ "<lambda>", required := [ownerName, Log.levelName] }
  | .tellLeast => { function := factory ++ "<lambda>", required := [ownerName] }
  | .bind => { function := proxy ++ "bind", required := [ownerName], anyNames := true }
  | .renew => { function := proxy ++ "new", required := [ownerName], anyNames := true }
  | .unbind => { function := proxy ++ "unbind", required := [ownerName], anyPlaces := true }
  | .tryUnbind => { function := proxy ++ "try_unbind", required := [ownerName], anyPlaces := true }

/-- What every line goes through that counts. -/
def lineSignature : Signature :=
  { function := "BoundLoggerBase._proxy_to_logger"
    required := [ownerName, "method_name"], optional := [Log.eventName], anyNames := true }

/-- Turns down names that do not fit. -/
def demand (s : Signature) (places : Nat) (values : Entries) : Except Fault Unit :=
  match s.misfit? places values.names with
  | none => .ok ()
  | some why => .error (.misfit s why)

/-! ### Records -/

/-- The record of a line. Null is no message. -/
def record (level : Level) (message : Value) (values : Entries) : Except Fault Log.Record :=
  (demand lineSignature 3 values).map fun () =>
    { level
      values := match message with
        | .null => values
        | v => values.insert Log.eventName v }

/-- The number of a value that can be compared with a level. -/
def number? : Value → Option Number
  | .number n => some n
  | .bool b => some (.int (if b then 1 else 0))
  | _ => none

/-- The record at a level that is given as a value, if it counts. -/
def recordAt? (s : LogSettings) (level : Value) (values : Entries) :
    Except Fault (Option Log.Record) :=
  match number? level with
  | none => .error (.notLevel "<" level.kind)
  | some n =>
    if n < .int s.level.gravity then .ok none
    else match Level.every.find? fun l => n.whole? = some (l.gravity : Int) with
      | none => .error (.noLevel n)
      | some l =>
        (record l ((values.get? Log.eventName).getD .null)
          (values.filter fun e => e.1 ≠ Log.eventName)).map some

/-- The values of an error line that asks for the current exception. -/
def asking (values : Entries) : Entries :=
  if (values.get? Log.requestName).isSome then values else values.insert Log.requestName true

/-- What a deed comes to once it has all that it takes: a record if it writes a line that counts. -/
def outcome (s : LogSettings) (c : Call) : Deed → Except Fault (Option Log.Record)
  | .write level =>
    if s.admits level then (record level c.message c.values).map some else .ok none
  | .raise => (record .error c.message (asking c.values)).map some
  | .writeAt => recordAt? s c.message c.values
  | .weigh =>
    match number? c.message with
    | none => .error (.notLevel ">=" c.message.kind)
    | some _ => .ok none
  | .unbind =>
    match c.message with
    | .list _ | .object _ => .error (.noName c.message.kind)
    | v => .error (.notKept v)
  | .tellLeast | .bind | .renew | .tryUnbind => .ok none

/-- The record that a call asks for, if it writes a line that counts. -/
def record? (s : LogSettings) (c : Call) : Except Fault (Option Log.Record) := do
  let some (deed, delivery) := deed? c.method | throw (.noMethod s.level c.method)
  demand (signature s delivery deed) 2 c.values
  match delivery with
  | .now => outcome s c deed
  | .later => return none

/-- The lines that calls come to, one after another. -/
def lines (s : LogSettings) (time : Text) (calls : List Call) : Except Fault (List Text) := do
  let lines ← calls.mapM fun c => do
    match ← record? s c with
    | some r => (s.lines time [r]).mapError .line
    | none => return []
  return lines.flatten

end Logger

end JuliaLookup
