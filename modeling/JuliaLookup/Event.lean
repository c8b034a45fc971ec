import JuliaLookup.Value.Basic

/-!
# Events

What is reported while calls are answered: a level, a name, and named values in order.
-/

namespace JuliaLookup

/-- How serious an event is. -/
inductive Level where
  | debug
  | info
  | warning
  | error
  | critical
  deriving DecidableEq, Repr

namespace Level

def name : Level → Text
  | debug => "debug"
  | info => "info"
  | warning => "warning"
  | error => "error"
  | critical => "critical"

def every : List Level := [debug, info, warning, error, critical]

/-- The number of a level. The graver it is, the greater. -/
def gravity : Level → Nat
  | debug => 10
  | info => 20
  | warning => 30
  | error => 40
  | critical => 50

end Level

structure Event where
  level : Level
  name : Text
  fields : Entries := []

end JuliaLookup
