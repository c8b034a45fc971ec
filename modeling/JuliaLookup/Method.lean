import JuliaLookup.Signature
import JuliaLookup.Tool

/-!
# Calls by method

A call can be made by the method of a tool, whose arguments go by name and may be left out where there is
a default, or by the method that takes any operation with its arguments. Only the names are looked at
here; what the values are is checked when the call is received.
-/

namespace JuliaLookup

inductive Method where
  | tool (t : Tool)
  | call
  deriving DecidableEq, Repr

/-- Why a call by method cannot be made. -/
inductive MethodFault where
  | noMethod (name : Text)
  | misfit (m : Method) (why : Misfit)
  deriving DecidableEq

namespace Method

def every : List Method := Tool.every.map tool ++ [call]

def name : Method → Text
  | tool t => t.identifier
  | call => "call"

/-- The method with a name. -/
def named? (t : Text) : Option Method := every.find? (·.name == t)

/-- The name of what a method belongs to, which no argument can have. -/
def ownerName : Text := "self"

def operationName : Text := "operation"

def argumentsName : Text := "arguments"

/-- The arguments that have to be given, in order. -/
def required : Method → List Text
  | tool _ => [Tool.pathName]
  | call => [operationName, argumentsName]

/-- The arguments that may be left out. -/
def optional : Method → List Text
  | tool t => t.parameters.map Parameter.name
  | call => []

/-- What a method takes; its owner comes first. -/
def signature (m : Method) : Signature :=
  { function := "ToolDispatcher." ++ m.name
    required := ownerName :: m.required
    optional := m.optional }

/-- What a method makes of its arguments: an operation and the arguments for it. -/
def passOn (m : Method) (given : Entries) : Value × Value :=
  let value (name : Text) : Value := (given.get? name).getD .null
  match m with
  | tool t =>
    (t.name, .object ((Tool.pathName, value Tool.pathName) ::
      t.parameters.map fun p => (p.name, (given.get? p.name).getD p.default)))
  | call => (value operationName, value argumentsName)

/-- The call that a method makes. -/
def bind (m : Method) (given : Entries) : Except MethodFault (Value × Value) :=
  match m.signature.misfit? 1 given.names with
  | none => .ok (m.passOn given)
  | some why => .error (.misfit m why)

end Method

namespace MethodFault

def message : MethodFault → Text
  | noMethod name => "'ToolDispatcher' object has no attribute '" ++ name ++ "'"
  | misfit m why => m.signature.message why

end MethodFault

end JuliaLookup
