/-
# The invocation context

What an adapter learns of the call it serves: whether it constructs, which
function object was called and under which registered name, the receiver, the
holder (the scope that declares the function) and the arguments.

Key definitions: `Context`, `Context.argument`.
-/
import Invocation.Fault
import Invocation.Value

namespace Invocation

/-- A plain call, or one that makes an instance. -/
inductive CallKind where
  | plain
  | construct
deriving DecidableEq

/-- One invocation, as its adapter sees it. -/
structure Context where
  kind : CallKind
  callee : ObjectHandle
  name : String
  receiver : Value
  holder : Value
  arguments : List Value

namespace Context

def isConstructCall (c : Context) : Bool := c.kind == .construct

/-- The argument at an index; Undefined past the end. -/
def argumentD (c : Context) (i : Nat) : Value := c.arguments.getD i .undefined

/-- The argument at an index; a call that has fewer arguments fails. -/
def argument (c : Context) (i : Nat) : Except Fault Value :=
  match c.arguments[i]? with
  | some v => .ok v
  | none => .error (.arity c.name (i + 1) c.arguments.length)

end Context
end Invocation
