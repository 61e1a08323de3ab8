/-
# The argument adapters

Two adapters that show what they see of their invocation. The inspecting adapter
writes whether it constructs, its receiver and its holder onto the receiver; the
identity adapter hands back its first argument as it is.

Key definitions: `inspectAdapter`, `identityAdapter`, `argumentAdapters`.
-/
import Invocation.Registry
import Invocation.View

namespace Invocation

namespace Inspect

def functionName : String := "Arguments_FunctionWithArguments"

/-! The properties that the inspecting adapter writes. -/

def isConstructCall : String := "isConstructCall"

def thisValue : String := "thisValue"

def holderValue : String := "holderValue"

end Inspect

def Identity.functionName : String := "Arguments_Identity"

/-- Writes what it sees of the invocation onto the receiver, which has to be an object. -/
def inspectAdapter : Adapter := fun c => do
  let receiver ← ObjectView.wrap c.receiver
  receiver.setProperty Inspect.isConstructCall (.bool c.isConstructCall)
  receiver.setProperty Inspect.thisValue c.receiver
  receiver.setProperty Inspect.holderValue c.holder
  pure .undefined

/-- Returns its first argument. -/
def identityAdapter : Adapter := fun c => Program.ofExcept (c.argument 0)

def inspectFunction : NativeFunction :=
  { name := Inspect.functionName, adapter := inspectAdapter }

/-- The identity adapter never reads its holder, so it may be called from anywhere. -/
def identityFunction : NativeFunction :=
  { name := Identity.functionName, length := 1, constructible := false, policy := .lenient
    adapter := identityAdapter }

/-- Adds both functions to a registry. -/
def Registry.registerArgumentAdapters (r : Registry) : Registry :=
  (r.register inspectFunction).register identityFunction

/-- The registry that holds just these two functions. -/
def argumentAdapters : Registry := Registry.empty.registerArgumentAdapters

end Invocation
