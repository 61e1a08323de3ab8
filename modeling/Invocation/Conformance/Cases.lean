/-
# Conformance cases

What the engine promises about invocation contexts, as cases that drive the
argument adapters and check what they saw. Each case starts from a fresh session
and is known by its suite and its name.

Key definitions: `Conformance.Case`, `Conformance.cases`.
-/
import Invocation.Conformance.Check
import Invocation.Session

namespace Invocation
namespace Conformance

open Realm

/-- The function object of the inspecting adapter. -/
def inspecting (exports : Value) : Check Value :=
  Check.look (Session.exportFrom exports Inspect.functionName)

/-- The function object of the identity adapter. -/
def identity (exports : Value) : Check Value :=
  Check.look (Session.exportFrom exports Identity.functionName)

/-! ### Whether a call constructs -/

def regularCall (exports : Value) : Check Unit := do
  let function ← inspecting exports
  let receiver ← Check.run createObject
  Check.run (installMethod receiver "inspect" function)
  let _ ← Check.run (callWithReceiver function receiver [])
  expectField receiver Inspect.isConstructCall (.bool false)

def constructCall (exports : Value) : Check Unit := do
  let function ← inspecting exports
  let argument ← Check.run createObject
  let made ← Check.run (construct function [argument])
  expectField made Inspect.isConstructCall (.bool true)
  expectField made Inspect.thisValue made

/-! ### The receiver -/

def explicitReceiver (exports : Value) : Check Unit := do
  let function ← inspecting exports
  let receiver ← Check.run (createRecord [("a", .int 123)])
  Check.run (installMethod receiver "inspect" function)
  let _ ← Check.run (callWithReceiver function receiver [])
  expectField receiver Inspect.thisValue receiver

/-- With an undefined implicit receiver there is no chain to find a holder on. -/
def implicitReceiver (exports : Value) : Check Unit := do
  let function ← inspecting exports
  let implicit ← Check.run (Action.inspect (·.options.implicitReceiver))
  match implicit with
  | .global =>
    let object ← Check.run (Action.inspect (·.globalObject))
    let receiver := Value.object object
    Check.run (installMethod receiver "inspect" function)
    let _ ← Check.run (call function [])
    expectField receiver Inspect.thisValue receiver
  | .undefined => expectFault (call function []) .binding

/-! ### The holder -/

def holderIsReceiver (exports : Value) : Check Unit := do
  let function ← inspecting exports
  let receiver ← Check.run (createRecord [("a", .int 123), ("b", .text "test")])
  Check.run (installMethod receiver "inspect" function)
  let _ ← Check.run (callWithReceiver function receiver [])
  expectField receiver Inspect.holderValue receiver

def holderIsAncestor (exports : Value) : Check Unit := do
  let function ← inspecting exports
  let ancestor ← Check.run createObject
  Check.run (installMethod ancestor "inspect" function)
  let receiver ← Check.run (createObjectWithPrototype ancestor.object?)
  Check.run (setProperty receiver "a" (.int 123))
  Check.run (setProperty receiver "b" (.text "test"))
  let _ ← Check.run (callWithReceiver function receiver [])
  expectField receiver Inspect.thisValue receiver
  expectField receiver Inspect.holderValue ancestor
  if ← Check.look (·.hasOwnProperty ancestor Inspect.thisValue) then
    Check.fail "fields were written onto the holder"

def holderOfOwnMethod (exports : Value) : Check Unit := do
  let function ← inspecting exports
  let receiver ← Check.run createObject
  Check.run (installMethod receiver "inspect" function)
  let _ ← Check.run (invokeMethod receiver "inspect" [])
  expectField receiver Inspect.holderValue receiver

def holderUndeclared (exports : Value) : Check Unit := do
  let function ← inspecting exports
  let receiver ← Check.run (createRecord [("a", .int 123), ("b", .text "test")])
  expectFault (callWithReceiver function receiver []) .binding
  if ← Check.look (·.hasOwnProperty receiver Inspect.holderValue) then
    Check.fail "adapter ran without a holder"

/-! ### Arguments -/

/-- The double nearest to pi. -/
def pi : Binary64 := ⟨0x400921fb54442d18⟩

/-- Calls the identity function with each value and expects the value back. -/
def expectIdentity (function : Value) : List Value → Check Unit
  | [] => pure ()
  | v :: vs => do
    let out ← Check.run (call function [v])
    expectSame "identity" out v
    expectIdentity function vs

def identityValues (exports : Value) : Check Unit := do
  let function ← identity exports
  let joined ← Check.look
    (·.concat (.text "aaaaaaaaaaaaaaaaaaaa") (.text "bbbbbbbbbbbbbbbbbbbbbbb"))
  if !joined.string?.any (·.isLazy) then
    Check.fail "concatenation did not produce a lazy string"
  else
    let record ← Check.run (createRecord [("foo", .text "bar")])
    let array ← Check.run (createArray [.int 1, .int 2, .int 3])
    expectIdentity function
      [.bool true, .bool false, .int 0, .number ⟨0x7ff0000000000000⟩, .number ⟨0xfff0000000000000⟩,
        .number pi, .text "string", joined, .symbol WellKnownSymbol.toStringTag.id, record, array]

/-- The double nearest to 3.14. -/
def threePointOneFour : Binary64 := ⟨0x40091eb851eb851f⟩

def identityForeign (exports : Value) : Check Unit := do
  let function ← identity exports
  let point ← Check.run (createForeign "Point" (.point 42 211))
  let decimal ← Check.run (createForeign "Decimal" (.decimal threePointOneFour))
  expectIdentity function [point, decimal]
  if point.strictEquals decimal then
    Check.fail "distinct foreign values compared equal"

def identityArity (exports : Value) : Check Unit := do
  let function ← identity exports
  expectFault (call function []) .arity

/-! ### Nothing is kept between calls -/

def stateless (exports : Value) : Check Unit := do
  let function ← identity exports
  let inspector ← inspecting exports
  let first ← Check.run (call function [.int 1])
  let second ← Check.run (call function [.text "x"])
  expectSame "first call" first (.int 1)
  expectSame "second call" second (.text "x")
  let plain ← Check.run createObject
  Check.run (installMethod plain "inspect" inspector)
  let _ ← Check.run (callWithReceiver inspector plain [])
  let made ← Check.run (construct inspector [])
  expectField plain Inspect.isConstructCall (.bool false)
  expectField made Inspect.isConstructCall (.bool true)
  expectField made Inspect.thisValue made

/-! ### Bound functions -/

def boundReceiver (exports : Value) : Check Unit := do
  let function ← inspecting exports
  let fixed ← Check.run createObject
  let other ← Check.run createObject
  Check.run (installMethod fixed "inspect" function)
  let bound ← Check.run (bind function fixed [])
  let _ ← Check.run (callWithReceiver bound other [])
  expectField fixed Inspect.thisValue fixed
  expectField other Inspect.thisValue .undefined

def boundArguments (exports : Value) : Check Unit := do
  let function ← identity exports
  let token ← Check.run (createSymbol (some "token"))
  let bound ← Check.run (bind function .undefined [token])
  let out ← Check.run (call bound [.int 2])
  expectSame "bound identity" out token

def boundConstruct (exports : Value) : Check Unit := do
  let function ← inspecting exports
  let fixed ← Check.run createObject
  let bound ← Check.run (bind function fixed [])
  let made ← Check.run (construct bound [])
  expectField made Inspect.isConstructCall (.bool true)
  expectField made Inspect.thisValue made
  expectField fixed Inspect.thisValue .undefined

/-! ### The list of cases -/

/-- A case: what it is called, whether it needs host interop, and its check, which is given the
loaded functions. -/
structure Case where
  suite : String
  name : String
  needsHostInterop : Bool := false
  check : Value → Check Unit

def Case.fullName (c : Case) : String := c.suite ++ " > " ++ c.name

/-- All cases in the order in which they run. -/
def cases : List Case :=
  [ { suite := "IsConstructCall", name := "should return false for a regular call"
      check := regularCall },
    { suite := "IsConstructCall", name := "should return true for a construct call"
      check := constructCall },
    { suite := "This", name := "should return correct this value"
      check := explicitReceiver },
    { suite := "This", name := "should use the implicit receiver for a plain call"
      check := implicitReceiver },
    { suite := "Holder", name := "should return correct holder value"
      check := holderIsReceiver },
    { suite := "Holder", name := "should return the declaring ancestor"
      check := holderIsAncestor },
    { suite := "Holder", name := "should return the receiver for an own method"
      check := holderOfOwnMethod },
    { suite := "Holder", name := "should fail when nothing declares the function"
      check := holderUndeclared },
    { suite := "arg[0]", name := "should be returned as it is from the identity function"
      check := identityValues },
    { suite := "arg[0]", name := "should preserve foreign host values", needsHostInterop := true
      check := identityForeign },
    { suite := "Arity", name := "should fail without arguments"
      check := identityArity },
    { suite := "Statelessness", name := "should not retain state between calls"
      check := stateless },
    { suite := "Bound", name := "should use the bound receiver"
      check := boundReceiver },
    { suite := "Bound", name := "should prepend bound arguments"
      check := boundArguments },
    { suite := "Bound", name := "should ignore the bound receiver for construct calls"
      check := boundConstruct } ]

end Conformance
end Invocation
