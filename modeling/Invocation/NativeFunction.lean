/-
# Native functions

A native function is an adapter with what the engine has to know to make a
function object of it: the name it is registered under, the number of parameters
it declares, whether it constructs, and what happens to a plain call whose
receiver reaches no scope that declares it.

Key definitions: `HolderPolicy`, `NativeFunction`.
-/
import Invocation.Adapter
import Invocation.Text.Quoted

namespace Invocation

/-- What a plain call does when no scope declares the function: fail, or take the receiver as
the holder. -/
inductive HolderPolicy where
  | strict
  | lenient
deriving DecidableEq, Inhabited

def HolderPolicy.name : HolderPolicy → String
  | .strict => "Strict"
  | .lenient => "Lenient"

/-- An adapter and its registration data. -/
structure NativeFunction where
  name : String
  length : UInt32 := 0
  constructible : Bool := true
  policy : HolderPolicy := .strict
  adapter : Adapter

namespace NativeFunction

/-- The registration data in one line; the adapter itself is not shown. -/
def debugText (f : NativeFunction) : String :=
  "NativeFunction \x7b name: " ++ quoted f.name ++ ", length: " ++ toString f.length.toNat ++
    ", constructible: " ++ toString f.constructible ++ ", holder_policy: " ++ f.policy.name ++
    ", .. \x7d"

end NativeFunction
end Invocation
