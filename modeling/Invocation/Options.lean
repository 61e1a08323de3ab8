/-
# Options

The limits and switches of a realm.

Key definitions: `Options`, `ImplicitReceiver`.
-/
namespace Invocation

/-- The receiver of a call that names none. -/
inductive ImplicitReceiver where
  | global
  | undefined
deriving DecidableEq, Inhabited

namespace ImplicitReceiver

/-- The word for it in a configuration. -/
def keyword : ImplicitReceiver → String
  | .global => "global"
  | .undefined => "undefined"

def ofKeyword? (s : String) : Option ImplicitReceiver :=
  [global, undefined].find? (·.keyword == s)

/-- The word for it in a listing of options. -/
def label : ImplicitReceiver → String
  | .global => "Global"
  | .undefined => "Undefined"

end ImplicitReceiver

structure Options where
  /-- How many scopes a walk along a lookup chain may visit. -/
  maxPrototypeDepth : Nat := 1024
  /-- How many adapters may be active at once, and how many layers a callee may have. -/
  maxCallDepth : Nat := 256
  /-- From which length on, in bytes, joined strings stay lazy. -/
  lazyStringMinLength : Nat := 20
  implicitReceiver : ImplicitReceiver := .global
  /-- Whether values of the host may enter the realm. -/
  hostInterop : Bool := false
deriving DecidableEq, Inhabited

end Invocation
