/-
# Holders

The holder of a plain call is the first scope on the receiver's lookup chain,
beginning with the receiver itself, that declares the called function as a
property of its own. When a whole chain declares it nowhere, and when the receiver
is no object, the holder policy of the function decides.

Key definitions: `Heap.holder`.
-/
import Invocation.Heap.Chain

namespace Invocation
namespace Heap

/-- The first scope that declares one of the functions, on the chain of a receiver that is
an object. -/
def declaringScope? (h : Heap) (limit : Nat) (receiver : Value) (functions : List ObjectHandle) :
    Except Fault (Option ObjectHandle) :=
  match receiver with
  | .object start =>
    h.findScope? limit (fun scope o => if o.declares functions then some scope else none) start
  | _ => .ok none

/-- The holder of a plain call of a function, known by any of the handles `functions`. -/
def holder (h : Heap) (limit : Nat) (receiver : Value) (functions : List ObjectHandle)
    (name : String) (policy : HolderPolicy) : Except Fault Value :=
  match h.declaringScope? limit receiver functions with
  | .error e => .error e
  | .ok (some scope) => .ok (.object scope)
  | .ok none =>
    match policy with
    | .lenient => .ok receiver
    | .strict => .error (.binding name)

end Heap
end Invocation
