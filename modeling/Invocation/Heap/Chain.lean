/-
# Lookup chains

The lookup chain of an object is the object itself, its prototype, the prototype
of that, and so on. Links may be cyclic and may dangle, so a walk has a limit: it
visits at most that many scopes. A walk that would go on past the limit ends in
`Fault.chainTooDeep`, one that meets a handle without an object in
`Fault.invalidHandle`.

`Heap.chain` lists a whole walk; `Heap.findScope?` stops at the first scope that
has what is sought, whatever lies beyond it.

Key definitions: `Heap.chain`, `Heap.findScope?`.
-/
import Invocation.Heap

namespace Invocation
namespace Heap

variable (h : Heap) (limit : Nat)

/-- What a walk with `left` more scopes to visit yields from a link on. -/
def chainFrom : Nat → Option ObjectHandle → List (Except Fault ObjectHandle)
  | _, none => []
  | 0, some _ => [.error (.chainTooDeep limit)]
  | left + 1, some handle =>
    match h.object handle with
    | .error e => [.error e]
    | .ok o => .ok handle :: chainFrom left o.prototype

/-- The scopes of a lookup chain in order, and the fault that ends it if there is one. -/
def chain (start : ObjectHandle) : List (Except Fault ObjectHandle) :=
  h.chainFrom limit limit (some start)

variable {α : Type} (found : ObjectHandle → HeapObject → Option α)

/-- The first thing found from a link on, with `left` more scopes to visit. -/
def findScopeFrom? : Nat → Option ObjectHandle → Except Fault (Option α)
  | _, none => .ok none
  | 0, some _ => .error (.chainTooDeep limit)
  | left + 1, some handle =>
    match h.object handle with
    | .error e => .error e
    | .ok o =>
      match found handle o with
      | some a => .ok (some a)
      | none => findScopeFrom? left o.prototype

/-- The first thing found on a lookup chain, nothing if the chain ends without it, or the fault
that ends the chain. -/
def findScope? (start : ObjectHandle) : Except Fault (Option α) :=
  h.findScopeFrom? limit found limit (some start)

end Heap
end Invocation
