/-
# Realms

A realm is a heap with the objects every program starts from (the prototypes of
objects, functions and arrays, and the global object), a table of symbols, the
options it was made with, and the number of adapters that are active.

An `Action` works on a realm: it ends in a result or a fault, and leaves a realm
behind in either case.

Key definitions: `Realm`, `Realm.ofOptions`, `Action`.
-/
import Invocation.Heap
import Invocation.Options

namespace Invocation

structure Realm where
  options : Options
  heap : Heap
  /-- The description of each symbol, at the position that its id names. -/
  symbols : Array (Option String)
  objectPrototype : ObjectHandle
  functionPrototype : ObjectHandle
  arrayPrototype : ObjectHandle
  globalObject : ObjectHandle
  /-- How many adapters are active. -/
  callDepth : Nat := 0
  /-- How many foreign values were made, which is the identity of the next one. -/
  foreignCount : Nat := 0
deriving Inhabited

namespace Realm

/-- A fresh realm: four objects, of which the first is the prototype of the others and has none
itself, and the well-known symbols. -/
def ofOptions (options : Options) : Realm :=
  let (objectPrototype, heap) := Heap.empty.alloc {}
  let (functionPrototype, heap) := heap.alloc { prototype := some objectPrototype }
  let (arrayPrototype, heap) := heap.alloc { prototype := some objectPrototype }
  let (globalObject, heap) := heap.alloc { prototype := some objectPrototype }
  { options, heap, objectPrototype, functionPrototype, arrayPrototype, globalObject
    symbols := (WellKnownSymbol.all.map fun s => some s.description).toArray }

/-- The receiver of a call that names none. -/
def implicitReceiver (r : Realm) : Value :=
  match r.options.implicitReceiver with
  | .global => .object r.globalObject
  | .undefined => .undefined

/-- The description of a symbol; symbols without one, and ids that name no symbol, have none. -/
def symbolDescription (r : Realm) (id : SymbolId) : Option String :=
  (r.symbols[id.index.toNat]?).join

end Realm

/-! ### Actions -/

/-- Work on a realm that may fail; what it did before it failed stays done. -/
def Action (α : Type) : Type := Realm → Except Fault α × Realm

namespace Action

variable {α β : Type}

def pure (a : α) : Action α := fun r => (.ok a, r)

/-- Goes on with the result of an action, unless it failed. -/
def bind (x : Action α) (f : α → Action β) : Action β := fun r =>
  match x r with
  | (.ok a, r') => f a r'
  | (.error e, r') => (.error e, r')

def fail (e : Fault) : Action α := fun r => (.error e, r)

instance : Monad Action where
  pure := pure
  bind := bind

theorem bind_apply (x : Action α) (f : α → Action β) (r : Realm) :
    (x >>= f) r = match x r with
      | (.ok a, r') => f a r'
      | (.error e, r') => (.error e, r') := rfl

/-- Looks something up in the realm and changes nothing. -/
def read (f : Realm → Except Fault α) : Action α := fun r => (f r, r)

/-- Looks something up that is always there. -/
def inspect (f : Realm → α) : Action α := fun r => (.ok (f r), r)

end Action
end Invocation
