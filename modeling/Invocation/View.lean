/-
# Views of objects and arrays

An adapter that is handed a value and wants an object or an array wraps it in a
view once, which fails if the value is of another kind, and then reads and
writes through the view.

Key definitions: `ObjectView`, `ArrayView`.
-/
import Invocation.Adapter
import Invocation.Value.Reading

namespace Invocation

/-- A value known to be an object. -/
structure ObjectView where
  handle : ObjectHandle

namespace ObjectView

def wrap (v : Value) : Program ObjectView := do
  let handle ← Program.ofExcept (Reading.object.read v)
  pure ⟨handle⟩

def value (o : ObjectView) : Value := .object o.handle

def property (o : ObjectView) (key : PropertyKey) : Program Value := .ask (.property o.value key)

/-- The property at a key, read at a host type. -/
def propertyAs {α : Type} (o : ObjectView) (key : PropertyKey) (r : Reading α) : Program α := do
  let v ← o.property key
  Program.ofExcept (r.read v)

def setProperty (o : ObjectView) (key : PropertyKey) (v : Value) : Program Unit :=
  .ask (.setProperty o.value key v)

def hasOwnProperty (o : ObjectView) (key : PropertyKey) : Program Bool :=
  .ask (.hasOwnProperty o.value key)

end ObjectView

/-- A value known to be an array. -/
structure ArrayView where
  value : Value

namespace ArrayView

def wrap (v : Value) : Program ArrayView := do
  let _ ← Program.ask (.arrayLength v)
  pure ⟨v⟩

def length (a : ArrayView) : Program Nat := .ask (.arrayLength a.value)

def isEmpty (a : ArrayView) : Program Bool := do
  let n ← a.length
  pure (n == 0)

def element (a : ArrayView) (i : Nat) : Program Value := .ask (.arrayElement a.value i)

/-- The element at an index, read at a host type. -/
def elementAs {α : Type} (a : ArrayView) (i : Nat) (r : Reading α) : Program α := do
  let v ← a.element i
  Program.ofExcept (r.read v)

/-- All elements, in order. -/
def toList (a : ArrayView) : Program (List Value) := do
  let n ← a.length
  (List.range n).mapM a.element

end ArrayView
end Invocation
