/-
# The heap

Objects live in a heap and are named by their position in it; a position is never
given twice, so a handle is the identity of its object. An object has a prototype
(or none), a table of own properties, and a kind: ordinary, an array with its
elements, a native function, or a function bound to a receiver and leading
arguments. An array answers for `length` and for its positions from its elements
and not from its table.

Key definitions: `HeapObject`, `HeapObject.ownProperty?`, `HeapObject.write`,
`HeapObject.declares`, `Heap`, `Heap.alloc`, `Heap.object`, `Heap.modify`.
-/
import Invocation.ArrayIndex
import Invocation.NativeFunction
import Invocation.PropertyTable

namespace Invocation

/-- How far past its end an array may be written: the gap is filled with Undefined. -/
def maxArrayGrowth : Nat := 0x100000

/-- A function that calls another one with a receiver and leading arguments of its own. -/
structure BoundFunction where
  target : ObjectHandle
  receiver : Value
  arguments : List Value

inductive ObjectKind where
  | ordinary
  | array (items : Array Value)
  | native (f : NativeFunction)
  | bound (b : BoundFunction)
deriving Inhabited

structure HeapObject where
  prototype : Option ObjectHandle := none
  properties : PropertyTable := .empty
  kind : ObjectKind := .ordinary
deriving Inhabited

namespace HeapObject

/-- The elements of an array. -/
def items? (o : HeapObject) : Option (Array Value) :=
  match o.kind with
  | .array items => some items
  | _ => none

/-- The own property at a key. The length and the positions of an array are own properties. -/
def ownProperty? (o : HeapObject) (key : PropertyKey) : Option Value :=
  match o.kind, key with
  | .array items, .text name =>
    if name = "length" then some (.ofLength items.size)
    else
      match arrayIndex? name with
      | some i => items[i]?
      | none => o.properties.get? key
  | _, _ => o.properties.get? key

def hasOwnProperty (o : HeapObject) (key : PropertyKey) : Bool := (o.ownProperty? key).isSome

/-- Whether a property, under any key, holds one of the given functions. -/
def declares (o : HeapObject) (functions : List ObjectHandle) : Bool :=
  o.properties.values.any fun
    | .object handle => functions.contains handle
    | _ => false

def isFunction (o : HeapObject) : Bool :=
  match o.kind with
  | .native _ => true
  | .bound _ => true
  | _ => false

def isBound (o : HeapObject) : Bool :=
  match o.kind with
  | .bound _ => true
  | _ => false

/-- The elements of an array after a write at a position; a gap before it is filled
with Undefined. -/
def writeElement (items : Array Value) (i : Nat) (value : Value) : Array Value :=
  if i < items.size then items.setIfInBounds i value
  else (items ++ Array.replicate (i - items.size) Value.undefined).push value

/-- The fault of writing at a key: a position of an array may leave a gap of at most
`maxArrayGrowth` elements. -/
def writeFault? (o : HeapObject) (key : PropertyKey) : Option Fault :=
  match o.kind, key with
  | .array items, .text name =>
    match arrayIndex? name with
    | some i =>
      if i - items.size ≤ maxArrayGrowth then none
      else some (.argument ("array index " ++ toString i ++ " is too far past length " ++
        toString items.size))
    | none => none
  | _, _ => none

/-- The object after a property was written. A position of an array goes to its elements, and
everything else to the table. -/
def write (o : HeapObject) (key : PropertyKey) (value : Value) : HeapObject :=
  match o.kind, key with
  | .array items, .text name =>
    match arrayIndex? name with
    | some i => { o with kind := .array (writeElement items i value) }
    | none => { o with properties := o.properties.insert key value }
  | _, _ => { o with properties := o.properties.insert key value }

end HeapObject

/-- All objects, each at the position that its handle names. -/
structure Heap where
  objects : Array HeapObject := #[]
deriving Inhabited

namespace Heap

def empty : Heap := {}

def size (h : Heap) : Nat := h.objects.size

def isEmpty (h : Heap) : Bool := h.objects.isEmpty

/-- The handle of the next object. -/
def nextHandle (h : Heap) : ObjectHandle := ⟨h.objects.size.toUInt32⟩

/-- Adds an object. -/
def alloc (h : Heap) (o : HeapObject) : ObjectHandle × Heap :=
  (h.nextHandle, ⟨h.objects.push o⟩)

def object? (h : Heap) (handle : ObjectHandle) : Option HeapObject :=
  h.objects[handle.index.toNat]?

/-- The object that a handle names, or the fault that it names none. -/
def object (h : Heap) (handle : ObjectHandle) : Except Fault HeapObject :=
  match h.object? handle with
  | some o => .ok o
  | none => .error (.invalidHandle handle.index)

/-- Puts `f o` in place of the object `o` that a handle names. -/
def modify (h : Heap) (handle : ObjectHandle) (f : HeapObject → HeapObject) : Heap :=
  ⟨h.objects.modify handle.index.toNat f⟩

end Heap
end Invocation
