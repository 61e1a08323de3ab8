/-
# Objects of a realm

Making values, and reading and writing objects. Reading a property follows the
lookup chain; writing one, and every question about own properties, concerns the
object alone. A prototype can be set to anything whose own chain does not lead
back to the object.

Key definitions: `Realm.property`, `Realm.setProperty`, `Realm.setPrototype`,
`Realm.typeOf`, `Realm.isConstructor`.
-/
import Invocation.Heap.Chain
import Invocation.Realm

namespace Invocation
namespace Realm

/-! ### Making values -/

/-- Adds an object to the heap. -/
def alloc (o : HeapObject) : Action ObjectHandle := fun r =>
  (.ok r.heap.nextHandle, { r with heap := (r.heap.alloc o).2 })

/-- A new object with the given prototype or none. -/
def createObjectWithPrototype (prototype : Option ObjectHandle) : Action Value := do
  let handle ← alloc { prototype }
  pure (.object handle)

/-- A new object that inherits from the prototype of objects. -/
def createObject : Action Value := fun r =>
  createObjectWithPrototype (some r.objectPrototype) r

/-- A new object with properties, of which a later one replaces an earlier one of its key. -/
def createRecord (fields : List (PropertyKey × Value)) : Action Value := fun r =>
  (do
    let handle ← alloc
      { prototype := some r.objectPrototype, properties := .ofList fields }
    pure (.object handle) : Action Value) r

/-- A new array that inherits from the prototype of arrays. -/
def createArray (items : List Value) : Action Value := fun r =>
  (do
    let handle ← alloc
      { prototype := some r.arrayPrototype, kind := .array items.toArray }
    pure (.object handle) : Action Value) r

/-- A new symbol. -/
def createSymbol (description : Option String) : Action Value := fun r =>
  (.ok (.symbol ⟨r.symbols.size.toUInt32⟩), { r with symbols := r.symbols.push description })

/-- A new foreign value, different from every other one. -/
def createForeign (typeName : String) (data : HostData) : Action Value := fun r =>
  if r.options.hostInterop then
    (.ok (.foreign ⟨r.foreignCount, typeName, data⟩), { r with foreignCount := r.foreignCount + 1 })
  else (.error .interopDisabled, r)

/-- Joins two strings, lazily from the length that the options name. -/
def concat (r : Realm) : Value → Value → Except Fault Value
  | .string a, .string b => (Rope.checkedConcat r.options.lazyStringMinLength a b).map .string
  | .string _, other => .error (.typeMismatch "string" other.typeName)
  | other, _ => .error (.typeMismatch "string" other.typeName)

/-! ### Objects alone -/

/-- The object that a value is. -/
def object (r : Realm) : Value → Except Fault HeapObject
  | .object handle => r.heap.object handle
  | other => .error (.typeMismatch "object" other.typeName)

def ownProperty? (r : Realm) (target : Value) (key : PropertyKey) : Except Fault (Option Value) :=
  (r.object target).map (·.ownProperty? key)

def hasOwnProperty (r : Realm) (target : Value) (key : PropertyKey) : Except Fault Bool :=
  (r.object target).map (·.hasOwnProperty key)

def prototypeOf (r : Realm) (target : Value) : Except Fault (Option ObjectHandle) :=
  (r.object target).map (·.prototype)

/-- What kind of thing a value is: functions are told from other objects, and null is an object. -/
def typeOf (r : Realm) : Value → String
  | .null => "object"
  | .object handle =>
    match r.heap.object? handle with
    | some o => if o.isFunction then "function" else "object"
    | none => "object"
  | other => other.typeName

/-- The elements of a value that is an array. -/
def arrayItems (r : Realm) (target : Value) : Except Fault (Array Value) := do
  let o ← r.object target
  match o.items? with
  | some items => .ok items
  | none => .error (.typeMismatch "array" (r.typeOf target))

def arrayLength (r : Realm) (target : Value) : Except Fault Nat :=
  (r.arrayItems target).map (·.size)

/-- The element at a position; Undefined past the end. -/
def arrayElement (r : Realm) (target : Value) (i : Nat) : Except Fault Value :=
  (r.arrayItems target).map (·.getD i .undefined)

/-- Writes a property of the object alone. -/
def setProperty (target : Value) (key : PropertyKey) (value : Value) : Action Unit := fun r =>
  match target with
  | .object handle =>
    match r.heap.object handle with
    | .error e => (.error e, r)
    | .ok o =>
      match o.writeFault? key with
      | some e => (.error e, r)
      | none => (.ok (), { r with heap := r.heap.modify handle (·.write key value) })
  | other => (.error (.typeMismatch "object" other.typeName), r)

/-! ### Along the lookup chain -/

/-- The property at a key, own or inherited, and Undefined if there is none. Primitive values
other than undefined and null have no properties. -/
def property (r : Realm) (target : Value) (key : PropertyKey) : Except Fault Value :=
  match target with
  | .object start =>
    (r.heap.findScope? r.options.maxPrototypeDepth (fun _ o => o.ownProperty? key) start).map
      (·.getD .undefined)
  | .undefined => .error (.typeMismatch "object" target.typeName)
  | .null => .error (.typeMismatch "object" target.typeName)
  | _ => .ok .undefined

/-- Whether the chain of `start` visits `handle`. -/
def chainVisits (r : Realm) (start handle : ObjectHandle) : Except Fault Bool :=
  (r.heap.findScope? r.options.maxPrototypeDepth
    (fun scope _ => if scope = handle then some () else none) start).map (·.isSome)

/-- Sets the prototype of an object, unless the object is on the chain of the new prototype. -/
def setPrototype (target : Value) (prototype : Option ObjectHandle) : Action Unit := fun r =>
  match target with
  | .object handle =>
    match r.heap.object handle with
    | .error e => (.error e, r)
    | .ok _ =>
      let cyclic : Except Fault Bool :=
        match prototype with
        | none => .ok false
        | some start => r.chainVisits start handle
      match cyclic with
      | .error e => (.error e, r)
      | .ok true => (.error (.argument "cyclic prototype chain"), r)
      | .ok false =>
        (.ok (), { r with heap := r.heap.modify handle fun o => { o with prototype } })
  | other => (.error (.typeMismatch "object" other.typeName), r)

/-! ### Functions -/

def isCallable (r : Realm) (v : Value) : Bool := r.typeOf v == "function"

/-- Whether a function constructs, seen through at most `layers` bound layers. -/
def constructsWithin (h : Heap) : Nat → ObjectHandle → Bool
  | 0, _ => false
  | layers + 1, handle =>
    match (h.object? handle).map HeapObject.kind with
    | some (.native f) => f.constructible
    | some (.bound b) => constructsWithin h layers b.target
    | _ => false

/-- Whether a value is a function that constructs; a bound function does if its target does. -/
def isConstructor (r : Realm) : Value → Bool
  | .object handle => constructsWithin r.heap r.options.maxCallDepth handle
  | _ => false

def isBoundFunction (r : Realm) : Value → Bool
  | .object handle => (r.heap.object? handle).any (·.isBound)
  | _ => false

/-- A function's `name`, empty if it has none that is a string. -/
def nameString (r : Realm) (handle : ObjectHandle) : Rope :=
  match r.property (.object handle) "name" with
  | .ok (.string s) => s
  | _ => .flat ""

/-- The text of a function's `name`. -/
def functionName (r : Realm) (handle : ObjectHandle) : String := (r.nameString handle).flatten

end Realm
end Invocation
