/-
# Function objects

A native function becomes a function object when it is instantiated, with its
`name` and `length` as properties and, if it constructs, a `prototype` object
for its instances. Loading a registry looks up and instantiates every name in it,
in the order of the names, as the properties of one exports object. Binding makes
a function that calls another one with a fixed receiver and leading arguments.

Key definitions: `Realm.instantiate`, `Realm.loadExports`, `Realm.installMethod`,
`Realm.bind`.
-/
import Invocation.Realm.Description
import Invocation.Registry

namespace Invocation
namespace Realm

/-- Makes a function object of a native function. -/
def instantiate (f : NativeFunction) : Action Value := do
  let proto ← Action.inspect (·.functionPrototype)
  let handle ← alloc { prototype := some proto, kind := .native f }
  let function := Value.object handle
  setProperty function "name" (.text f.name)
  setProperty function "length" (.ofLength f.length.toNat)
  if f.constructible then
    let instances ← createObject
    setProperty instances "constructor" function
    setProperty function "prototype" instances
  pure function

/-- Makes a function object of the function registered under a name. -/
def instantiateRegistered (registry : Registry) (name : String) : Action Value :=
  match registry.find? name with
  | some f => instantiate f
  | none => .fail (.argument ("Unknown native function: " ++ name))

/-- Instantiates the functions of some names one after the other, as properties of an object. -/
def loadInto (registry : Registry) (exports : Value) : List String → Action Unit
  | [] => pure ()
  | name :: names => do
    let function ← instantiateRegistered registry name
    setProperty exports name function
    loadInto registry exports names

/-- An object whose properties are the functions of a registry. -/
def loadExports (registry : Registry) : Action Value := do
  let exports ← createObject
  loadInto registry exports registry.names
  pure exports

/-- Makes a function a property of an object. -/
def installMethod (target : Value) (key : PropertyKey) (function : Value) : Action Unit := fun r =>
  if r.isCallable function then setProperty target key function r
  else (.error (.notCallable (r.describe function)), r)

/-- The function object that a value is. -/
def functionTarget (r : Realm) (callee : Value) : Except Fault ObjectHandle :=
  match callee with
  | .object handle => do
    let o ← r.heap.object handle
    if o.isFunction then .ok handle else .error (.notCallable (r.describe callee))
  | other => .error (.notCallable (r.describe other))

/-- The number of parameters that a `length` property states: the whole part of a finite number,
cut off at the ends of 64 bits, and zero for everything else. -/
def declaredLength : Value → Int64
  | .int i => i.toInt64
  | .number x =>
    if x.isFinite then
      Int64.ofInt (max (-0x8000000000000000) (min 0x7fffffffffffffff x.truncate))
    else 0
  | _ => 0

/-- The number of some arguments; there is no list of more than a word counts. -/
def argumentCount (arguments : List Value) : Int64 :=
  Int64.ofInt (min arguments.length 0x7fffffffffffffff)

/-- Binds a function to a receiver and leading arguments. The bound function declares the
parameters that are left, if any are. -/
def bind (callee receiver : Value) (arguments : List Value) : Action Value := do
  let target ← Action.read (·.functionTarget callee)
  let length ← Action.read (·.property callee "length")
  let left ← Action.read fun _ => Checked.sub (declaredLength length) (argumentCount arguments)
  let name ← Action.read fun r => (r.nameString target).checkedFlatten
  let object ← Action.read (·.heap.object target)
  let handle ← alloc { prototype := object.prototype, kind := .bound ⟨target, receiver, arguments⟩ }
  let function := Value.object handle
  setProperty function "name" (.text ("bound " ++ name))
  setProperty function "length" (.ofLength left.toInt.toNat)
  pure function

/-- Makes a value fit for the host: a lazy string becomes flat, and a function that is not bound
yet may be bound to the object it was read from. -/
def exportValue (value receiver : Value) (bindFunctions : Bool) : Action Value := fun r =>
  match value with
  | .string s => (if s.isLazy then s.checkedFlatten.map .text else .ok value, r)
  | .object _ =>
    if r.isCallable value && bindFunctions && !receiver.isUndefined && !r.isBoundFunction value then
      bind value receiver [] r
    else (.ok value, r)
  | _ => (.ok value, r)

end Realm
end Invocation
