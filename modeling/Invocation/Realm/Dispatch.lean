/-
# Dispatch

Every call goes through `Realm.dispatch`. It opens the call: the bound layers of
the callee are taken off down to a native function, the call depth is checked,
and the context is made, for a plain call by looking for the holder and for a
construct call by making the instance. Then it enters the adapter one level
deeper and runs its program, in which calls are dispatched again.

A call that fails while it is opened has run no adapter.

Key definitions: `Realm.resolve`, `Realm.openCall`, `Realm.enter`,
`Realm.dispatch`, `Realm.respond`.
-/
import Invocation.Holder
import Invocation.Realm.Functions

namespace Invocation

/-- How a function is called: on a receiver, or to make an instance. -/
inductive CallMode where
  | plain (receiver : Value)
  | construct

/-- What a callee comes down to. -/
structure ResolvedCallee where
  /-- The native function object. -/
  target : ObjectHandle
  function : NativeFunction
  /-- The receiver of the innermost bound layer. -/
  receiver : Option Value := none
  /-- The arguments of the bound layers, the innermost first. -/
  arguments : List Value := []
  /-- The callee, its layers and the native function object, from the outside in. -/
  candidates : List ObjectHandle

/-- Puts a bound layer around a resolved callee: inner layers run later, so their arguments come
first and their receiver wins. -/
def ResolvedCallee.wrap (c : ResolvedCallee) (layer : ObjectHandle) (b : BoundFunction) :
    ResolvedCallee :=
  { c with
    receiver := some (c.receiver.getD b.receiver)
    arguments := c.arguments ++ b.arguments
    candidates := layer :: c.candidates }

/-- The result of an invocation whose adapter returned `v`: a construct call gives the instance
unless the adapter returned an object. -/
def Context.result (c : Context) (v : Value) : Value :=
  if c.isConstructCall && !v.isObject then c.receiver else v

namespace Realm

/-! ### Opening a call -/

/-- Takes bound layers off a function object, at most `layers` objects deep. -/
def resolveWithin (r : Realm) (callee : Value) : Nat → ObjectHandle → Except Fault ResolvedCallee
  | 0, _ => .error (.stackExceeded r.options.maxCallDepth)
  | layers + 1, handle =>
    match r.heap.object handle with
    | .error e => .error e
    | .ok o =>
      match o.kind with
      | .native function => .ok { target := handle, function, candidates := [handle] }
      | .bound b =>
        match resolveWithin r callee layers b.target with
        | .error e => .error e
        | .ok c => .ok (c.wrap handle b)
      | _ => .error (.notCallable (r.describe callee))

/-- What a callee comes down to. -/
def resolve (r : Realm) (callee : Value) : Except Fault ResolvedCallee :=
  match callee with
  | .object handle => r.resolveWithin callee r.options.maxCallDepth handle
  | other => .error (.notCallable (r.describe other))

/-- The prototype of a function's instances: its `prototype` if that is an object, and the
prototype of objects otherwise. -/
def instancePrototype (r : Realm) (target : ObjectHandle) : Except Fault ObjectHandle :=
  (r.property (.object target) "prototype").map fun
    | .object handle => handle
    | _ => r.objectPrototype

/-- Opens a call: the native function to enter and the context for it. -/
def openCall (mode : CallMode) (callee : Value) (arguments : List Value) :
    Action (NativeFunction × Context) := fun r =>
  match r.resolve callee with
  | .error e => (.error e, r)
  | .ok c =>
    if r.options.maxCallDepth ≤ r.callDepth then
      (.error (.stackExceeded r.options.maxCallDepth), r)
    else
      let f := c.function
      let arguments := c.arguments ++ arguments
      match mode with
      | .plain receiver =>
        let receiver := c.receiver.getD receiver
        match r.heap.holder r.options.maxPrototypeDepth receiver c.candidates f.name f.policy with
        | .error e => (.error e, r)
        | .ok holder =>
          (.ok (f, { kind := .plain, callee := c.target, name := f.name, receiver, holder,
                     arguments }), r)
      | .construct =>
        if f.constructible then
          match r.instancePrototype c.target with
          | .error e => (.error e, r)
          | .ok prototype =>
            let made := Value.object r.heap.nextHandle
            (.ok (f, { kind := .construct, callee := c.target, name := f.name, receiver := made,
                       holder := made, arguments }),
              { r with heap := (r.heap.alloc { prototype := some prototype }).2 })
        else (.error (.notConstructor (r.describe callee)), r)

/-! ### Entering an adapter -/

/-- Runs the adapter of a native function one level deeper, where `respond` performs the
operations of its program. -/
def enter (respond : (op : Operation) → Action op.Reply) (f : NativeFunction) (c : Context) :
    Action Value := fun r =>
  match (f.adapter c).run respond { r with callDepth := r.callDepth + 1 } with
  | (outcome, r') => (outcome.map c.result, { r' with callDepth := r'.callDepth - 1 })

/-- What the operations of an adapter do, where `call` calls a function on a receiver. -/
def respondWith (call : Value → Value → List Value → Action Value) :
    (op : Operation) → Action op.Reply
  | .createObject => createObject
  | .createArray items => createArray items
  | .concat left right => Action.read (·.concat left right)
  | .property target key => Action.read (·.property target key)
  | .setProperty target key value => setProperty target key value
  | .hasOwnProperty target key => Action.read (·.hasOwnProperty target key)
  | .prototypeOf target => Action.read (·.prototypeOf target)
  | .typeOf value => Action.inspect (·.typeOf value)
  | .symbolDescription id => Action.inspect (·.symbolDescription id)
  | .arrayLength target => Action.read (·.arrayLength target)
  | .arrayElement target i => Action.read (·.arrayElement target i)
  | .call callee receiver arguments => call callee receiver arguments

/-- Dispatches a call of which at most `levels` adapters are to be active at once. -/
def dispatchWithin : Nat → CallMode → Value → List Value → Action Value
  | 0, _, callee, _ => Action.read fun r =>
    match r.resolve callee with
    | .error e => .error e
    | .ok _ => .error (.stackExceeded r.options.maxCallDepth)
  | levels + 1, mode, callee, arguments => do
    let (f, c) ← openCall mode callee arguments
    enter (respondWith fun callee receiver => dispatchWithin levels (.plain receiver) callee) f c

/-- Dispatches a call. The adapters that may still be active are those that the call depth leaves,
so every nested call stays within the limit. -/
def dispatch (mode : CallMode) (callee : Value) (arguments : List Value) : Action Value := fun r =>
  dispatchWithin (r.options.maxCallDepth - r.callDepth) mode callee arguments r

/-! ### Calls -/

/-- Calls a function on a receiver. -/
def callWithReceiver (callee receiver : Value) (arguments : List Value) : Action Value :=
  dispatch (.plain receiver) callee arguments

/-- Calls a function on the implicit receiver. -/
def call (callee : Value) (arguments : List Value) : Action Value := fun r =>
  callWithReceiver callee r.implicitReceiver arguments r

/-- The arguments that a list of arguments stands for: none for undefined and null, and the
elements of an array. -/
def listedArguments (r : Realm) (list : Value) : Except Fault (List Value) :=
  match list with
  | .undefined => .ok []
  | .null => .ok []
  | .object _ => (r.arrayItems list).map (·.toList)
  | other => .error (.typeMismatch "array" other.typeName)

/-- Calls a function on a receiver with the elements of an array. -/
def apply (callee receiver list : Value) : Action Value := do
  let arguments ← Action.read (·.listedArguments list)
  callWithReceiver callee receiver arguments

/-- Calls the function that is a property of the receiver. -/
def invokeMethod (receiver : Value) (key : PropertyKey) (arguments : List Value) :
    Action Value := do
  let callee ← Action.read (·.property receiver key)
  callWithReceiver callee receiver arguments

/-- Calls a function to make an instance. -/
def construct (callee : Value) (arguments : List Value) : Action Value :=
  dispatch .construct callee arguments

/-- What the operations of an adapter do. -/
def respond (op : Operation) : Action op.Reply := respondWith callWithReceiver op

end Realm
end Invocation
