/-
# Runs of a realm

A host works with a realm: it asks for tasks, which enter no adapter, and for
calls. A call hands the control over to an adapter, which performs one operation
after the other and may call back, so that several adapters wait for each other.
`Step` is one step of all this. Both sides may be given handles by the realm and
use them freely; a handle that they have from elsewhere has to name an object at
the moment it is used. `Turn` leaves that last condition out.

A run does to a realm what the operations of the realm do: `Proofs.Run.CallDepth`
follows a call from its dispatch to its end.

Key definitions: `Run.State`, `Run.State.advance`, `Run.Step`, `Run.Reachable`, `Run.Turn`.
Key theorems: `Run.Call.act_eq`, `Run.State.advance_leaf`, `Run.State.advance_cases`.
-/
import Mathlib.Logic.Relation
import Invocation.Proofs.Realm.Dispatch
import Invocation.Proofs.Realm.Sound.Functions

namespace Invocation

/-! ### Operations -/

namespace Operation

def isCall : Operation → Bool
  | .call _ _ _ => true
  | _ => false

/-- The handles that an operation is given. -/
def handles : Operation → List ObjectHandle
  | .createObject => []
  | .createArray items => items.flatMap Value.handles
  | .concat left right => left.handles ++ right.handles
  | .property target _ => target.handles
  | .setProperty target _ value => target.handles ++ value.handles
  | .hasOwnProperty target _ => target.handles
  | .prototypeOf target => target.handles
  | .typeOf value => value.handles
  | .symbolDescription _ => []
  | .arrayLength target => target.handles
  | .arrayElement target _ => target.handles
  | .call callee receiver arguments =>
    callee.handles ++ receiver.handles ++ arguments.flatMap Value.handles

/-- The handles in a reply. -/
def replyHandles : (op : Operation) → op.Reply → List ObjectHandle
  | .createObject, v => Value.handles v
  | .createArray _, v => Value.handles v
  | .concat _ _, v => Value.handles v
  | .property _ _, v => Value.handles v
  | .setProperty _ _ _, _ => []
  | .hasOwnProperty _ _, _ => []
  | .prototypeOf _, p => Option.toList p
  | .typeOf _, _ => []
  | .symbolDescription _, _ => []
  | .arrayLength _, _ => []
  | .arrayElement _ _, v => Value.handles v
  | .call _ _ _, v => Value.handles v

theorem respond_edits {op : Operation} (hleaf : op.isCall = false) (r : Realm) :
    Realm.Edits r (Realm.respond op r).2 := by
  cases op with
  | createObject => exact Realm.edits_createObjectWithPrototype (some r.objectPrototype) r
  | createArray items => exact Realm.edits_createArray items r
  | setProperty target key value => exact Realm.edits_setProperty target key value r
  | call callee receiver arguments => cases hleaf
  | _ => exact .refl

end Operation

namespace Run

def handlesOf {α : Type} (handles : α → List ObjectHandle) : Except Fault α → List ObjectHandle
  | .ok a => handles a
  | .error _ => []

/-- The fault that an outcome is, if it is one. -/
def faultsOf {α : Type} : Except Fault α → List Fault
  | .ok _ => []
  | .error e => [e]

/-! ### What a host may ask for -/

/-- What a host may ask of a realm and no adapter takes part in. -/
inductive Task where
  | operation (op : Operation) (leaf : op.isCall = false)
  | createObjectWithPrototype (prototype : Option ObjectHandle)
  | createRecord (fields : List (PropertyKey × Value))
  | createSymbol (description : Option String)
  | createForeign (typeName : String) (data : HostData)
  | ownProperty (target : Value) (key : PropertyKey)
  | setPrototype (target : Value) (prototype : Option ObjectHandle)
  | instantiate (f : NativeFunction)
  | instantiateRegistered (registry : Registry) (name : String)
  | loadExports (registry : Registry)
  | installMethod (target : Value) (key : PropertyKey) (function : Value)
  | bind (callee receiver : Value) (arguments : List Value)
  | exportValue (value receiver : Value) (bindFunctions : Bool)

namespace Task

def Reply : Task → Type
  | .operation op _ => op.Reply
  | .ownProperty _ _ => Option Value
  | .setPrototype _ _ => Unit
  | .installMethod _ _ _ => Unit
  | _ => Value

def act : (t : Task) → Action t.Reply
  | .operation op _ => Realm.respond op
  | .createObjectWithPrototype prototype => Realm.createObjectWithPrototype prototype
  | .createRecord fields => Realm.createRecord fields
  | .createSymbol description => Realm.createSymbol description
  | .createForeign typeName data => Realm.createForeign typeName data
  | .ownProperty target key => Action.read (·.ownProperty? target key)
  | .setPrototype target prototype => Realm.setPrototype target prototype
  | .instantiate f => Realm.instantiate f
  | .instantiateRegistered registry name => Realm.instantiateRegistered registry name
  | .loadExports registry => Realm.loadExports registry
  | .installMethod target key function => Realm.installMethod target key function
  | .bind callee receiver arguments => Realm.bind callee receiver arguments
  | .exportValue value receiver bindFunctions => Realm.exportValue value receiver bindFunctions

theorem act_edits (t : Task) (r : Realm) : Realm.Edits r (t.act r).2 := by
  cases t with
  | operation op leaf => exact Operation.respond_edits leaf r
  | createObjectWithPrototype prototype => exact Realm.edits_createObjectWithPrototype prototype r
  | createRecord fields => exact Realm.edits_createRecord fields r
  | createSymbol description => exact .single (.symbol description)
  | createForeign typeName data => exact Realm.edits_createForeign typeName data r
  | ownProperty target key => exact .refl
  | setPrototype target prototype => exact Realm.edits_setPrototype target prototype r
  | instantiate f => exact Realm.edits_instantiate f r
  | instantiateRegistered registry name => exact Realm.edits_instantiateRegistered registry name r
  | loadExports registry => exact Realm.edits_loadExports registry r
  | installMethod target key function => exact Realm.edits_installMethod target key function r
  | bind callee receiver arguments => exact Realm.edits_bind callee receiver arguments r
  | exportValue value receiver bindFunctions =>
    exact Realm.edits_exportValue value receiver bindFunctions r

/-- The handles that a task is given. -/
def handles : Task → List ObjectHandle
  | .operation op _ => op.handles
  | .createObjectWithPrototype prototype => prototype.toList
  | .createRecord fields => fields.flatMap fun p => p.2.handles
  | .createSymbol _ => []
  | .createForeign _ _ => []
  | .ownProperty target _ => target.handles
  | .setPrototype target prototype => target.handles ++ prototype.toList
  | .instantiate _ => []
  | .instantiateRegistered _ _ => []
  | .loadExports _ => []
  | .installMethod target _ function => target.handles ++ function.handles
  | .bind callee receiver arguments =>
    callee.handles ++ receiver.handles ++ arguments.flatMap Value.handles
  | .exportValue value receiver _ => value.handles ++ receiver.handles

end Task

/-- A call that a host may ask for. -/
inductive Call where
  | call (callee : Value) (arguments : List Value)
  | callWithReceiver (callee receiver : Value) (arguments : List Value)
  | apply (callee receiver list : Value)
  | invokeMethod (receiver : Value) (key : PropertyKey) (arguments : List Value)
  | construct (callee : Value) (arguments : List Value)

namespace Call

def act : Call → Action Value
  | .call callee arguments => Realm.call callee arguments
  | .callWithReceiver callee receiver arguments => Realm.callWithReceiver callee receiver arguments
  | .apply callee receiver list => Realm.apply callee receiver list
  | .invokeMethod receiver key arguments => Realm.invokeMethod receiver key arguments
  | .construct callee arguments => Realm.construct callee arguments

/-- The handles that a call is given. -/
def handles : Call → List ObjectHandle
  | .call callee arguments => callee.handles ++ arguments.flatMap Value.handles
  | .callWithReceiver callee receiver arguments =>
    callee.handles ++ receiver.handles ++ arguments.flatMap Value.handles
  | .apply callee receiver list => callee.handles ++ receiver.handles ++ list.handles
  | .invokeMethod receiver _ arguments => receiver.handles ++ arguments.flatMap Value.handles
  | .construct callee arguments => callee.handles ++ arguments.flatMap Value.handles

/-- What a call looks up before it is dispatched: how to call what with which arguments. -/
def prepare (r : Realm) : Call → Except Fault (CallMode × Value × List Value)
  | .call callee arguments => .ok (.plain r.implicitReceiver, callee, arguments)
  | .callWithReceiver callee receiver arguments => .ok (.plain receiver, callee, arguments)
  | .apply callee receiver list =>
    (r.listedArguments list).map fun arguments => (.plain receiver, callee, arguments)
  | .invokeMethod receiver key arguments =>
    (r.property receiver key).map fun callee => (.plain receiver, callee, arguments)
  | .construct callee arguments => .ok (.construct, callee, arguments)

/-- Every call is dispatched once it has looked up what it needs. -/
theorem act_eq (c : Call) (r : Realm) : c.act r = match c.prepare r with
    | .ok (mode, callee, arguments) => Realm.dispatch mode callee arguments r
    | .error e => (.error e, r) := by
  cases c with
  | apply callee receiver list =>
    show (Action.read (·.listedArguments list) >>= Realm.callWithReceiver callee receiver) r = _
    rw [Action.bind_apply]
    simp only [Action.read, prepare]
    cases r.listedArguments list <;> rfl
  | invokeMethod receiver key arguments =>
    show (Action.read (·.property receiver key) >>=
      fun callee => Realm.callWithReceiver callee receiver arguments) r = _
    rw [Action.bind_apply]
    simp only [Action.read, prepare]
    cases r.property receiver key <;> rfl
  | _ => rfl

/-- Every form of a plain call calls a function on a receiver. -/
theorem act_plain {c : Call} {r : Realm} {callee receiver : Value} {arguments : List Value}
    (hc : c.prepare r = .ok (.plain receiver, callee, arguments)) :
    c.act r = Realm.callWithReceiver callee receiver arguments r := by
  rw [act_eq, hc]
  rfl

end Call

/-! ### States -/

/-- An adapter at work: its invocation, the handles that it was given, and what is left to do. -/
structure Activation where
  context : Context
  received : List ObjectHandle
  program : Program Value

/-- The handles that an adapter is about to use. -/
def Activation.supplied (a : Activation) : List ObjectHandle :=
  match a.program with
  | .done v => v.handles
  | .fail _ => []
  | .perform op _ => op.handles

/-- An adapter that waits for the outcome of a call. -/
structure Waiting where
  context : Context
  received : List ObjectHandle
  next : Except Fault Value → Program Value

/-- Who is at work: the host, with the outcome of its last call, or an adapter, with those that
wait for it, the last caller first. -/
inductive Control where
  | host (outcome : Except Fault Value)
  | adapter (active : Activation) (waiting : List Waiting)

structure State where
  realm : Realm
  control : Control
  /-- The faults that operations of the realm ended in, the last one first. What an adapter fails
  with of its own accord is not among them. -/
  raised : List Fault

namespace State

/-- The outcome of a call goes to its caller: the last adapter that waits, or the host. -/
def deliver (r : Realm) (raised : List Fault) (outcome : Except Fault Value) :
    List Waiting → State
  | [] => ⟨r, .host outcome, raised⟩
  | w :: ws =>
    ⟨r, .adapter
      ⟨w.context, handlesOf Value.handles outcome ++ w.received, .resume w.next outcome⟩ ws, raised⟩

/-- A call is opened, and its adapter is entered unless that fails. -/
def dispatch (r : Realm) (raised : List Fault) (mode : CallMode) (callee : Value)
    (arguments : List Value) (waiting : List Waiting) : State :=
  match Realm.openCall mode callee arguments r with
  | (.ok (f, c), r') =>
    ⟨{ r' with callDepth := r'.callDepth + 1 }, .adapter ⟨c, c.handles, f.adapter c⟩ waiting,
      raised⟩
  | (.error e, r') => deliver r' (e :: raised) (.error e) waiting

/-- An adapter is left: its outcome goes to its caller, one level up. -/
def leave (r : Realm) (raised : List Fault) (c : Context) (outcome : Except Fault Value)
    (waiting : List Waiting) : State :=
  deliver { r with callDepth := r.callDepth - 1 } raised (outcome.map c.result) waiting

/-- The next step of the adapter at work. -/
def advance (s : State) : State :=
  match s.control with
  | .host _ => s
  | .adapter a waiting =>
    match a.program with
    | .done v => leave s.realm s.raised a.context (.ok v) waiting
    | .fail e => leave s.realm s.raised a.context (.error e) waiting
    | .perform (.call callee receiver arguments) next =>
      dispatch s.realm s.raised (.plain receiver) callee arguments
        (⟨a.context, a.received, next⟩ :: waiting)
    | .perform op next =>
      match Realm.respond op s.realm with
      | (outcome, r) =>
        ⟨r, .adapter
          ⟨a.context, handlesOf op.replyHandles outcome ++ a.received, .resume next outcome⟩
          waiting, faultsOf outcome ++ s.raised⟩

/-- An operation that is no call is performed at once, and the adapter goes on with its outcome. -/
theorem advance_leaf {s : State} {c : Context} {received : List ObjectHandle} {op : Operation}
    {next : Except Fault op.Reply → Program Value} {waiting : List Waiting}
    (hs : s.control = .adapter ⟨c, received, .perform op next⟩ waiting)
    (hleaf : op.isCall = false) :
    s.advance = ⟨(Realm.respond op s.realm).2,
      .adapter ⟨c, handlesOf op.replyHandles (Realm.respond op s.realm).1 ++ received,
        .resume next (Realm.respond op s.realm).1⟩ waiting,
      faultsOf (Realm.respond op s.realm).1 ++ s.raised⟩ := by
  rw [advance, hs]
  cases op with
  | call callee receiver arguments => cases hleaf
  | _ => rfl

/-- What an adapter at work does next: it is left with an outcome, it calls, or it performs an
operation that is no call. -/
theorem advance_cases {s : State} {a : Activation} {waiting : List Waiting} {P : State → Prop}
    (hs : s.control = .adapter a waiting)
    (left : ∀ outcome, a.supplied = handlesOf Value.handles outcome →
      P (leave s.realm s.raised a.context outcome waiting))
    (call : ∀ callee receiver arguments next,
      a.supplied = (Operation.call callee receiver arguments).handles →
      P (dispatch s.realm s.raised (.plain receiver) callee arguments
        (⟨a.context, a.received, next⟩ :: waiting)))
    (leaf : ∀ (op : Operation) (next : Except Fault op.Reply → Program Value), op.isCall = false →
      a.program = .perform op next →
      P ⟨(Realm.respond op s.realm).2,
        .adapter ⟨a.context, handlesOf op.replyHandles (Realm.respond op s.realm).1 ++ a.received,
          .resume next (Realm.respond op s.realm).1⟩ waiting,
        faultsOf (Realm.respond op s.realm).1 ++ s.raised⟩) : P s.advance := by
  obtain ⟨c, received, program⟩ := a
  cases program with
  | done v =>
    have hstep : s.advance = leave s.realm s.raised c (.ok v) waiting := by rw [advance, hs]
    rw [hstep]
    exact left (.ok v) rfl
  | fail e =>
    have hstep : s.advance = leave s.realm s.raised c (.error e) waiting := by rw [advance, hs]
    rw [hstep]
    exact left (.error e) rfl
  | perform op next =>
    by_cases hcall : op.isCall = true
    · cases op with
      | call callee receiver arguments =>
        have hstep : s.advance = dispatch s.realm s.raised (.plain receiver) callee arguments
            (⟨c, received, next⟩ :: waiting) := by rw [advance, hs]
        rw [hstep]
        exact call callee receiver arguments next rfl
      | _ => cases hcall
    · have hleaf : op.isCall = false := Bool.eq_false_iff.mpr hcall
      rw [advance_leaf hs hleaf]
      exact leaf op next hleaf rfl

def perform (s : State) (t : Task) : State :=
  match t.act s.realm with
  | (outcome, r) => ⟨r, s.control, faultsOf outcome ++ s.raised⟩

def serve (s : State) (c : Call) : State :=
  match c.prepare s.realm with
  | .ok (mode, callee, arguments) => dispatch s.realm s.raised mode callee arguments []
  | .error e => deliver s.realm (e :: s.raised) (.error e) []

/-- A fresh realm in the hands of the host. -/
def start (options : Options) : State := ⟨.ofOptions options, .host (.ok .undefined), []⟩

/-! ### The realm after a step -/

section Realm

variable {r : Realm} {raised : List Fault} {outcome : Except Fault Value} {waiting : List Waiting}

/-- To deliver an outcome does nothing to the realm. -/
@[simp] theorem realm_deliver : (deliver r raised outcome waiting).realm = r := by
  cases waiting <;> rfl

@[simp] theorem realm_leave (c : Context) :
    (leave r raised c outcome waiting).realm = { r with callDepth := r.callDepth - 1 } := by
  rw [leave, realm_deliver]

theorem realm_dispatch (mode : CallMode) (callee : Value) (arguments : List Value) :
    ∃ n, (dispatch r raised mode callee arguments waiting).realm =
      { (Realm.openCall mode callee arguments r).2 with callDepth := n } := by
  unfold dispatch
  generalize Realm.openCall mode callee arguments r = opened
  obtain ⟨e | ⟨f, c⟩, r'⟩ := opened
  · exact ⟨r'.callDepth, realm_deliver⟩
  · exact ⟨r'.callDepth + 1, rfl⟩

@[simp] theorem realm_perform (s : State) (t : Task) : (s.perform t).realm = (t.act s.realm).2 :=
  rfl

theorem realm_serve (s : State) (c : Call) : (s.serve c).realm = s.realm ∨
    ∃ mode callee arguments, s.serve c = dispatch s.realm s.raised mode callee arguments [] := by
  unfold serve
  cases c.prepare s.realm with
  | error e => exact Or.inl realm_deliver
  | ok p => exact Or.inr ⟨p.1, p.2.1, p.2.2, rfl⟩

end Realm

end State

/-- One step of a run. Handles that the host uses name objects, and so do those that an adapter uses
without having been given them. -/
inductive Step : State → State → Prop
  | task {s : State} {outcome : Except Fault Value} (t : Task) : s.control = .host outcome →
      (∀ x ∈ t.handles, s.realm.heap.Contains x) → Step s (s.perform t)
  | call {s : State} {outcome : Except Fault Value} (c : Call) : s.control = .host outcome →
      (∀ x ∈ c.handles, s.realm.heap.Contains x) → Step s (s.serve c)
  | adapter {s : State} {a : Activation} {waiting : List Waiting} :
      s.control = .adapter a waiting →
      (∀ x ∈ a.supplied, x ∉ a.received → s.realm.heap.Contains x) → Step s s.advance

/-- The states that a run from a fresh realm may come to. -/
abbrev Reachable (options : Options) : State → Prop :=
  Relation.ReflTransGen Step (.start options)

/-- One step of a run in which nobody asks where a handle is from: it may name no object. -/
inductive Turn : State → State → Prop
  | task {s : State} {outcome : Except Fault Value} (t : Task) : s.control = .host outcome →
      Turn s (s.perform t)
  | call {s : State} {outcome : Except Fault Value} (c : Call) : s.control = .host outcome →
      Turn s (s.serve c)
  | adapter {s : State} {a : Activation} {waiting : List Waiting} :
      s.control = .adapter a waiting → Turn s s.advance

/-- Any number of such steps. -/
abbrev Turns : State → State → Prop := Relation.ReflTransGen Turn

end Run
end Invocation
