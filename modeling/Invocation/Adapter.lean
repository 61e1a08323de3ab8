/-
# Adapters

An adapter is the body of a native function: from the context of a call it makes
a finite program of operations on the realm. A program returns a value, fails
with a fault, or performs one operation and goes on with its outcome, be it a
reply or a fault; so it may swallow faults, call back into the realm and be
called again meanwhile. A panic it is not told of: that ends it. Programs know
nothing of realms: whoever runs one says what the operations do.

Key definitions: `Operation`, `Program`, `Program.run`, `Adapter`.
-/
import Invocation.Context

namespace Invocation

/-- What an adapter may ask of the realm. -/
inductive Operation where
  | createObject
  | createArray (items : List Value)
  | concat (left right : Value)
  | property (target : Value) (key : PropertyKey)
  | setProperty (target : Value) (key : PropertyKey) (value : Value)
  | hasOwnProperty (target : Value) (key : PropertyKey)
  | prototypeOf (target : Value)
  | typeOf (value : Value)
  | symbolDescription (id : SymbolId)
  | arrayLength (target : Value)
  | arrayElement (target : Value) (index : Nat)
  | call (callee receiver : Value) (arguments : List Value)

/-- The reply to an operation that succeeds. -/
def Operation.Reply : Operation → Type
  | .createObject => Value
  | .createArray _ => Value
  | .concat _ _ => Value
  | .property _ _ => Value
  | .setProperty _ _ _ => Unit
  | .hasOwnProperty _ _ => Bool
  | .prototypeOf _ => Option ObjectHandle
  | .typeOf _ => String
  | .symbolDescription _ => Option String
  | .arrayLength _ => Nat
  | .arrayElement _ _ => Value
  | .call _ _ _ => Value

/-- A finite program of operations that ends in an `α` or in a fault. -/
inductive Program (α : Type) : Type where
  | done (result : α)
  | fail (fault : Fault)
  | perform (op : Operation) (next : Except Fault op.Reply → Program α)

namespace Program

variable {α β : Type}

/-- Runs `f` on the result of a program. -/
def bind : Program α → (α → Program β) → Program β
  | .done a, f => f a
  | .fail e, _ => .fail e
  | .perform op next, f => .perform op fun outcome => (next outcome).bind f

/-- Ends in the result of an outcome. -/
def ofExcept : Except Fault α → Program α
  | .ok a => .done a
  | .error e => .fail e

/-- Runs `handler` on the fault of a program that fails, but not on a panic. -/
def catchFault : Program α → (Fault → Program α) → Program α
  | .done a, _ => .done a
  | .fail e, handler => if e.isPanic then .fail e else handler e
  | .perform op next, handler => .perform op fun outcome => (next outcome).catchFault handler

instance : Monad Program where
  pure := .done
  bind := bind

instance : MonadExceptOf Fault Program where
  throw := .fail
  tryCatch := catchFault

/-- Performs one operation and returns its reply, or fails with its fault. -/
def ask (op : Operation) : Program op.Reply := .perform op ofExcept

/-- How a program goes on after an operation that ended in `outcome`. -/
def resume (next : Except Fault β → Program α) : Except Fault β → Program α
  | .error (.panic cause) => .fail (.panic cause)
  | outcome => next outcome

/-- Runs a program against a state, where `respond` says what an operation does to it. -/
def run {σ : Type} (respond : (op : Operation) → σ → Except Fault op.Reply × σ) :
    Program α → σ → Except Fault α × σ
  | .done a, s => (.ok a, s)
  | .fail e, s => (.error e, s)
  | .perform op next, s =>
    match respond op s with
    | (.error (.panic cause), s') => (.error (.panic cause), s')
    | (outcome, s') => (next outcome).run respond s'

/-- A program is over after a panic, and else goes on as it says. -/
theorem resume_cases (next : Except Fault β → Program α) (outcome : Except Fault β) :
    (∃ cause, outcome = .error (.panic cause) ∧ resume next outcome = .fail (.panic cause)) ∨
      resume next outcome = next outcome := by
  unfold resume
  split
  · rename_i cause
    exact .inl ⟨cause, rfl, rfl⟩
  · exact .inr rfl

@[simp] theorem resume_ok (next : Except Fault β → Program α) (b : β) :
    resume next (.ok b) = next (.ok b) := rfl

/-- Running an operation is running what the program goes on with. -/
theorem run_perform {σ : Type} (respond : (op : Operation) → σ → Except Fault op.Reply × σ)
    (op : Operation) (next : Except Fault op.Reply → Program α) (s : σ) :
    (perform op next).run respond s =
      (resume next (respond op s).1).run respond (respond op s).2 := by
  rw [run]
  generalize respond op s = result
  obtain ⟨outcome, s'⟩ := result
  match outcome with
  | .ok b => rfl
  | .error e => cases e <;> rfl

end Program

/-- The body of a native function. -/
def Adapter : Type := Context → Program Value

instance : Inhabited Adapter := ⟨fun _ => .done .undefined⟩

end Invocation
