/-
# Checks

A check is an action that may also find that something is not as it should be. It
passes, or ends in the message that says what is wrong; a fault that nobody
expected is such a message too.

Key definitions: `Conformance.Check`, `Conformance.expectField`,
`Conformance.expectFault`.
-/
import Invocation.Realm.Dispatch

namespace Invocation
namespace Conformance

/-- Work on a realm that ends in a result or in the message of what is wrong. -/
def Check (α : Type) : Type := Realm → Except String α × Realm

namespace Check

variable {α β : Type}

def pure (a : α) : Check α := fun r => (.ok a, r)

def bind (x : Check α) (f : α → Check β) : Check β := fun r =>
  match x r with
  | (.ok a, r') => f a r'
  | (.error m, r') => (.error m, r')

def fail (message : String) : Check α := fun r => (.error message, r)

instance : Monad Check where
  pure := pure
  bind := bind

/-- An action whose faults are not expected. -/
def run (x : Action α) : Check α := fun r =>
  match x r with
  | (.ok a, r') => (.ok a, r')
  | (.error e, r') => (.error ("unexpected " ++ e.summary), r')

/-- A look at the realm whose faults are not expected. -/
def look (f : Realm → Except Fault α) : Check α := run (Action.read f)

/-- The outcome of an action, be it a result or a fault. -/
def outcome (x : Action α) : Check (Except Fault α) := fun r => (.ok (x r).1, (x r).2)

end Check

/-- Two values have to be the same. -/
def expectSame (what : String) (actual expected : Value) : Check Unit := fun r =>
  if actual.sameValue expected then (.ok (), r)
  else (.error (what ++ ": expected " ++ r.describe expected ++ ", got " ++ r.describe actual), r)

/-- A property of an object has to be the given value. -/
def expectField (target : Value) (key : String) (expected : Value) : Check Unit := do
  let actual ← Check.look (·.property target key)
  expectSame key actual expected

/-- An action has to fail with a fault of the given kind. -/
def expectFault (x : Action Value) (kind : Fault.Kind) : Check Unit := do
  match ← Check.outcome x with
  | .ok _ => Check.fail ("expected " ++ kind.name ++ ", call returned a value")
  | .error e =>
    if e.kind = kind then pure ()
    else Check.fail ("expected " ++ kind.name ++ ", got " ++ e.summary)

end Conformance
end Invocation
