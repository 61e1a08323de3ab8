/-
# Faults

Everything that can go wrong in a call or in an operation on a realm, as a
cause. A fault has a kind, by which callers tell errors apart, and a message.

A panic is a fault that nobody is told of: it ends the whole program. What a
realm looks like after one is never seen.

Key definitions: `Fault`, `Fault.kind`, `Fault.message`, `Panic`.
-/
namespace Invocation

/-- Why a program ends outright. -/
inductive Panic where
  /-- A sum that leaves its word. -/
  | addition
  /-- A difference that leaves its word. -/
  | subtraction
  /-- A text longer than any text can be. -/
  | capacity
deriving DecidableEq

def Panic.message : Panic → String
  | .addition => "attempt to add with overflow"
  | .subtraction => "attempt to subtract with overflow"
  | .capacity => "capacity overflow"

/-- The cause of a failed call or operation. -/
inductive Fault where
  /-- A call with fewer arguments than the adapter reads. -/
  | arity (function : String) (expected got : Nat)
  /-- No scope on the receiver's lookup chain declares the function. -/
  | binding (function : String)
  /-- A value of one kind where another was wanted. -/
  | typeMismatch (expected got : String)
  /-- A call of something that is no function; the text describes it. -/
  | notCallable (what : String)
  /-- A construct call of something that does not construct. -/
  | notConstructor (what : String)
  /-- A lookup chain that goes on past the limit. -/
  | chainTooDeep (limit : Nat)
  /-- More nested calls, or more bound layers, than the limit. -/
  | stackExceeded (limit : Nat)
  /-- A host value in a realm without host interop. -/
  | interopDisabled
  /-- A handle that names no object. -/
  | invalidHandle (index : UInt32)
  /-- An argument that an operation refuses, in its own words. -/
  | argument (text : String)
  /-- The end of the program. -/
  | panic (cause : Panic)
deriving DecidableEq

namespace Fault

/-- The kinds of fault that callers tell apart. -/
inductive Kind where
  | arity
  | binding
  | type
  | range
  | interop
  | internal
  | panic
deriving DecidableEq

/-- The name of a kind as callers see it. -/
def Kind.name : Kind → String
  | .arity => "ArityError"
  | .binding => "BindingError"
  | .type => "TypeError"
  | .range => "RangeError"
  | .interop => "InteropError"
  | .internal => "InternalError"
  | .panic => "Panic"

def kind : Fault → Kind
  | .arity .. => .arity
  | .binding _ => .binding
  | .typeMismatch .. => .type
  | .notCallable _ => .type
  | .notConstructor _ => .type
  | .chainTooDeep _ => .range
  | .stackExceeded _ => .range
  | .interopDisabled => .interop
  | .invalidHandle _ => .internal
  | .argument _ => .type
  | .panic _ => .panic

/-- Whether the fault ends the program. -/
def isPanic : Fault → Bool
  | .panic _ => true
  | _ => false

def message : Fault → String
  | .arity function expected got =>
    function ++ ": expected at least " ++ toString expected ++ " argument(s), got " ++ toString got
  | .binding function =>
    function ++ ": no object on the receiver's lookup chain declares this function"
  | .typeMismatch expected got => "Type mismatch: expected " ++ expected ++ ", got " ++ got
  | .notCallable what => what ++ " is not a function"
  | .notConstructor what => what ++ " is not a constructor"
  | .chainTooDeep limit => "Prototype chain exceeds " ++ toString limit ++ " entries"
  | .stackExceeded limit => "Maximum call stack size exceeded (" ++ toString limit ++ ")"
  | .interopDisabled => "Host interop is not available in this realm"
  | .invalidHandle index => "Invalid object handle: " ++ toString index.toNat
  | .argument text => "Argument error: " ++ text
  | .panic cause => cause.message

/-- Kind and message in one line. -/
def summary (f : Fault) : String := f.kind.name ++ ": " ++ f.message

end Fault
end Invocation
