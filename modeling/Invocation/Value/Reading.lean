/-
# Reading values at a host type

An adapter that wants a boolean, a number, a string and so on reads it through a
`Reading`: what the type accepts, and the word for it in the fault when a value
is of another kind. Readings convert nothing: zero is no boolean and a symbol no
string. The one exception is that a double which equals a 32 bit integer reads
as that integer, and an integer as its double.

Key definitions: `Reading`, `Reading.read`, `Reading.optional`.
-/
import Invocation.Fault
import Invocation.Value

namespace Invocation

/-- A way to read values as an `α`: the kind it asks for and what it accepts. -/
structure Reading (α : Type) where
  expected : String
  accept : Value → Option α

namespace Reading

/-- Reads a value, or says what was expected and what came instead. -/
def read {α : Type} (r : Reading α) (v : Value) : Except Fault α :=
  match r.accept v with
  | some a => .ok a
  | none => .error (.typeMismatch r.expected v.typeName)

def value : Reading Value := ⟨"value", some⟩

def bool : Reading Bool := ⟨"boolean", Value.bool?⟩

def number : Reading Binary64 := ⟨"number", Value.number?⟩

def int32 : Reading Int32 := ⟨"int", Value.int32?⟩

def string : Reading Rope := ⟨"string", Value.string?⟩

/-- A string as its flat text. -/
def text : Reading String := ⟨"string", fun v => v.string?.map Rope.flatten⟩

def symbol : Reading SymbolId := ⟨"symbol", Value.symbol?⟩

def object : Reading ObjectHandle := ⟨"object", Value.object?⟩

def foreign : Reading Foreign := ⟨"foreign", Value.foreign?⟩

/-- Undefined and null read as nothing, and everything else as before. -/
def optional {α : Type} (r : Reading α) : Reading (Option α) :=
  ⟨r.expected, fun v => if v.isNullish then some none else (r.accept v).map some⟩

end Reading
end Invocation
