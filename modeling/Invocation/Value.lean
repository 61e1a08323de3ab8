/-
# Values

What passes between the engine and an adapter. Primitive values are themselves;
an object is a handle into a heap, and a foreign value is something of the host's
with an identity of its own. Numbers come in two forms, 32 bit integers and
doubles, and mix freely in comparisons.

Two equalities: `strictEquals`, where NaN differs from itself and the two zeros
are equal, and `sameValue`, where it is the other way round. Strings compare by
text, objects by handle, foreign values by identity.

Key definitions: `Value`, `PropertyKey`, `Value.strictEquals`, `Value.sameValue`.
-/
import Invocation.Number.Binary64
import Invocation.Text.Rope

namespace Invocation

/-- The name of an object: its position in the heap that holds it. -/
structure ObjectHandle where
  index : UInt32
deriving DecidableEq, Inhabited

/-- The name of a symbol: its position in a realm's symbol table. -/
structure SymbolId where
  index : UInt32
deriving DecidableEq, Inhabited

/-! ### Well-known symbols -/

/-- The symbols that every realm starts with. -/
inductive WellKnownSymbol where
  | toStringTag
  | iterator
  | hasInstance
deriving DecidableEq

namespace WellKnownSymbol

/-- In the order of their ids. -/
def all : List WellKnownSymbol := [.toStringTag, .iterator, .hasInstance]

def id : WellKnownSymbol → SymbolId
  | .toStringTag => ⟨0⟩
  | .iterator => ⟨1⟩
  | .hasInstance => ⟨2⟩

def description : WellKnownSymbol → String
  | .toStringTag => "Symbol.toStringTag"
  | .iterator => "Symbol.iterator"
  | .hasInstance => "Symbol.hasInstance"

/-- The name by which programs ask for it. -/
def name : WellKnownSymbol → String
  | .toStringTag => "toStringTag"
  | .iterator => "iterator"
  | .hasInstance => "hasInstance"

def ofName? (s : String) : Option WellKnownSymbol := all.find? (·.name == s)

end WellKnownSymbol

/-! ### Foreign values -/

/-- What the host wraps. The engine never looks inside. -/
inductive HostData where
  | integer (n : Int)
  | point (x y : Int32)
  | decimal (x : Binary64)

/-- A value of the host's. The identity is all that tells two of them apart. -/
structure Foreign where
  identity : Nat
  typeName : String
  data : HostData

/-! ### Property keys -/

/-- What names a property: a text or a symbol. -/
inductive PropertyKey where
  | text (name : String)
  | symbol (id : SymbolId)
deriving DecidableEq

namespace PropertyKey

instance : Coe String PropertyKey := ⟨.text⟩

/-- A text key is shown as it is and a symbol by its id. -/
def display : PropertyKey → String
  | .text name => name
  | .symbol id => "[Symbol(" ++ toString id.index.toNat ++ ")]"

end PropertyKey

/-! ### Values -/

/-- A value of one of nine kinds. -/
inductive Value where
  | undefined
  | null
  | bool (b : Bool)
  | int (i : Int32)
  | number (x : Binary64)
  | string (s : Rope)
  | symbol (id : SymbolId)
  | object (handle : ObjectHandle)
  | foreign (f : Foreign)
deriving Inhabited

namespace Value

/-- The flat string with the given text. -/
def text (s : String) : Value := .string (.flat s)

/-- A length as a value: an integer if it fits into 32 bits, the nearest double otherwise. -/
def ofLength (n : Nat) : Value :=
  if n < 0x80000000 then .int (Int32.ofNat n) else .number (.ofNat n)

/-- The kind of a value as error messages name it; both forms of number are one kind. -/
def typeName : Value → String
  | .undefined => "undefined"
  | .null => "null"
  | .bool _ => "boolean"
  | .int _ => "number"
  | .number _ => "number"
  | .string _ => "string"
  | .symbol _ => "symbol"
  | .object _ => "object"
  | .foreign _ => "foreign"

def isUndefined : Value → Bool
  | .undefined => true
  | _ => false

def isNullish : Value → Bool
  | .undefined => true
  | .null => true
  | _ => false

def isObject : Value → Bool
  | .object _ => true
  | _ => false

/-- Objects and foreign values, the ones that have an identity. -/
def isReference : Value → Bool
  | .object _ => true
  | .foreign _ => true
  | _ => false

/-! ### Reading one kind -/

def bool? : Value → Option Bool
  | .bool b => some b
  | _ => none

/-- The double of a number; an integer is converted, which is exact. -/
def number? : Value → Option Binary64
  | .int i => some (.ofInt i.toInt)
  | .number x => some x
  | _ => none

def string? : Value → Option Rope
  | .string s => some s
  | _ => none

def symbol? : Value → Option SymbolId
  | .symbol id => some id
  | _ => none

def object? : Value → Option ObjectHandle
  | .object handle => some handle
  | _ => none

def foreign? : Value → Option Foreign
  | .foreign f => some f
  | _ => none

/-- The 32 bit integer that a number equals. -/
def int32? : Value → Option Int32
  | .int i => some i
  | .number x =>
    match x.toInt? with
    | some n => if -0x80000000 ≤ n ∧ n < 0x80000000 then some (Int32.ofInt n) else none
    | none => none
  | _ => none

/-! ### Equality -/

/-- Equality in which NaN differs from itself and the two zeros are equal. -/
def strictEquals : Value → Value → Bool
  | .undefined, .undefined => true
  | .null, .null => true
  | .bool a, .bool b => a == b
  | .int a, .int b => a == b
  | .string a, .string b => a.sameText b
  | .symbol a, .symbol b => a == b
  | .object a, .object b => a == b
  | .foreign a, .foreign b => a.identity == b.identity
  | a, b =>
    match a.number?, b.number? with
    | some x, some y => x.numEq y
    | _, _ => false

/-- Equality in which NaN is NaN and the two zeros differ. -/
def sameValue (a b : Value) : Bool :=
  match a.number?, b.number? with
  | some x, some y =>
    if x.isNaN && y.isNaN then true else x.numEq y && x.isNegative == y.isNegative
  | _, _ => a.strictEquals b

end Value
end Invocation
