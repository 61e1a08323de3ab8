/-
# Describing values

One line for a value, as it stands in messages.

Key definitions: `Realm.describe`, `Value.debugText`.
-/
import Invocation.Number.Decimal
import Invocation.Realm.Objects
import Invocation.Text.Quoted

namespace Invocation

/-- A value by what it is: strings in quotes but not escaped, functions by name, arrays and other
objects by kind alone. -/
def Realm.describe (r : Realm) : Value → String
  | .string s => "\"" ++ s.flatten ++ "\""
  | .int i => toString i.toInt
  | .number x => x.plainText
  | .bool b => toString b
  | .symbol id => "Symbol(" ++ (r.symbolDescription id).getD "" ++ ")"
  | .object handle =>
    match (r.heap.object? handle).map HeapObject.kind with
    | some (.native _) => "function " ++ r.functionName handle
    | some (.bound _) => "function " ++ r.functionName handle
    | some (.array _) => "array"
    | _ => "object"
  | .foreign f => "foreign " ++ f.typeName
  | other => other.typeName

/-- How a symbol id is written. -/
def SymbolId.debugText (id : SymbolId) : String := "Symbol(" ++ toString id.index.toNat ++ ")"

/-- A value by its representation, without a realm: strings are escaped and lazy ones marked,
symbols and objects shown by id. -/
def Value.debugText : Value → String
  | .undefined => "Undefined"
  | .null => "Null"
  | .bool b => "Bool(" ++ toString b ++ ")"
  | .int i => "Int(" ++ toString i.toInt ++ ")"
  | .number x => "Number(" ++ x.debugText ++ ")"
  | .string s =>
    "String(JsString" ++ (if s.isLazy then "::Lazy" else "") ++ "(" ++ quoted s.flatten ++ "))"
  | .symbol id => "Symbol(" ++ id.debugText ++ ")"
  | .object handle => "Object(#" ++ toString handle.index.toNat ++ ")"
  | .foreign f => "Foreign(" ++ f.typeName ++ ")"

end Invocation
