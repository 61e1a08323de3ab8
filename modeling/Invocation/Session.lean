/-
# Sessions

A session is a realm into which the argument adapters have been loaded, with the
object that holds their functions.

Key definitions: `Session.start`, `Session.exported`.
-/
import Invocation.ArgumentAdapters
import Invocation.Realm.Dispatch

namespace Invocation

structure Session where
  realm : Realm
  registry : Registry
  exports : Value

namespace Session

/-- A fresh realm with the argument adapters loaded. -/
def start (options : Options) : Except Fault Session :=
  match Realm.loadExports argumentAdapters (.ofOptions options) with
  | (.ok exports, realm) => .ok { realm, registry := argumentAdapters, exports }
  | (.error e, _) => .error e

/-- The loaded function of a name, as it is found in `realm`. -/
def exportFrom (exports : Value) (name : String) (realm : Realm) : Except Fault Value := do
  match ← realm.property exports name with
  | .undefined => .error (.argument ("Unknown export: " ++ name))
  | value => .ok value

/-- The loaded function of a name. -/
def exported (s : Session) (name : String) : Except Fault Value := exportFrom s.exports name s.realm

end Session
end Invocation
