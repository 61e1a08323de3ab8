/-
# Running the conformance cases

Runs the cases whose full name contains a pattern, each in a session of its own,
and reports on them in order. A case that needs host interop is skipped where the
options leave it out.

Key definitions: `Conformance.run`, `Conformance.runCase`, `occursIn`.
-/
import Invocation.Conformance.Cases
import Invocation.Conformance.Report

namespace Invocation

/-- Whether a list of characters stands somewhere in another. -/
def occursIn (pattern : List Char) : List Char → Bool
  | [] => pattern.isEmpty
  | c :: cs => pattern.isPrefixOf (c :: cs) || occursIn pattern cs

namespace Conformance

/-- The outcome of a check in a session. -/
def outcomeOf (check : Value → Check Unit) (s : Session) : Outcome :=
  match (check s.exports s.realm).1 with
  | .ok _ => .passed
  | .error message => .failed message

/-- Runs one case. -/
def runCase (options : Options) (c : Case) : Except Fault CaseResult := do
  let outcome ←
    if c.needsHostInterop && !options.hostInterop then
      pure (.skipped "host interop disabled")
    else
      (Session.start options).map (outcomeOf c.check)
  pure { suite := c.suite, name := c.name, outcome }

/-- Whether a pattern selects a case; no pattern selects all. -/
def selects (pattern : Option String) (c : Case) : Bool :=
  match pattern with
  | none => true
  | some p => occursIn p.toList c.fullName.toList

/-- Runs the selected cases. -/
def run (options : Options) (pattern : Option String) : Except Fault Report := do
  let results ← (cases.filter (selects pattern)).mapM (runCase options)
  pure { results }

/-- The names of all cases, in the order in which they run. -/
def caseNames : List String := cases.map (·.fullName)

end Conformance
end Invocation
