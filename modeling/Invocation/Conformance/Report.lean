/-
# Conformance reports

What became of each conformance case that was run, in the order in which they
were run.

Key definitions: `Conformance.Outcome`, `Conformance.CaseResult`,
`Conformance.Report`.
-/
namespace Invocation
namespace Conformance

inductive Outcome where
  | passed
  | failed (message : String)
  | skipped (reason : String)
deriving DecidableEq

/-- The outcome of one case; a case is known by its suite and its name. -/
structure CaseResult where
  suite : String
  name : String
  outcome : Outcome
deriving DecidableEq

namespace CaseResult

/-- The name by which a case is selected. -/
def fullName (c : CaseResult) : String := c.suite ++ " > " ++ c.name

def passed (c : CaseResult) : Bool := c.outcome == .passed

def failure? (c : CaseResult) : Option String :=
  match c.outcome with
  | .failed message => some message
  | _ => none

def skipReason? (c : CaseResult) : Option String :=
  match c.outcome with
  | .skipped reason => some reason
  | _ => none

end CaseResult

structure Report where
  results : List CaseResult := []
deriving DecidableEq

namespace Report

def passed (r : Report) : Nat := r.results.countP (·.passed)

def failed (r : Report) : Nat := r.results.countP (·.failure?.isSome)

def skipped (r : Report) : Nat := r.results.countP (·.skipReason?.isSome)

def hasFailures (r : Report) : Bool := decide (0 < r.failed)

end Report
end Conformance
end Invocation
