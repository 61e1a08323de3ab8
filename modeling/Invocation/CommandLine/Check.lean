/-
# The report of a conformance run

The output of the command `check`: the cases under the names of their suites, the
failures in detail, and a summary. A suite is named before the first of its cases
in a row.

Key definitions: `reportSpans`, `resultSpans`, `failureSpans`, `summarySpans`,
`milliseconds`.
-/
import Invocation.CommandLine.Style
import Invocation.Conformance.Report

namespace Invocation
namespace CommandLine

open Conformance

/-- One line of a case. -/
def caseSpans (c : CaseResult) : List Span :=
  (match c.outcome with
    | .passed => [.colored .green "   ✓ ", .colored .green c.name]
    | .failed _ => [.strong .red "   ✗ ", .strong .red c.name]
    | .skipped reason =>
      [.colored .yellow "   ○ ", .colored .yellow c.name, .dim (" (" ++ reason ++ ")")]) ++
    [.newline]

/-- The cases, after one of the suite `previous`. -/
def resultSpans (previous : String) : List CaseResult → List Span
  | [] => []
  | c :: cs =>
    (if c.suite = previous then [] else [.newline, .bold c.suite, .newline]) ++ caseSpans c ++
      resultSpans c.suite cs

/-- The details of one failure. -/
def failureDetail (c : CaseResult) (message : String) : List Span :=
  [ .styled { foreground := some .white, background := some .red, bold := true } " FAIL ",
    .plain " ", .bold c.fullName, .newline, .strong .red ("  " ++ message), .newline ]

/-- The details of all failures, after an empty line if there are any. -/
def failureSpans (r : Report) : List Span :=
  if r.hasFailures then
    .newline :: r.results.flatMap fun c => (c.failure?.elim [] (failureDetail c))
  else []

/-- A count with a comma after it, left out when it is zero. -/
def countSpans (color : Color) (n : Nat) (what : String) : List Span :=
  if n = 0 then [] else [.strong color (toString n ++ " " ++ what), .plain ", "]

/-- A time in milliseconds with two decimals. -/
def milliseconds (nanoseconds : Nat) : String :=
  let hundredths := (nanoseconds + 5000) / 10000
  let rest := hundredths % 100
  toString (hundredths / 100) ++ "." ++ (if rest < 10 then "0" else "") ++ toString rest

/-- The counts, and the time that the cases took. -/
def summarySpans (r : Report) (time : String) : List Span :=
  [.newline, .dim "──────────────────────────────────────────", .newline, .bold "Cases:  "] ++
    countSpans .red r.failed "failed" ++ countSpans .yellow r.skipped "skipped" ++
    countSpans .green r.passed "passed" ++
    [.bold (toString r.results.length ++ " total"), .newline, .bold "Time:   ",
      .dim (time ++ "ms"), .newline]

/-- The whole output for a report, where `time` is how many milliseconds the cases took. -/
def reportSpans (r : Report) (time : String) : List Span :=
  if r.results.isEmpty then [.strong .yellow "No cases matched.", .newline]
  else resultSpans "" r.results ++ failureSpans r ++ summarySpans r time

end CommandLine
end Invocation
