/-
# A report as lines of text

Where colours are off, a span is its text, and a report is made of whole lines. The cases
stand under the names of their suites (`suiteLines`): for each suite an empty line, its name
and the lines of its cases. Then come two lines for each failure and four lines of summary.

The program writes the cases from the front, with a heading before each case that is of
another suite than the one before it (`linesAfter`).

Key definitions: `caseLine`, `suiteLines`, `failureLines`, `summaryLines`, `linesAfter`.
Key theorems: `renderAll_resultSpans`, `renderAll_failureSpans`, `renderAll_summarySpans`.
-/
import Invocation.CommandLine.Program

namespace Invocation
namespace CommandLine

open Conformance

/-! ### Plain text -/

namespace Span

variable {colors : Bool}

theorem render_plain (s : Span) : s.render false = s.text := by
  cases s <;> rfl

theorem renderAll_nil : renderAll colors [] = "" := rfl

theorem renderAll_cons (s : Span) (spans : List Span) :
    renderAll colors (s :: spans) = s.render colors ++ renderAll colors spans :=
  String.join_cons

theorem renderAll_append (first second : List Span) :
    renderAll colors (first ++ second) = renderAll colors first ++ renderAll colors second := by
  unfold renderAll
  rw [List.map_append, String.join_append]

end Span

theorem unlines_cons (line : String) (lines : List String) :
    unlines (line :: lines) = line ++ "\n" ++ unlines lines :=
  String.join_cons

theorem unlines_append (first second : List String) :
    unlines (first ++ second) = unlines first ++ unlines second := by
  unfold unlines
  rw [List.map_append, String.join_append]

/-! ### The lines of a report -/

/-- The line of a case: a mark for its outcome, its name, and why it was skipped. -/
def caseLine (c : CaseResult) : String :=
  match c.outcome with
  | .passed => "   ✓ " ++ c.name
  | .failed _ => "   ✗ " ++ c.name
  | .skipped reason => "   ○ " ++ c.name ++ " (" ++ reason ++ ")"

/-- The suites of the cases, each once, in the order of their first cases. -/
def suitesOf (results : List CaseResult) : List String := (results.map (·.suite)).eraseDups

/-- An empty line, the name of a suite, and its cases in order. -/
def suiteBlock (results : List CaseResult) (suite : String) : List String :=
  "" :: suite :: (results.filter (·.suite = suite)).map caseLine

def suiteLines (results : List CaseResult) : List String :=
  (suitesOf results).flatMap (suiteBlock results)

/-- The line that names a failed case. -/
def failureLine (c : CaseResult) : String := " FAIL  " ++ c.fullName

/-- After an empty line, the name and the message of each failed case in order. Nothing if there
is none. -/
def failureLines (r : Report) : List String :=
  if r.hasFailures then
    "" :: r.results.flatMap fun c => c.failure?.elim [] fun m => [failureLine c, "  " ++ m]
  else []

/-- How many cases failed, were skipped and passed, without the zeros. -/
def counts (r : Report) : List (Nat × String) :=
  [(r.failed, "failed"), (r.skipped, "skipped"), (r.passed, "passed")].filter (·.1 ≠ 0)

def countText (count : Nat × String) : String := toString count.1 ++ " " ++ count.2 ++ ", "

/-- The counts and the total, and the time. -/
def summaryLines (r : Report) (time : String) : List String :=
  [ "", "──────────────────────────────────────────",
    "Cases:  " ++ String.join ((counts r).map countText) ++ toString r.results.length ++ " total",
    "Time:   " ++ time ++ "ms" ]

/-! ### Cases under their suites -/

/-- The lines of cases that follow one of the suite `previous`. -/
def linesAfter (previous : String) : List CaseResult → List String
  | [] => []
  | c :: cs =>
    (if c.suite = previous then [] else ["", c.suite]) ++ caseLine c :: linesAfter c.suite cs

theorem renderAll_caseSpans (c : CaseResult) :
    Span.renderAll false (caseSpans c) = caseLine c ++ "\n" := by
  unfold caseSpans caseLine
  cases c.outcome <;>
    simp [Span.renderAll_cons, Span.renderAll_nil, Span.render_plain, Span.text, Span.colored,
      Span.strong, Span.dim, Span.newline, String.append_assoc]

theorem renderAll_resultSpans (previous : String) (results : List CaseResult) :
    Span.renderAll false (resultSpans previous results) =
      unlines (linesAfter previous results) := by
  induction results generalizing previous with
  | nil => rfl
  | cons c cs ih =>
    unfold resultSpans linesAfter
    rw [Span.renderAll_append, Span.renderAll_append, renderAll_caseSpans, ih, unlines_append,
      unlines_cons, String.append_assoc]
    split <;> rfl

/-! ### Failures and summary -/

theorem renderAll_failureDetail (c : CaseResult) (message : String) :
    Span.renderAll false (failureDetail c message) =
      unlines [failureLine c, "  " ++ message] := by
  have hbadge : failureLine c = " FAIL " ++ (" " ++ c.fullName) := by
    rw [← String.append_assoc]
    rfl
  rw [hbadge]
  simp [failureDetail, unlines, Span.renderAll_cons, Span.renderAll_nil,
    Span.render_plain, Span.text, Span.bold, Span.strong, Span.newline, String.append_assoc]

theorem renderAll_failureSpans (r : Report) :
    Span.renderAll false (failureSpans r) = unlines (failureLines r) := by
  unfold failureSpans failureLines
  split
  · rw [Span.renderAll_cons, unlines_cons]
    refine congrArg ("\n" ++ ·) ?_
    induction r.results with
    | nil => rfl
    | cons c cs ih =>
      rw [List.flatMap_cons, List.flatMap_cons, Span.renderAll_append, unlines_append, ih]
      cases c.failure? with
      | none => rfl
      | some message =>
        rw [Option.elim_some, Option.elim_some, renderAll_failureDetail]
  · rfl

theorem renderAll_countSpans (color : Color) (n : Nat) (what : String) :
    Span.renderAll false (countSpans color n what) =
      String.join (([(n, what)].filter (·.1 ≠ 0)).map countText) := by
  unfold countSpans
  by_cases hn : n = 0
  · rw [if_pos hn, hn]
    rfl
  · rw [if_neg hn]
    simp [hn, countText, Span.renderAll_cons, Span.renderAll_nil, Span.render_plain, Span.text,
      Span.strong, String.append_assoc]

theorem renderAll_summarySpans (r : Report) (time : String) :
    Span.renderAll false (summarySpans r time) = unlines (summaryLines r time) := by
  have hcounts : String.join ((counts r).map countText) =
      Span.renderAll false (countSpans .red r.failed "failed") ++
        Span.renderAll false (countSpans .yellow r.skipped "skipped") ++
        Span.renderAll false (countSpans .green r.passed "passed") := by
    rw [renderAll_countSpans, renderAll_countSpans, renderAll_countSpans, ← String.join_append,
      ← String.join_append, ← List.map_append, ← List.map_append, ← List.filter_append,
      ← List.filter_append]
    rfl
  unfold summarySpans summaryLines
  rw [hcounts]
  simp [unlines, Span.renderAll_append, Span.renderAll_cons, Span.renderAll_nil, Span.render_plain,
    Span.text, Span.bold, Span.dim, Span.colored, Span.newline, String.append_assoc,
    -String.reduceAppend]

end CommandLine
end Invocation
