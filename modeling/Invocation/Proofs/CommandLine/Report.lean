/-
# What a conformance run reports

The command `check` runs the cases whose full name contains the pattern, and its report
lists each of them once, under the one heading of its suite (`checkWith_reports`, and
`check_reports` for whole command lines). Headings are written wherever the suite changes
from one case to the next, so that there is one for each suite because the cases of a
suite stand in a row (`Grouped`), which any selection of them keeps.
Failures, counts and exit code are read off the same results.

The lines of cases, the lines that name failures and the names of suites begin differently, so
that none of them can be taken for one of the others.

Key definitions: `Grouped`, `Listable`, `Contains`.
Key theorems: `linesAfter_eq`, `Listable.count_caseLine`, `Listable.heading`,
`Listable.count_failureLine`, `sum_counts`, `checkWith_reports`, `check_reports`.
-/
import Mathlib.Data.List.Nodup
import Invocation.Proofs.CommandLine.Lines
import Invocation.Proofs.Conformance.Run

namespace Invocation
namespace CommandLine

open Conformance

/-! ### Equal elements in a row -/

section Grouped

variable {α : Type} {a b : α} {l l' : List α}

/-- Equal elements stand in a row: nothing else is between two of them. -/
def Grouped (l : List α) : Prop := ∀ a b, [a, b, a].Sublist l → a = b

theorem Grouped.sublist (h : Grouped l) (hl : l'.Sublist l) : Grouped l' := by
  intro a b hab
  exact h a b (hab.trans hl)

theorem Grouped.cons (h : Grouped l) (ha : a ∉ l) : Grouped (a :: l) := by
  intro x y hxy
  cases hxy with
  | cons _ hxy => exact h x y hxy
  | cons_cons _ hxy =>
    have hmem : a ∈ l := hxy.subset (List.mem_cons_of_mem _ (List.mem_singleton_self a))
    exact absurd hmem ha

/-- Behind another element an element does not come back. -/
theorem Grouped.not_mem (h : Grouped (a :: b :: l)) (hne : b ≠ a) : a ∉ b :: l := by
  intro hmem
  rcases List.mem_cons.mp hmem with rfl | hmem
  · exact hne rfl
  · have hab : [a, b, a].Sublist (a :: b :: l) :=
      ((List.singleton_sublist.mpr hmem).cons_cons b).cons_cons a
    exact hne (h a b hab).symm

/-- Elements whose first places come in order stand in a row. -/
theorem grouped_of_pairwise [BEq α] [LawfulBEq α] (h : (l.map l.idxOf).Pairwise (· ≤ ·)) :
    Grouped l := by
  intro a b hab
  have hpair := h.sublist (hab.map l.idxOf)
  have ha : a ∈ l := hab.subset List.mem_cons_self
  simp only [List.map_cons, List.map_nil, List.pairwise_cons, List.mem_cons, List.not_mem_nil,
    or_false, forall_eq_or_imp, forall_eq] at hpair
  exact (List.idxOf_inj ha).mp (by omega)

theorem nodup_eraseDups [BEq α] [LawfulBEq α] : ∀ l : List α, l.eraseDups.Nodup
  | [] => List.nodup_nil
  | a :: l => by
    rw [List.eraseDups_cons, List.nodup_cons, List.mem_eraseDups, List.mem_filter]
    exact ⟨by simp, nodup_eraseDups _⟩
termination_by l => l.length
decreasing_by exact Nat.lt_succ_of_le (List.length_filter_le _ _)

end Grouped

/-! ### One heading for each suite -/

theorem suiteLines_cons (c : CaseResult) (cs : List CaseResult) :
    suiteLines (c :: cs) = "" :: c.suite :: caseLine c ::
      (cs.filter (·.suite = c.suite)).map caseLine ++
        suiteLines (cs.filter (·.suite ≠ c.suite)) := by
  have hsuites : (cs.map (·.suite)).filter (fun s => !s == c.suite) =
      (cs.filter (·.suite ≠ c.suite)).map (·.suite) := by
    rw [List.filter_map]
    refine congrArg _ (List.filter_congr fun d _ => ?_)
    by_cases hd : d.suite = c.suite <;> simp [hd]
  have hblock : suiteBlock (c :: cs) c.suite =
      "" :: c.suite :: caseLine c :: (cs.filter (·.suite = c.suite)).map caseLine := by
    unfold suiteBlock
    rw [List.filter_cons_of_pos (by simp), List.map_cons]
  unfold suiteLines suitesOf
  rw [List.map_cons, List.eraseDups_cons, List.flatMap_cons, hblock, hsuites]
  refine congrArg _ (List.flatMap_congr fun s hs => ?_)
  obtain ⟨d, hd, rfl⟩ := List.mem_map.mp (List.mem_eraseDups.mp hs)
  have hne : d.suite ≠ c.suite := of_decide_eq_true (List.mem_filter.mp hd).2
  unfold suiteBlock
  rw [List.filter_cons_of_neg (by simpa using hne.symm), List.filter_filter]
  refine congrArg (fun l => "" :: d.suite :: List.map caseLine l) (List.filter_congr fun e _ => ?_)
  by_cases he : e.suite = d.suite
  · simp [he, hne]
  · simp [he]

theorem filter_suite_of_ne {s : String} {results : List CaseResult}
    (h : ∀ c ∈ results, c.suite ≠ s) : results.filter (·.suite = s) = [] ∧
      results.filter (·.suite ≠ s) = results :=
  ⟨List.filter_eq_nil_iff.mpr fun c hc => by simpa using h c hc,
    List.filter_eq_self.mpr fun c hc => by simpa using h c hc⟩

/-- The cases of the suite that stands already come first, and then all others under
their suites. -/
theorem linesAfter_eq {previous : String} {results : List CaseResult}
    (h : Grouped (previous :: results.map (·.suite))) : linesAfter previous results =
      (results.filter (·.suite = previous)).map caseLine ++
        suiteLines (results.filter (·.suite ≠ previous)) := by
  induction results generalizing previous with
  | nil => rfl
  | cons c cs ih =>
    have htail : Grouped (c.suite :: cs.map (·.suite)) := h.sublist (List.sublist_cons_self _ _)
    unfold linesAfter
    by_cases hc : c.suite = previous
    · subst hc
      rw [if_pos rfl, List.filter_cons_of_pos (by simp), List.filter_cons_of_neg (by simp),
        ih htail]
      rfl
    · -- the suite before does not come back, so that all cases are of others
      have hothers : ∀ d ∈ c :: cs, d.suite ≠ previous := by
        intro d hd heq
        exact h.not_mem hc (heq ▸ List.mem_map_of_mem hd)
      obtain ⟨hnone, hall⟩ := filter_suite_of_ne hothers
      rw [if_neg hc, hnone, hall, suiteLines_cons, ih htail]
      rfl

/-- What the lines of cases look like. -/
def isCaseLine (line : String) : Bool := "   ".toList.isPrefixOf line.toList

theorem isCaseLine_caseLine (c : CaseResult) : isCaseLine (caseLine c) = true := by
  unfold caseLine isCaseLine
  cases c.outcome <;> simp [String.toList_append]

/-- Cases that can be told apart in a report: those of a suite stand in a row, suites do not look
like other lines, and no two cases have one line or one full name. -/
structure Listable (results : List CaseResult) : Prop where
  grouped : Grouped (results.map (·.suite))
  suite_ne : ∀ c ∈ results, c.suite ≠ ""
  suite_heading : ∀ c ∈ results, isCaseLine c.suite = false
  lines_nodup : (results.map caseLine).Nodup
  names_nodup : (results.map (·.fullName)).Nodup

namespace Listable

variable {results : List CaseResult} {c : CaseResult}

theorem linesAfter_start (h : Listable results) : linesAfter "" results = suiteLines results := by
  have hstart : "" ∉ results.map (·.suite) := by
    rw [List.mem_map]
    rintro ⟨c, hc, heq⟩
    exact h.suite_ne c hc heq
  obtain ⟨hnone, hall⟩ := filter_suite_of_ne h.suite_ne
  rw [linesAfter_eq (h.grouped.cons hstart), hnone, hall]
  rfl

/-- The lines of cases are those of the results, in their order. -/
theorem filter_isCaseLine (h : Listable results) :
    (suiteLines results).filter isCaseLine = results.map caseLine := by
  rw [← h.linesAfter_start]
  have hheading := h.suite_heading
  generalize "" = previous
  clear h
  induction results generalizing previous with
  | nil => rfl
  | cons c cs ih =>
    have hc := hheading c List.mem_cons_self
    unfold linesAfter
    rw [List.filter_append, List.filter_cons_of_pos (isCaseLine_caseLine c),
      ih (fun d hd => hheading d (List.mem_cons_of_mem _ hd)), List.map_cons]
    split
    · rfl
    · rw [List.filter_cons_of_neg (by decide), List.filter_cons_of_neg (by simp [hc])]
      rfl

theorem count_caseLine (h : Listable results) (hc : c ∈ results) :
    (suiteLines results).count (caseLine c) = 1 := by
  rw [← List.count_filter (isCaseLine_caseLine c), h.filter_isCaseLine]
  exact List.count_eq_one_of_mem h.lines_nodup (List.mem_map_of_mem hc)

theorem not_mem_caseLines {s : String} (hs : isCaseLine s = false) (results : List CaseResult) :
    s ∉ results.map caseLine := by
  rw [List.mem_map]
  rintro ⟨c, -, rfl⟩
  rw [isCaseLine_caseLine] at hs
  cases hs

theorem not_mem_blocks {s : String} {suites : List String} (hempty : s ≠ "")
    (hheading : isCaseLine s = false) (hs : s ∉ suites) :
    s ∉ suites.flatMap (suiteBlock results) := by
  rw [List.mem_flatMap]
  rintro ⟨t, ht, hmem⟩
  rcases List.mem_cons.mp hmem with rfl | hmem
  · exact hempty rfl
  rcases List.mem_cons.mp hmem with rfl | hmem
  · exact hs ht
  · exact not_mem_caseLines hheading _ hmem

/-- A suite is named once, right above its first case. -/
theorem heading (h : Listable results) {s : String} (hs : s ∈ results.map (·.suite)) :
    (suiteLines results).count s = 1 ∧ ∃ first before after,
      results.find? (·.suite = s) = some first ∧
        suiteLines results = before ++ s :: caseLine first :: after := by
  obtain ⟨c, hc, rfl⟩ := List.mem_map.mp hs
  obtain ⟨pre, post, hsplit⟩ := List.append_of_mem (List.mem_eraseDups.mpr hs)
  have hnodup := nodup_eraseDups (results.map (·.suite))
  rw [hsplit, List.nodup_middle, List.nodup_cons, List.mem_append, not_or] at hnodup
  obtain ⟨⟨hpre, hpost⟩, -⟩ := hnodup
  have hbefore : c.suite ∉ pre.flatMap (suiteBlock results) :=
    not_mem_blocks (h.suite_ne c hc) (h.suite_heading c hc) hpre
  have hafter : c.suite ∉ post.flatMap (suiteBlock results) :=
    not_mem_blocks (h.suite_ne c hc) (h.suite_heading c hc) hpost
  obtain ⟨first, rest, hblock⟩ : ∃ first rest,
      results.filter (·.suite = c.suite) = first :: rest :=
    List.exists_cons_of_ne_nil (List.ne_nil_of_mem (List.mem_filter.mpr ⟨hc, by simp⟩))
  have hlines : suiteLines results = (pre.flatMap (suiteBlock results) ++ [""]) ++
      c.suite :: caseLine first :: (rest.map caseLine ++ post.flatMap (suiteBlock results)) := by
    unfold suiteLines suitesOf
    rw [hsplit, List.flatMap_append, List.flatMap_cons, suiteBlock, hblock]
    simp [List.append_assoc]
  refine ⟨?_, first, _, _, ?_, hlines⟩
  · have hcases := not_mem_caseLines (h.suite_heading c hc) (first :: rest)
    rw [List.map_cons, List.mem_cons, not_or] at hcases
    rw [hlines, List.count_append, List.count_append, List.count_eq_zero.mpr hbefore,
      List.count_cons_self, List.count_cons_of_ne (Ne.symm hcases.1), List.count_append,
      List.count_eq_zero.mpr hcases.2, List.count_eq_zero.mpr hafter,
      List.count_cons_of_ne (Ne.symm (h.suite_ne c hc))]
    rfl
  · rw [← List.head?_filter, hblock]
    rfl

end Listable

/-! ### Failures -/

/-- What the lines that name failures look like. -/
def isFailureLine (line : String) : Bool := " F".toList.isPrefixOf line.toList

theorem isFailureLine_failureLine (c : CaseResult) : isFailureLine (failureLine c) = true := by
  unfold failureLine isFailureLine
  simp [String.toList_append]

theorem hasFailures_iff {r : Report} :
    r.hasFailures = true ↔ ∃ c ∈ r.results, c.failure?.isSome = true := by
  unfold Report.hasFailures Report.failed
  rw [decide_eq_true_iff, List.countP_pos_iff]

/-- The failures named are those of the results, in their order. -/
theorem filter_isFailureLine (r : Report) :
    (failureLines r).filter isFailureLine =
      (r.results.filter (·.failure?.isSome)).map failureLine := by
  unfold failureLines
  split
  · rw [List.filter_cons_of_neg (by decide), List.filter_flatMap]
    induction r.results with
    | nil => rfl
    | cons c cs ih =>
      rw [List.flatMap_cons, ih]
      cases hc : c.failure? with
      | none => rw [List.filter_cons_of_neg (by simp [hc])]; rfl
      | some m =>
        have hmessage : isFailureLine ("  " ++ m) = false := by
          rw [isFailureLine, String.toList_append]
          rfl
        rw [List.filter_cons_of_pos (by simp [hc]), Option.elim_some,
          List.filter_cons_of_pos (isFailureLine_failureLine c),
          List.filter_cons_of_neg (by simp [hmessage])]
        rfl
  · rename_i hnone
    have hnil : r.results.filter (·.failure?.isSome) = [] :=
      List.filter_eq_nil_iff.mpr fun c hc hfailed => hnone (hasFailures_iff.mpr ⟨c, hc, hfailed⟩)
    rw [hnil]
    rfl

theorem Listable.count_failureLine {r : Report} {c : CaseResult} (h : Listable r.results)
    (hc : c ∈ r.results) (hfailed : c.failure?.isSome = true) :
    (failureLines r).count (failureLine c) = 1 := by
  have hnodup : (r.results.map failureLine).Nodup := by
    have hlines : r.results.map failureLine = (r.results.map (·.fullName)).map (" FAIL  " ++ ·) :=
      List.map_map.symm
    rw [hlines]
    exact h.names_nodup.map fun a b hab => (String.append_right_inj _).mp hab
  rw [← List.count_filter (isFailureLine_failureLine c), filter_isFailureLine]
  exact List.count_eq_one_of_mem (hnodup.sublist (List.filter_sublist.map failureLine))
    (List.mem_map_of_mem (List.mem_filter.mpr ⟨hc, hfailed⟩))

/-! ### Counts -/

theorem failed_add_skipped_add_passed (r : Report) :
    r.failed + r.skipped + r.passed = r.results.length := by
  unfold Report.failed Report.skipped Report.passed
  induction r.results with
  | nil => rfl
  | cons c cs ih =>
    rw [List.countP_cons, List.countP_cons, List.countP_cons, List.length_cons, ← ih]
    unfold CaseResult.failure? CaseResult.skipReason? CaseResult.passed
    cases c.outcome <;> simp <;> omega

theorem sum_nonzero (l : List (Nat × String)) :
    ((l.filter (·.1 ≠ 0)).map (·.1)).sum = (l.map (·.1)).sum := by
  induction l with
  | nil => rfl
  | cons count l ih =>
    rw [List.map_cons, List.sum_cons, ← ih]
    by_cases hzero : count.1 = 0
    · rw [List.filter_cons_of_neg (by simpa using hzero), hzero, Nat.zero_add]
    · rw [List.filter_cons_of_pos (by simpa using hzero), List.map_cons, List.sum_cons]

theorem sum_counts (r : Report) : ((counts r).map (·.1)).sum = r.results.length := by
  rw [← failed_add_skipped_add_passed]
  unfold counts
  rw [sum_nonzero]
  simp [Nat.add_assoc]

/-! ### Selected cases -/

theorem occursIn_iff (pattern text : List Char) :
    occursIn pattern text = true ↔ pattern <:+: text := by
  induction text with
  | nil =>
    rw [List.infix_nil]
    exact List.isEmpty_iff
  | cons c cs ih =>
    rw [List.infix_cons_iff, ← ih, ← List.isPrefixOf_iff_prefix, ← Bool.or_eq_true]
    rfl

/-- The pattern, if there is one, stands somewhere in the text. -/
def Contains (pattern : Option String) (text : String) : Prop :=
  ∀ p ∈ pattern, p.toList <:+: text.toList

theorem all_occursIn_iff (pattern : Option String) (text : String) :
    pattern.all (fun p => occursIn p.toList text.toList) = true ↔ Contains pattern text := by
  unfold Contains
  cases pattern with
  | none => simp
  | some p => simp [occursIn_iff]

instance (pattern : Option String) (text : String) : Decidable (Contains pattern text) :=
  decidable_of_iff _ (all_occursIn_iff pattern text)

theorem selects_eq (pattern : Option String) (c : Case) :
    selects pattern c = decide (Contains pattern c.fullName) := by
  rw [Bool.eq_iff_iff, decide_eq_true_iff, ← all_occursIn_iff]
  cases pattern <;> rfl

/-- A run with a pattern has those results of the run of all cases whose names contain it. -/
theorem results_filter (options : Options) (pattern : Option String) :
    (cases.filter (selects pattern)).map (resultUnder options) =
      (cases.map (resultUnder options)).filter (Contains pattern ·.fullName) := by
  rw [List.filter_map, funext (selects_eq pattern)]
  rfl

theorem outcomeUnder_eq_skipped {options : Options} {c : Case} {reason : String}
    (h : outcomeUnder options c = .skipped reason) : reason = "host interop disabled" :=
  (((outcomeUnder_iff options c).1 reason).mp h).1

/-- The line of a case has its name, as long as cases are skipped for one reason only. -/
theorem name_eq_of_caseLine_eq {c d : CaseResult}
    (hreason : ∀ r s, c.outcome = .skipped r → d.outcome = .skipped s → r = s)
    (h : caseLine c = caseLine d) : c.name = d.name := by
  have hchars := congrArg String.toList h
  unfold caseLine at h hchars
  cases hc : c.outcome with
  | passed =>
    cases hd : d.outcome with
    | passed =>
      simp only [hc, hd] at h
      exact (String.append_right_inj _).mp h
    | failed m => simp [hc, hd, String.toList_append] at hchars
    | skipped s => simp [hc, hd, String.toList_append] at hchars
  | failed m =>
    cases hd : d.outcome with
    | passed => simp [hc, hd, String.toList_append] at hchars
    | failed m' =>
      simp only [hc, hd] at h
      exact (String.append_right_inj _).mp h
    | skipped s => simp [hc, hd, String.toList_append] at hchars
  | skipped r =>
    cases hd : d.outcome with
    | passed => simp [hc, hd, String.toList_append] at hchars
    | failed m => simp [hc, hd, String.toList_append] at hchars
    | skipped s =>
      simp only [hc, hd, hreason r s hc hd, String.append_left_inj, String.append_right_inj] at h
      exact h

/-- Any selection of the cases can be listed. -/
theorem listable_results (options : Options) {selected : List Case}
    (hselected : selected.Sublist cases) : Listable (selected.map (resultUnder options)) where
  grouped := by
    have hcases : Grouped (cases.map (·.suite)) := grouped_of_pairwise (by decide)
    have hsuites : (selected.map (resultUnder options)).map (·.suite) = selected.map (·.suite) :=
      List.map_map
    rw [hsuites]
    exact hcases.sublist (hselected.map _)
  suite_ne := by
    have hcases : ∀ c ∈ cases, c.suite ≠ "" := by decide
    exact List.forall_mem_map.mpr fun c hc => hcases c (hselected.subset hc)
  suite_heading := by
    have hcases : ∀ c ∈ cases, isCaseLine c.suite = false := by decide
    exact List.forall_mem_map.mpr fun c hc => hcases c (hselected.subset hc)
  lines_nodup := by
    have hnames : (cases.map (·.name)).Nodup := by decide
    have hnames := hnames.sublist (hselected.map _)
    unfold List.Nodup at hnames ⊢
    rw [List.map_map, List.pairwise_map]
    refine (List.pairwise_map.mp hnames).imp fun hne heq => hne ?_
    refine name_eq_of_caseLine_eq (fun r s hr hs => ?_) heq
    rw [outcomeUnder_eq_skipped hr, outcomeUnder_eq_skipped hs]
  names_nodup := by
    have hnames : (cases.map (·.fullName)).Nodup := by decide
    rw [List.map_map]
    exact hnames.sublist (hselected.map _)

/-! ### The command -/

/-- The options of a run: the configured ones, with host interop where the command line asks
for it. -/
def CheckArguments.applied (arguments : CheckArguments) (options : Options) : Options :=
  if arguments.hostInterop then { options with hostInterop := true } else options

/-- What the command does with `report`, the results of the cases that a pattern selects, where
`all` are the results of all cases. -/
structure Reported (pattern : Option String) (all report : Report) (outcome : Outcome) : Prop where
  /-- The selected cases are those whose full name contains the pattern, in order and with the
  outcomes that they have among all. -/
  selected : report.results = all.results.filter (Contains pattern ·.fullName)
  succeeds : outcome.failure = none
  /-- Where none is selected the output says so and the exit code is 0. -/
  unmatched : report.results = [] →
    outcome.code = 0 ∧ ∀ time, outcome.output time = "No cases matched.\n"
  /-- Otherwise the output is the cases under their suites, the failures and the summary. -/
  written : report.results ≠ [] → ∀ time, outcome.output time =
    unlines (suiteLines report.results ++ failureLines report ++ summaryLines report time)
  /-- Each case is listed once, and in order. -/
  listed : (suiteLines report.results).filter isCaseLine = report.results.map caseLine ∧
    ∀ c ∈ report.results, (suiteLines report.results).count (caseLine c) = 1
  /-- Each suite that has a case has one heading, right above its first case. -/
  headed : ∀ s ∈ report.results.map (·.suite), (suiteLines report.results).count s = 1 ∧
    ∃ first before after, report.results.find? (·.suite = s) = some first ∧
      suiteLines report.results = before ++ s :: caseLine first :: after
  /-- Each failed case is named once among the failures, in order. -/
  detailed : (failureLines report).filter isFailureLine =
      (report.results.filter (·.failure?.isSome)).map failureLine ∧
    ∀ c ∈ report.results, c.failure?.isSome = true →
      (failureLines report).count (failureLine c) = 1
  /-- The counts of the summary, none of them zero, add up to the total. -/
  counted : (∀ count ∈ counts report, count.1 ≠ 0) ∧
    ((counts report).map (·.1)).sum = report.results.length
  /-- The exit code is 1 if some case failed and 0 otherwise. -/
  code : outcome.code = if ∃ c ∈ report.results, c.failure?.isSome = true then 1 else 0

theorem of_results_nil {r : Report} (h : r.results = []) : r.hasFailures = false ∧
    ∀ time, Span.renderAll false (reportSpans r time) = "No cases matched.\n" := by
  cases r
  cases h
  exact ⟨rfl, fun _ => rfl⟩

theorem renderAll_reportSpans {r : Report} (h : Listable r.results) (hne : r.results ≠ [])
    (time : String) : Span.renderAll false (reportSpans r time) =
      unlines (suiteLines r.results ++ failureLines r ++ summaryLines r time) := by
  unfold reportSpans
  rw [if_neg (by simpa using hne), Span.renderAll_append, Span.renderAll_append,
    renderAll_resultSpans, renderAll_failureSpans, renderAll_summarySpans, h.linesAfter_start,
    unlines_append, unlines_append]

section Checking

variable {findOptions : Option String → Except Configuration.Failure Options}
  {colored : String → Bool} {arguments : CheckArguments} {options : Options} {report : Report}

theorem checkWith_eq (hoptions : findOptions arguments.config = .ok options)
    (hreport : Conformance.run (arguments.applied options) arguments.pattern = .ok report) :
    checkWith findOptions colored arguments =
      { code := if report.hasFailures then 1 else 0
        output := fun time =>
          Span.renderAll (colored arguments.color) (reportSpans report time) } := by
  unfold CheckArguments.applied at hreport
  unfold checkWith
  rw [hoptions]
  simp only [hreport]

/-- Whatever the arguments are, wherever the options are found and however it is decided about
colours: without colours, the selected cases are reported on. -/
theorem checkWith_reports (hoptions : findOptions arguments.config = .ok options)
    (hplain : colored arguments.color = false) :
    ∃ all report : Report,
      Conformance.run (arguments.applied options) none = .ok all ∧
      Conformance.run (arguments.applied options) arguments.pattern = .ok report ∧
      all.results.map (fun c => (c.suite, c.name)) = cases.map (fun c => (c.suite, c.name)) ∧
      Reported arguments.pattern all report (checkWith findOptions colored arguments) := by
  have hall : cases.filter (selects none) = cases := List.filter_eq_self.mpr fun _ _ => rfl
  have hreport := run_eq (arguments.applied options) arguments.pattern
  have hlist := listable_results (arguments.applied options)
    (List.filter_sublist (p := selects arguments.pattern) (l := cases))
  refine ⟨⟨cases.map (resultUnder (arguments.applied options))⟩, _, ?_, hreport, ?_, ?_⟩
  · rw [run_eq, hall]
  · rw [List.map_map]
    rfl
  rw [checkWith_eq hoptions hreport, hplain]
  exact {
    selected := results_filter _ _
    succeeds := rfl
    unmatched := by
      intro hnil
      obtain ⟨hnone, htext⟩ := of_results_nil hnil
      exact ⟨if_neg (by rw [hnone]; exact Bool.false_ne_true), htext⟩
    written := fun hne => renderAll_reportSpans hlist hne
    listed := ⟨hlist.filter_isCaseLine, fun c hc => hlist.count_caseLine hc⟩
    headed := fun s hs => hlist.heading hs
    detailed := ⟨filter_isFailureLine _, fun c hc => hlist.count_failureLine hc⟩
    counted := ⟨fun count hcount => of_decide_eq_true (List.mem_filter.mp hcount).2, sum_counts _⟩
    code := if_congr hasFailures_iff rfl rfl }

end Checking

/-- The command `check`, without colours, reports each case that the pattern selects once and exits
with 1 exactly if one of them failed. -/
theorem check_reports {env : Environment} {line : List String} {arguments : CheckArguments}
    {options : Options} (hline : Request.ofArguments line = .check arguments)
    (hoptions : Configuration.find env.files arguments.config = .ok options)
    (hplain : (ColorChoice.ofWord arguments.color).isOn env.valueOf = false) :
    ∃ all report : Report,
      Conformance.run (arguments.applied options) none = .ok all ∧
      Conformance.run (arguments.applied options) arguments.pattern = .ok report ∧
      all.results.map (fun c => (c.suite, c.name)) = cases.map (fun c => (c.suite, c.name)) ∧
      Reported arguments.pattern all report (run env line) := by
  have hrun : run env line = check env arguments := by
    rw [run, hline]
  rw [hrun]
  exact checkWith_reports hoptions hplain

/-- A configuration under which the strings of the cases are too short to be lazy. -/
def narrowConfiguration : String := "engine.lazy_string_min_length = 64\n"

/-- A system where that is the default configuration, and no environment variable is set. -/
def narrowSystem : Environment where
  valueOf _ := none
  files path :=
    if path = Configuration.defaultFile then .file narrowConfiguration.toUTF8 else .missing
  platform := ""

theorem narrowSystem_options :
    Configuration.find narrowSystem.files none = .ok { lazyStringMinLength := 64 } := by
  have hparse : Options.ofToml? narrowConfiguration = some { lazyStringMinLength := 64 } := by
    decide +kernel
  have hbytes : String.fromUTF8? narrowConfiguration.toUTF8 = some narrowConfiguration :=
    dif_pos narrowConfiguration.isValidUTF8
  have hfile : narrowSystem.files Configuration.defaultFile = .file narrowConfiguration.toUTF8 := by
    simp only [narrowSystem, ↓reduceIte]
  simp only [Configuration.find, Configuration.discover, Configuration.hasDefault, hfile,
    Configuration.load, Configuration.ofBytes, hbytes, hparse, ↓reduceIte]

/-- There a pattern selects cases of more than one suite. The first of them fails, and the second is
skipped for the want of host interop. -/
theorem check_reports_narrowSystem :
    Request.ofArguments ["check", "arg"] = .check { pattern := some "arg" } ∧
    ∃ all report : Report,
      (∃ c ∈ report.results, c.suite = "arg[0]" ∧ c.failure?.isSome = true) ∧
      (∃ c ∈ report.results, c.suite = "arg[0]" ∧ c.skipReason?.isSome = true) ∧
      (∃ c ∈ report.results, c.suite = "Arity") ∧
      (run narrowSystem ["check", "arg"]).code = 1 ∧
      Reported (some "arg") all report (run narrowSystem ["check", "arg"]) := by
  have hline : Request.ofArguments ["check", "arg"] = .check { pattern := some "arg" } := by decide
  obtain ⟨all, report, -, hreport, -, hreported⟩ := check_reports hline narrowSystem_options rfl
  have hresults : report =
      ⟨(cases.filter (selects (some "arg"))).map (resultUnder { lazyStringMinLength := 64 })⟩ :=
    Except.ok.inj (hreport.symm.trans (run_eq _ _))
  have hmem : ∀ c ∈ cases, selects (some "arg") c = true →
      resultUnder { lazyStringMinLength := 64 } c ∈ report.results := by
    intro c hc hselected
    simp only [hresults]
    exact List.mem_map_of_mem (List.mem_filter.mpr ⟨hc, hselected⟩)
  have hfailed := hmem cases[8] (List.getElem_mem _) (by decide)
  have hfails : (resultUnder { lazyStringMinLength := 64 } cases[8]).failure?.isSome = true :=
    Option.isSome_iff_exists.mpr
      (failure?_of_fails rfl (identityValues_fails (by decide) (by decide)))
  refine ⟨hline, all, report, ⟨_, hfailed, rfl, hfails⟩,
    ⟨_, hmem cases[9] (List.getElem_mem _) (by decide), rfl, ?_⟩,
    ⟨_, hmem cases[10] (List.getElem_mem _) (by decide), rfl⟩, ?_, hreported⟩
  · rw [skipReason?_resultUnder]
    rfl
  · rw [hreported.code]
    exact if_pos ⟨_, hfailed, hfails⟩

end CommandLine
end Invocation
