/-
# Which options the conformance cases pass under

A session can always be started, so every selected case has a result, and the
results stand in the order of the cases (`run_eq`). A case is skipped only for the
want of host interop, and else its result is what its check comes to
(`outcomeUnder_iff`). No case fails exactly if the options have room for what the
cases do: two scopes for a method of an ancestor, two levels for a bound function,
and lazy strings from 43 bytes on (`run_passes_iff`).

Key definitions: `Conformance.outcomeUnder`.
Key theorems: `Conformance.outcomeUnder_iff`, `Conformance.run_eq`, `Conformance.skipped_run`,
`Conformance.run_passes_iff`.
-/
import Invocation.Conformance.Run
import Invocation.Proofs.Conformance.Cases

namespace Invocation
namespace Conformance

open Session

variable {options : Options} {c : Case} {check : Value → Check Unit} {s : Session}

/-! ### Outcomes -/

theorem outcomeOf_eq_passed_iff :
    outcomeOf check s = .passed ↔ (check s.exports).Passes s.realm := by
  unfold outcomeOf Check.Passes
  rcases check s.exports s.realm with ⟨message | u, r'⟩
  · simp
  · simp

/-- What a check failed with is the message that it ended in. -/
theorem outcomeOf_eq_failed_iff {message : String} : outcomeOf check s = .failed message ↔
    ∃ r', check s.exports s.realm = (.error message, r') := by
  unfold outcomeOf
  rcases check s.exports s.realm with ⟨message' | u, r'⟩
  · simp
  · simp

theorem outcomeOf_ne_skipped (check : Value → Check Unit) (s : Session) (reason : String) :
    outcomeOf check s ≠ .skipped reason := by
  unfold outcomeOf
  split <;> exact nofun

/-- What becomes of a case. -/
def outcomeUnder (options : Options) (c : Case) : Outcome :=
  if c.needsHostInterop && !options.hostInterop then .skipped "host interop disabled"
  else outcomeOf c.check (fresh options)

def resultUnder (options : Options) (c : Case) : CaseResult :=
  ⟨c.suite, c.name, outcomeUnder options c⟩

/-- A case is skipped, or it can run and has the outcome of its check in a fresh session. -/
theorem outcomeUnder_cases (options : Options) (c : Case) :
    (c.needsHostInterop = true ∧ options.hostInterop = false ∧
      outcomeUnder options c = .skipped "host interop disabled") ∨
    ((c.needsHostInterop = true → options.hostInterop = true) ∧
      outcomeUnder options c = outcomeOf c.check (fresh options)) := by
  unfold outcomeUnder
  cases hneeds : c.needsHostInterop with
  | false => exact .inr ⟨nofun, if_neg Bool.false_ne_true⟩
  | true =>
    cases hhost : options.hostInterop with
    | false => exact .inl ⟨rfl, rfl, if_pos rfl⟩
    | true => exact .inr ⟨fun _ => rfl, if_neg Bool.false_ne_true⟩

/-- A case is skipped exactly if it needs host interop and there is none. Any other case passed
if its check finds nothing wrong in a fresh session, and failed with the message that the check
ends in. -/
theorem outcomeUnder_iff (options : Options) (c : Case) :
    (∀ reason, outcomeUnder options c = .skipped reason ↔ reason = "host interop disabled" ∧
      c.needsHostInterop = true ∧ options.hostInterop = false) ∧
    (outcomeUnder options c = .passed ↔
      (c.needsHostInterop = true → options.hostInterop = true) ∧
        (c.check (.object exportsHandle)).Passes (holding options [])) ∧
    ∀ message, outcomeUnder options c = .failed message ↔
      (c.needsHostInterop = true → options.hostInterop = true) ∧
        ∃ r', c.check (.object exportsHandle) (holding options []) = (.error message, r') := by
  obtain ⟨hneeds, hhost, h⟩ | ⟨hruns, h⟩ := outcomeUnder_cases options c
  · rw [h]
    simp [hneeds, hhost, eq_comm]
  · rw [h]
    refine ⟨fun reason => ?_, ?_, fun message => ?_⟩
    · constructor
      · exact fun hskipped => absurd hskipped (outcomeOf_ne_skipped _ _ reason)
      · rintro ⟨-, hneeds, hhost⟩
        rw [hruns hneeds] at hhost
        cases hhost
    · rw [outcomeOf_eq_passed_iff]
      exact ⟨fun hpasses => ⟨hruns, hpasses⟩, And.right⟩
    · rw [outcomeOf_eq_failed_iff]
      exact ⟨fun hfails => ⟨hruns, hfails⟩, And.right⟩

/-- A case that can run is not skipped, and one that cannot is. -/
theorem skipReason?_resultUnder (options : Options) (c : Case) :
    (resultUnder options c).skipReason?.isSome = (c.needsHostInterop && !options.hostInterop) := by
  unfold resultUnder CaseResult.skipReason?
  obtain ⟨hneeds, hhost, h⟩ | ⟨hruns, h⟩ := outcomeUnder_cases options c
  · rw [h, hneeds, hhost]
    rfl
  · have hnot : (c.needsHostInterop && !options.hostInterop) = false := by
      cases hneeds : c.needsHostInterop with
      | false => rfl
      | true => rw [hruns hneeds]; rfl
    rw [h, hnot]
    split
    · rename_i reason hskipped
      exact absurd hskipped (outcomeOf_ne_skipped _ _ reason)
    · rfl

/-- A case that passes where it can run has no failure. -/
theorem failure?_of_passes (h : (c.needsHostInterop = true → options.hostInterop = true) →
    (c.check (.object exportsHandle)).Passes (holding options [])) :
    (resultUnder options c).failure? = none := by
  unfold resultUnder CaseResult.failure?
  obtain ⟨-, -, hskipped⟩ | ⟨hruns, -⟩ := outcomeUnder_cases options c
  · rw [hskipped]
  · rw [(outcomeUnder_iff options c).2.1.mpr ⟨hruns, h hruns⟩]

theorem failure?_of_fails (hneeds : c.needsHostInterop = false)
    (h : (c.check (.object exportsHandle)).Fails (holding options [])) :
    ∃ message, (resultUnder options c).failure? = some message := by
  obtain ⟨message, hended⟩ := h
  have hruns : c.needsHostInterop = true → options.hostInterop = true := by
    rw [hneeds]
    exact nofun
  refine ⟨message, ?_⟩
  unfold resultUnder CaseResult.failure?
  rw [((outcomeUnder_iff options c).2.2 message).mpr ⟨hruns, hended⟩]

theorem Report.failed_eq_zero {report : Report} :
    report.failed = 0 ↔ ∀ result ∈ report.results, result.failure? = none := by
  unfold failed
  rw [List.countP_eq_zero]
  refine forall₂_congr fun result _ => ?_
  rw [Bool.not_eq_true, Option.isSome_eq_false_iff, Option.isNone_iff_eq_none]

/-! ### Every case -/

theorem passes_of_adequate (hp : 2 ≤ options.maxPrototypeDepth) (hc : 2 ≤ options.maxCallDepth)
    (hl : options.lazyStringMinLength ≤ 43) :
    ∀ c ∈ cases, (c.needsHostInterop = true → options.hostInterop = true) →
      (c.check (.object exportsHandle)).Passes (holding options []) := by
  have hp1 : 1 ≤ options.maxPrototypeDepth := Nat.le_of_succ_le hp
  have hc1 : 1 ≤ options.maxCallDepth := Nat.le_of_succ_le hc
  simp only [cases, List.forall_mem_cons, List.not_mem_nil, false_imp_iff, implies_true, and_true]
  exact ⟨fun _ => regularCall_passes hp1 hc1, fun _ => constructCall_passes hp1 hc1,
    fun _ => explicitReceiver_passes hp1 hc1, fun _ => implicitReceiver_passes hp1 hc1,
    fun _ => holderIsReceiver_passes hp1 hc1, fun _ => holderIsAncestor_passes hp hc1,
    fun _ => holderOfOwnMethod_passes hp1 hc1, fun _ => holderUndeclared_passes hp hc1,
    fun _ => identityValues_passes hp hc1 hl,
    fun hhost => identityForeign_passes hp hc1 (hhost trivial),
    fun _ => identityArity_passes hp hc1, fun _ => stateless_passes hp hc1,
    fun _ => boundReceiver_passes hp hc, fun _ => boundArguments_passes hp1 hc,
    fun _ => boundConstruct_passes hp hc⟩

/-- Where room is missing some case fails that needs no host interop. -/
theorem fails_of_inadequate (h : ¬ (2 ≤ options.maxPrototypeDepth ∧ 2 ≤ options.maxCallDepth ∧
      options.lazyStringMinLength ≤ 43)) :
    ∃ c ∈ cases, c.needsHostInterop = false ∧
      (c.check (.object exportsHandle)).Fails (holding options []) := by
  -- the scopes come first: without any, a case ends when it looks up its function
  by_cases hp : options.maxPrototypeDepth ≤ 1
  · exact ⟨cases[5], List.getElem_mem _, rfl, holderIsAncestor_fails hp⟩
  have hp1 : 1 ≤ options.maxPrototypeDepth := by omega
  by_cases hc : options.maxCallDepth ≤ 1
  · exact ⟨cases[12], List.getElem_mem _, rfl, boundReceiver_fails hp1 hc⟩
  have hl : 43 < options.lazyStringMinLength := by omega
  exact ⟨cases[8], List.getElem_mem _, rfl, identityValues_fails hp1 hl⟩

/-! ### Runs -/

theorem runCase_eq (options : Options) (c : Case) :
    runCase options c = .ok (resultUnder options c) := by
  unfold runCase resultUnder outcomeUnder
  rw [start_eq]
  split <;> rfl

/-- A run has one result for every selected case, in the order of the cases. -/
theorem run_eq (options : Options) (pattern : Option String) :
    run options pattern = .ok ⟨(cases.filter (selects pattern)).map (resultUnder options)⟩ := by
  have hcases : runCase options = fun c => pure (resultUnder options c) :=
    funext (runCase_eq options)
  unfold run
  rw [hcases, List.mapM_pure]
  rfl

/-- A run skips the selected cases that need host interop where the options leave it out. -/
theorem skipped_run (options : Options) (selected : List Case) :
    Report.skipped ⟨selected.map (resultUnder options)⟩ =
      selected.countP fun c => c.needsHostInterop && !options.hostInterop := by
  unfold Report.skipped
  rw [List.countP_map]
  exact List.countP_congr fun c _ => by
    rw [Function.comp_apply, skipReason?_resultUnder]

/-- A run of all cases has a result for each of them in order, skips one exactly if there is no host
interop, and has no failed one exactly under options with enough room. -/
theorem run_passes_iff (options : Options) : ∃ report, run options none = .ok report ∧
    report.results.map (fun result => (result.suite, result.name)) =
      cases.map (fun c => (c.suite, c.name)) ∧
    report.skipped = (if options.hostInterop then 0 else 1) ∧
    (report.failed = 0 ↔ 2 ≤ options.maxPrototypeDepth ∧ 2 ≤ options.maxCallDepth ∧
      options.lazyStringMinLength ≤ 43) := by
  have hall : cases.filter (selects none) = cases := List.filter_eq_self.mpr fun _ _ => rfl
  refine ⟨⟨cases.map (resultUnder options)⟩, ?_, ?_, ?_, ?_⟩
  · rw [run_eq, hall]
  · rw [List.map_map]
    rfl
  · rw [skipped_run]
    cases options.hostInterop <;> rfl
  · rw [Report.failed_eq_zero, List.forall_mem_map]
    constructor
    · intro hnone
      refine Decidable.not_not.mp fun hnot => ?_
      obtain ⟨c, hc, hneeds, hfails⟩ := fails_of_inadequate hnot
      obtain ⟨message, hsome⟩ := failure?_of_fails hneeds hfails
      rw [hnone c hc] at hsome
      cases hsome
    · rintro ⟨hp, hc, hl⟩ c hmem
      exact failure?_of_passes (passes_of_adequate hp hc hl c hmem)

end Conformance
end Invocation
