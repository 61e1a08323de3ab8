/-
# Following checks

A check passes if it finds nothing wrong, and fails if it ends in a message. A
check made of others is followed step by step: each step has one equation for its
good outcome, and `Passes.bind` and `Fails.bind` go on behind it with the realm
that it leaves.

What a comparison demands is known exactly: two values pass only if they are the same
(`expectSame_passes_iff`), and an action that has to fail passes only with a fault of
the kind that is wanted (`expectFault_passes_iff`).

Key definitions: `Check.Passes`, `Check.Fails`.
Key theorems: `Check.Passes.bind`, `Check.Fails.bind`, `expectSame_passes_iff`,
`expectField_passes_iff`, `expectFault_passes_iff`.
-/
import Invocation.Conformance.Check
import Invocation.Proofs.Value.Equality

namespace Invocation

namespace Conformance
namespace Check

variable {α β : Type} {r r' : Realm}

/-- The check finds nothing wrong. -/
def Passes (x : Check Unit) (r : Realm) : Prop := ∃ r', x r = (.ok (), r')

/-- The check finds something wrong. -/
def Fails (x : Check Unit) (r : Realm) : Prop := ∃ message r', x r = (.error message, r')

theorem bind_apply (x : Check α) (k : α → Check β) (r : Realm) : (x >>= k) r = match x r with
    | (.ok a, r') => k a r'
    | (.error m, r') => (.error m, r') := rfl

theorem Passes.bind {x : Check α} {k : α → Check Unit} {a : α} (hx : x r = (.ok a, r'))
    (hk : (k a).Passes r') : (x >>= k).Passes r := by
  obtain ⟨r'', hk⟩ := hk
  refine ⟨r'', ?_⟩
  rw [bind_apply, hx]
  exact hk

theorem Fails.bind {x : Check α} {k : α → Check Unit} {a : α} (hx : x r = (.ok a, r'))
    (hk : (k a).Fails r') : (x >>= k).Fails r := by
  obtain ⟨m, r'', hk⟩ := hk
  refine ⟨m, r'', ?_⟩
  rw [bind_apply, hx]
  exact hk

/-- A check fails with its first step that does. -/
theorem Fails.first {x : Check α} {k : α → Check Unit} {m : String} (hx : x r = (.error m, r')) :
    (x >>= k).Fails r := by
  refine ⟨m, r', ?_⟩
  rw [bind_apply, hx]

/-- A check that would end in a message under some condition. -/
theorem Passes.unless {c : Prop} [Decidable c] {x y : Check Unit} (hc : ¬ c) (hy : y.Passes r) :
    (if c then x else y).Passes r := by
  rw [if_neg hc]
  exact hy

theorem Fails.when {c : Prop} [Decidable c] {m : String} {y : Check Unit} (hc : c) :
    (if c then Check.fail m else y).Fails r := by
  rw [if_pos hc]
  exact ⟨m, r, rfl⟩

/-! ### Steps -/

theorem run_ok {x : Action α} {a : α} (hx : x r = (.ok a, r')) : run x r = (.ok a, r') := by
  unfold run
  rw [hx]

theorem run_error {x : Action α} {e : Fault} (hx : x r = (.error e, r')) :
    run x r = (.error ("unexpected " ++ e.summary), r') := by
  unfold run
  rw [hx]

theorem look_ok {q : Realm → Except Fault α} {a : α} (hq : q r = .ok a) : look q r = (.ok a, r) :=
  run_ok (by rw [Action.read, hq])

theorem look_error {q : Realm → Except Fault α} {e : Fault} (hq : q r = .error e) :
    look q r = (.error ("unexpected " ++ e.summary), r) :=
  run_error (by rw [Action.read, hq])

end Check

open Check

variable {r r' : Realm}

/-- Values that are not the same are told apart, in a message that describes both. -/
theorem expectSame_cases (what : String) (actual expected : Value) (r : Realm) :
    (actual.sameValue expected = true ∧ expectSame what actual expected r = (.ok (), r)) ∨
      (actual.sameValue expected = false ∧ expectSame what actual expected r =
        (.error (what ++ ": expected " ++ r.describe expected ++ ", got " ++ r.describe actual),
          r)) := by
  unfold expectSame
  cases hsame : actual.sameValue expected with
  | true => exact .inl ⟨rfl, if_pos rfl⟩
  | false => exact .inr ⟨rfl, if_neg Bool.false_ne_true⟩

theorem expectSame_ok {what : String} {actual expected : Value} (h : actual = expected) :
    expectSame what actual expected r = (.ok (), r) := by
  obtain ⟨-, hok⟩ | ⟨hdiffer, -⟩ := expectSame_cases what actual expected r
  · exact hok
  · rw [h, expected.sameValue_refl] at hdiffer
    cases hdiffer

theorem expectSame_passes_iff {what : String} {actual expected : Value} :
    (expectSame what actual expected).Passes r ↔ actual.sameValue expected = true := by
  obtain ⟨hsame, hok⟩ | ⟨hdiffer, herror⟩ := expectSame_cases what actual expected r
  · exact ⟨fun _ => hsame, fun _ => ⟨r, hok⟩⟩
  · constructor
    · rintro ⟨r', hok⟩
      rw [herror] at hok
      cases (Prod.mk.inj hok).1
    · intro hsame
      rw [hdiffer] at hsame
      cases hsame

theorem expectField_ok {target expected : Value} {key : String}
    (hv : r.property target key = .ok expected) :
    expectField target key expected r = (.ok (), r) := by
  unfold expectField
  rw [bind_apply, look_ok hv]
  exact expectSame_ok rfl

/-- A property passes only with the value that it has to be. -/
theorem expectField_passes_iff {target expected : Value} {key : String} :
    (expectField target key expected).Passes r ↔
      ∃ v, r.property target key = .ok v ∧ v.sameValue expected = true := by
  unfold expectField
  cases hv : r.property target key with
  | error e =>
    constructor
    · rintro ⟨r', hok⟩
      rw [bind_apply, look_error hv] at hok
      cases (Prod.mk.inj hok).1
    · rintro ⟨v, hv', -⟩
      cases hv'
  | ok v =>
    have hstep : (Check.look (·.property target key) >>= (expectSame key · expected)) r =
        expectSame key v expected r := by
      rw [bind_apply, look_ok hv]
    unfold Passes
    rw [hstep]
    refine expectSame_passes_iff.trans ⟨fun hsame => ⟨v, rfl, hsame⟩, ?_⟩
    rintro ⟨w, hw, hsame⟩
    cases hw
    exact hsame

theorem expectFault_ok {x : Action Value} {kind : Fault.Kind} {e : Fault}
    (hx : x r = (.error e, r')) (hk : e.kind = kind) :
    expectFault x kind r = (.ok (), r') := by
  have hout : Check.outcome x r = (.ok (.error e), r') := by
    unfold Check.outcome
    rw [hx]
  unfold expectFault
  rw [bind_apply, hout]
  simp only [hk, ↓reduceIte]
  rfl

/-- Only a fault of the kind passes, neither another one nor a value. -/
theorem expectFault_passes_iff {x : Action Value} {kind : Fault.Kind} :
    (expectFault x kind).Passes r ↔ ∃ e r', x r = (.error e, r') ∧ e.kind = kind := by
  constructor
  · rintro ⟨r1, hok⟩
    unfold expectFault at hok
    rw [bind_apply] at hok
    rcases hx : x r with ⟨e | v, r'⟩
    · have hout : Check.outcome x r = (.ok (.error e), r') := by
        unfold Check.outcome
        rw [hx]
      rw [hout] at hok
      refine ⟨e, r', rfl, Decidable.byContradiction fun hk => ?_⟩
      simp only [hk, ↓reduceIte] at hok
      cases (Prod.mk.inj hok).1
    · have hout : Check.outcome x r = (.ok (.ok v), r') := by
        unfold Check.outcome
        rw [hx]
      rw [hout] at hok
      cases (Prod.mk.inj hok).1
  · rintro ⟨e, r', hx, hk⟩
    exact ⟨r', expectFault_ok hx hk⟩

end Conformance
end Invocation
