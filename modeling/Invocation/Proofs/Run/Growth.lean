/-
# Nothing is lost in a run

Each step of a run, of the host or of an adapter, does nothing to the realm but edits
and the counting of the call depth (`Turn.evolves`), whatever the handles that are used
and however calls fail. So what realms keep is kept over whole runs: objects keep their
identity, their kind and their own properties, and every new handle and every new symbol
is a new one.

Key theorems: `Run.Turns.evolves`, `Run.turns_keep`.
-/
import Invocation.Proofs.Realm.Growth
import Invocation.Proofs.Run.Invariant

namespace Invocation
namespace Run

open Realm (Evolves)

/-! ### Steps -/

variable {r : Realm} {raised : List Fault} {outcome : Except Fault Value} {waiting : List Waiting}
  {s s' : State}

theorem State.evolves_dispatch (mode : CallMode) (callee : Value) (arguments : List Value) :
    Evolves r (dispatch r raised mode callee arguments waiting).realm := by
  obtain ⟨n, hrealm⟩ := realm_dispatch mode callee arguments
  rw [hrealm]
  exact (Realm.edits_openCall mode callee arguments r).evolves.tail (.depth n)

theorem State.evolves_serve (s : State) (c : Call) : Evolves s.realm (s.serve c).realm := by
  rcases s.realm_serve c with hrealm | ⟨mode, callee, arguments, hserve⟩
  · rw [hrealm]
  · rw [hserve]
    exact evolves_dispatch mode callee arguments

theorem State.evolves_advance {a : Activation} (hs : s.control = .adapter a waiting) :
    Evolves s.realm s.advance.realm := by
  refine advance_cases (P := fun s' => Evolves s.realm s'.realm) hs ?_ ?_ ?_
  · intro outcome _
    rw [realm_leave]
    exact .single (.depth _)
  · intro callee receiver arguments next _
    exact evolves_dispatch (.plain receiver) callee arguments
  · intro op next hleaf _
    exact (op.respond_edits hleaf s.realm).evolves

theorem Turn.evolves (h : Turn s s') : Evolves s.realm s'.realm := by
  cases h with
  | task t _ => exact (t.act_edits _).evolves
  | call c _ => exact s.evolves_serve c
  | adapter hs => exact State.evolves_advance hs

/-- A run evolves its realm. -/
theorem Turns.evolves (h : Turns s s') : Evolves s.realm s'.realm := by
  induction h with
  | refl => exact .refl
  | tail _ step ih => exact ih.trans step.evolves

/-! ### Whole runs -/

/-- Nothing is lost in a run, and what is new is new. Whatever the host and adapters do from some
state of a run to a later one, failing or not, they only edit the realm: every object stays, with
its kind, as the function that it is, with as many elements, and with its own properties; and every
symbol stays with its description. As long as there are fewer objects than handles and fewer
symbols than ids, a new object or symbol was not in the realm before, is none of the well-known
symbols and is there ever after; so two that were introduced one after the other are different. And
whether a value can be called, is a bound function or constructs does not change if it is no
dangling handle. -/
theorem turns_keep {options : Options} (hs : Turns (.start options) s) (hrun : Turns s s')
    (hsize : s'.realm.heap.size < UInt32.size) (hsymbols : s'.realm.symbols.size < UInt32.size) :
    Evolves s.realm s'.realm ∧ s.realm.GrowsTo s'.realm ∧
    (∀ v r r', Evolves s.realm r → r.Introduces v r' → Evolves r' s'.realm →
      ¬ r.Names v ∧ (∀ w : WellKnownSymbol, v ≠ .symbol w.id) ∧
        ∀ r'', Evolves r' r'' → r''.Names v) ∧
    (∀ v v' r1 r1' r2 r2', Evolves s.realm r1 → r1.Introduces v r1' → Evolves r1' r2 →
      r2.Introduces v' r2' → Evolves r2' s'.realm → v ≠ v') ∧
    (∀ v : Value, (∀ x ∈ v.handles, s.realm.heap.Contains x) →
      s'.realm.isCallable v = s.realm.isCallable v ∧
      s'.realm.isBoundFunction v = s.realm.isBoundFunction v ∧
      s'.realm.isConstructor v = s.realm.isConstructor v) := by
  have hstart : Evolves (.ofOptions options) s.realm := hs.evolves
  have hevolves : Evolves s.realm s'.realm := hrun.evolves
  have hgrows := hevolves.growsTo
  have fresh : ∀ {v : Value} {r r' : Realm}, r.Introduces v r' → Evolves r' s'.realm →
      ¬ r.Names v ∧ r'.Names v :=
    fun hnew hrest => hnew.fresh (Nat.lt_of_le_of_lt hrest.growsTo.size hsize)
      (Nat.lt_of_le_of_lt hrest.growsTo.symbols hsymbols)
  refine ⟨hevolves, hgrows, ?_, ?_, ?_⟩
  · intro v r r' hr hnew hrest
    obtain ⟨hbefore, hafter⟩ := fresh hnew hrest
    refine ⟨hbefore, ?_, fun r'' hlater => hlater.growsTo.names hafter⟩
    rintro w rfl
    exact hbefore (Realm.hasSymbol_wellKnown (hstart.trans hr) w)
  · rintro v v' r1 r1' r2 r2' - hnew hbetween hnew' hrest rfl
    -- what was introduced first is still there when the other one is
    have hafter : r1'.Names v := (fresh hnew (hbetween.trans (hnew'.evolves.trans hrest))).2
    exact (fresh hnew' hrest).1 (hbetween.growsTo.names hafter)
  · intro v hv
    have hgrounded := hstart.grounded (Realm.grounded_ofOptions options)
    exact ⟨hgrows.isCallable hv, hgrows.isBoundFunction hv, hgrows.isConstructor hgrounded hv⟩

/-- The nesting function, and the array of its first call. -/
theorem nested_keeps :
    ((State.start {}).perform (.instantiate nesting)).realm.GrowsTo nested.realm ∧
      nested.realm.isCallable (.object ⟨4⟩) = true ∧ nested.realm.Names (.object ⟨5⟩) := by
  let made : State := (State.start {}).perform (.instantiate nesting)
  let called : State := made.serve (.callWithReceiver (.object ⟨4⟩) (.object ⟨0⟩) [])
  have hs : Turns (.start {}) made := .single (.task (.instantiate nesting) rfl)
  have hcall : Turn made called := .call (.callWithReceiver (.object ⟨4⟩) (.object ⟨0⟩) []) rfl
  have hrest : Turns called.advance nested := .head (.adapter rfl) (.single (.adapter rfl))
  have hrun : Turns made nested := .head hcall (.head (.adapter rfl) hrest)
  obtain ⟨-, hgrows, hfresh, -, hsame⟩ := turns_keep hs hrun (by decide) (by decide)
  have harray : called.realm.Introduces (.object ⟨5⟩) called.advance.realm :=
    .object (.array [.object ⟨0⟩]) rfl
  refine ⟨hgrows, ?_, ?_⟩
  · rw [(hsame (.object ⟨4⟩) (by decide)).1]
    rfl
  · exact (hfresh _ _ _ hcall.evolves harray hrest.evolves).2.2 _ hrest.evolves

end Run
end Invocation
