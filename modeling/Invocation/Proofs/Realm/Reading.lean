/-
# What a lookup chain answers

A walk stops at the first scope that has what it looks for, and needs a limit that
lets it visit the scopes up to there. What the object itself has is found under any
limit but zero. A miss needs room for the whole chain; if there is none the walk
fails, whatever it looks for.

Key theorems: `Realm.property_eq_ok`, `Realm.property_own`, `Realm.property_missing`,
`Realm.property_tooDeep`.
-/
import Invocation.Proofs.Realm.Methods

namespace Invocation
namespace Realm

variable {r : Realm} {start x s : ObjectHandle} {key : PropertyKey} {v : Value} {o : HeapObject}
  {before scopes : List ObjectHandle}

/-! ### Properties -/

theorem property_of_readsAt
    (hr : r.heap.ReadsAt r.options.maxPrototypeDepth start key v before s o) :
    r.property (.object start) key = .ok v := by
  have hfound :
      r.heap.findScope? r.options.maxPrototypeDepth (fun _ o => o.ownProperty? key) start =
      .ok (some v) :=
    Heap.findScopeFrom?_eq_some.mpr ⟨before, s, o, hr.path, hr.within, hr.passes, hr.object, hr.own⟩
  unfold property
  simp only [hfound, Except.map, Option.getD_some]

/-- A value other than Undefined is read exactly if some scope of the chain has it. -/
theorem property_eq_ok (hv : v ≠ .undefined) : r.property (.object start) key = .ok v ↔
    ∃ before s o, r.heap.ReadsAt r.options.maxPrototypeDepth start key v before s o :=
  ⟨readsAt_of_ok hv, fun ⟨_, _, _, hr⟩ => property_of_readsAt hr⟩

theorem property_own (ho : r.heap.object? x = some o) (hv : o.ownProperty? key = some v)
    (hl : 1 ≤ r.options.maxPrototypeDepth) : r.property (.object x) key = .ok v :=
  property_of_readsAt ⟨.stop _, hl, Heap.passes_nil, ho, hv⟩

theorem property_missing (hp : r.heap.Path (some x) scopes none)
    (hl : scopes.length ≤ r.options.maxPrototypeDepth)
    (hno : r.heap.Passes (fun _ o => o.ownProperty? key) scopes) :
    r.property (.object x) key = .ok .undefined := by
  have hnone : r.heap.findScope? r.options.maxPrototypeDepth (fun _ o => o.ownProperty? key) x =
      .ok none :=
    Heap.findScopeFrom?_eq_none.mpr ⟨scopes, hp, hl, hno⟩
  unfold property
  simp only [hnone, Except.map, Option.getD_none]

/-- The receiver of a call that names none, by the options. -/
theorem call_global {callee : Value} {arguments : List Value}
    (hi : r.options.implicitReceiver = .global) : call callee arguments r =
      callWithReceiver callee (.object r.globalObject) arguments r := by
  unfold call implicitReceiver
  rw [hi]

theorem call_undefined {callee : Value} {arguments : List Value}
    (hi : r.options.implicitReceiver = .undefined) : call callee arguments r =
      callWithReceiver callee .undefined arguments r := by
  unfold call implicitReceiver
  rw [hi]

theorem invokeMethod_of_property {receiver callee : Value}
    (hv : r.property receiver key = .ok callee)
    (arguments : List Value) :
    invokeMethod receiver key arguments r = callWithReceiver callee receiver arguments r := by
  rw [invokeMethod, Action.bind_apply]
  simp only [Action.read, hv]

/-- Without room for any scope nothing is read. -/
theorem property_tooDeep (hl : r.options.maxPrototypeDepth = 0) :
    r.property (.object x) key = .error (.chainTooDeep 0) := by
  unfold property
  rw [hl]
  rfl

end Realm
end Invocation
