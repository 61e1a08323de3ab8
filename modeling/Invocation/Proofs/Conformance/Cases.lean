/-
# Every conformance case, followed to its end

Each case is run in the realm of a fresh session. What it needs of the options is
how many scopes its walks visit and how many levels its calls take: a look-up of an
export visits one scope, a miss on an object visits two, and a bound function takes
two levels. The theorems `*_passes` state these needs. For three cases `*_fails` states
that nothing less will do: one for the scopes, one for the levels, and one for the
length from which strings are lazy.

Key theorems: `Conformance.holderIsAncestor_passes`, `Conformance.holderIsAncestor_fails`,
`Conformance.boundReceiver_fails`, `Conformance.identityValues_fails`.
-/
import Invocation.Conformance.Cases
import Invocation.Proofs.Conformance.Check
import Invocation.Proofs.Session
import Invocation.Proofs.Text.Rope

namespace Invocation
namespace Conformance

open Realm Check Session

variable {options : Options} {more : List HeapObject} {x : ObjectHandle} {i : Nat} {o : HeapObject}

theorem inspecting_ok (hp : 1 ≤ options.maxPrototypeDepth) :
    inspecting (.object exportsHandle) (holding options more) =
      (.ok (.object inspectingHandle), holding options more) :=
  look_ok (exportFrom_inspecting hp)

theorem identity_ok (hp : 1 ≤ options.maxPrototypeDepth) :
    identity (.object exportsHandle) (holding options more) =
      (.ok (.object identityHandle), holding options more) :=
  look_ok (exportFrom_identity hp)

/-- An own property of an added object. -/
theorem expectField_own {key : String} {expected : Value} (hp : 1 ≤ options.maxPrototypeDepth)
    (hx : x.index.toNat = i + 8) (ho : more[i]? = some o)
    (hv : o.ownProperty? key = some expected) :
    expectField (.object x) key expected (holding options more) = (.ok (), holding options more) :=
  expectField_ok (property_own (object?_added hx ho) hv hp)

/-- An added object that declares the inspecting function is inspected. -/
theorem inspect_ok (hp : 1 ≤ options.maxPrototypeDepth) (hc : 1 ≤ options.maxCallDepth)
    (hx : x.index.toNat = i + 8) (ho : more[i]? = some o)
    (hd : o.declares [inspectingHandle] = true) :
    Check.run (callWithReceiver (.object inspectingHandle) (.object x) []) (holding options more) =
      (.ok .undefined, holding options (more.modify i (Inspect.record (seenPlain x x [])))) :=
  run_ok (callInspecting_holding unwraps_inspecting hc rfl hx
    (Heap.holder_own (object?_added hx ho) hd hp))

/-! ### Whether a call constructs -/

theorem regularCall_passes (hp : 1 ≤ options.maxPrototypeDepth) (hc : 1 ≤ options.maxCallDepth) :
    (regularCall (.object exportsHandle)).Passes (holding options []) := by
  refine .bind (inspecting_ok hp) ?_
  refine .bind (run_ok createObject_holding) ?_
  refine .bind (run_ok (installMethod_holding rfl rfl)) ?_
  refine .bind (inspect_ok hp hc rfl rfl rfl) ?_
  exact ⟨_, expectField_own hp rfl rfl Inspect.isConstructCall_record⟩

theorem constructCall_passes (hp : 1 ≤ options.maxPrototypeDepth) (hc : 1 ≤ options.maxCallDepth) :
    (constructCall (.object exportsHandle)).Passes (holding options []) := by
  refine .bind (inspecting_ok hp) ?_
  refine .bind (run_ok createObject_holding) ?_
  refine .bind (run_ok (constructInspecting_holding unwraps_inspecting hc hp (by decide))) ?_
  refine .bind (expectField_own hp rfl rfl Inspect.isConstructCall_record) ?_
  exact ⟨_, expectField_own hp rfl rfl Inspect.thisValue_record⟩

/-! ### The receiver -/

theorem explicitReceiver_passes (hp : 1 ≤ options.maxPrototypeDepth)
    (hc : 1 ≤ options.maxCallDepth) :
    (explicitReceiver (.object exportsHandle)).Passes (holding options []) := by
  refine .bind (inspecting_ok hp) ?_
  refine .bind (run_ok (createRecord_holding _)) ?_
  refine .bind (run_ok (installMethod_holding rfl rfl)) ?_
  refine .bind (inspect_ok hp hc rfl rfl rfl) ?_
  exact ⟨_, expectField_own hp rfl rfl Inspect.thisValue_record⟩

/-! ### The holder -/

theorem holderIsReceiver_passes (hp : 1 ≤ options.maxPrototypeDepth)
    (hc : 1 ≤ options.maxCallDepth) :
    (holderIsReceiver (.object exportsHandle)).Passes (holding options []) := by
  refine .bind (inspecting_ok hp) ?_
  refine .bind (run_ok (createRecord_holding _)) ?_
  refine .bind (run_ok (installMethod_holding rfl rfl)) ?_
  refine .bind (inspect_ok hp hc rfl rfl rfl) ?_
  exact ⟨_, expectField_own hp rfl rfl Inspect.holderValue_record⟩

/-- The function is declared by the second scope of the receiver's chain. -/
theorem holderIsAncestor_passes (hp : 2 ≤ options.maxPrototypeDepth)
    (hc : 1 ≤ options.maxCallDepth) :
    (holderIsAncestor (.object exportsHandle)).Passes (holding options []) := by
  have hp1 : 1 ≤ options.maxPrototypeDepth := Nat.le_of_succ_le hp
  refine .bind (inspecting_ok hp1) ?_
  refine .bind (run_ok createObject_holding) ?_
  refine .bind (run_ok (installMethod_holding rfl rfl)) ?_
  refine .bind (run_ok (createObjectWithPrototype_holding _)) ?_
  refine .bind (run_ok (setProperty_holding rfl rfl (by decide))) ?_
  refine .bind (run_ok (setProperty_holding rfl rfl (by decide))) ?_
  refine .bind (run_ok (callInspecting_holding unwraps_inspecting hc rfl rfl
    (Heap.holder_at (.scope (object?_added rfl rfl) (.stop _)) hp ?_
      ⟨_, object?_added rfl rfl, rfl⟩))) ?_
  · exact List.forall_mem_singleton.mpr (Heap.not_declares (object?_added rfl rfl) rfl)
  refine .bind (expectField_own hp1 rfl rfl Inspect.thisValue_record) ?_
  refine .bind (expectField_own hp1 rfl rfl Inspect.holderValue_record) ?_
  exact .bind (look_ok rfl) ⟨_, rfl⟩

/-- With room for one scope only, the walk cannot go on to the ancestor; with room for none, not
even the function is found. -/
theorem holderIsAncestor_fails (hp : options.maxPrototypeDepth ≤ 1) :
    (holderIsAncestor (.object exportsHandle)).Fails (holding options []) := by
  rcases Nat.le_one_iff_eq_zero_or_eq_one.mp hp with hp0 | hp1
  · exact .first (look_error (exportFrom_tooDeep hp0 _))
  refine .bind (inspecting_ok (Nat.le_of_eq hp1.symm)) ?_
  refine .bind (run_ok createObject_holding) ?_
  refine .bind (run_ok (installMethod_holding rfl rfl)) ?_
  refine .bind (run_ok (createObjectWithPrototype_holding _)) ?_
  refine .bind (run_ok (setProperty_holding rfl rfl (by decide))) ?_
  refine .bind (run_ok (setProperty_holding rfl rfl (by decide))) ?_
  rcases Nat.eq_zero_or_pos options.maxCallDepth with hc | hc
  · exact .first (run_error (callWithReceiver_exceeded unwraps_inspecting
      (Nat.lt_of_le_of_lt (Nat.le_of_eq hc) Nat.one_pos) _ _))
  · refine .first (run_error (callWithReceiver_unheld unwraps_inspecting hc hc
      (Heap.holder_tooDeep (.scope (object?_added rfl rfl) (.stop _)) ?_ ?_) _))
    · exact hp1.symm
    · exact List.forall_mem_singleton.mpr (Heap.not_declares (object?_added rfl rfl) rfl)

theorem holderOfOwnMethod_passes (hp : 1 ≤ options.maxPrototypeDepth)
    (hc : 1 ≤ options.maxCallDepth) :
    (holderOfOwnMethod (.object exportsHandle)).Passes (holding options []) := by
  refine .bind (inspecting_ok hp) ?_
  refine .bind (run_ok createObject_holding) ?_
  refine .bind (run_ok (installMethod_holding rfl rfl)) ?_
  refine .bind (run_ok (Eq.trans
    (invokeMethod_of_property (property_own (object?_added rfl rfl) rfl hp) _)
    (callInspecting_holding unwraps_inspecting hc rfl rfl
      (Heap.holder_own (object?_added rfl rfl) rfl hp)))) ?_
  exact ⟨_, expectField_own hp rfl rfl Inspect.holderValue_record⟩

/-- The search for a holder takes the receiver's whole chain. -/
theorem holderUndeclared_passes (hp : 2 ≤ options.maxPrototypeDepth)
    (hc : 1 ≤ options.maxCallDepth) :
    (holderUndeclared (.object exportsHandle)).Passes (holding options []) := by
  refine .bind (inspecting_ok (Nat.le_of_succ_le hp)) ?_
  refine .bind (run_ok (createRecord_holding _)) ?_
  refine .bind (expectFault_ok (callInspecting_unheld hp hc rfl rfl rfl rfl) rfl) ?_
  exact .bind (look_ok rfl) ⟨_, rfl⟩

/-- The global object is made to declare the function; with no implicit receiver there is
no holder. -/
theorem implicitReceiver_passes (hp : 1 ≤ options.maxPrototypeDepth)
    (hc : 1 ≤ options.maxCallDepth) :
    (implicitReceiver (.object exportsHandle)).Passes (holding options []) := by
  have himplicit : Check.run (Action.inspect (·.options.implicitReceiver)) (holding options []) =
      (.ok options.implicitReceiver, holding options []) := rfl
  refine .bind (inspecting_ok hp) (.bind himplicit ?_)
  cases hi : options.implicitReceiver with
  | undefined =>
    have hunheld : call (.object inspectingHandle) [] (holding options []) =
        (.error (.binding Inspect.functionName), holding options []) :=
      Eq.trans (call_undefined hi) (callWithReceiver_unheld unwraps_inspecting hc hc rfl [])
    exact ⟨_, expectFault_ok hunheld rfl⟩
  | global =>
    refine .bind (run_ok rfl) ?_
    refine .bind (run_ok (installMethod_name hasFunction_inspecting global_holding (by decide))) ?_
    refine .bind (run_ok (Eq.trans (call_global hi) (call_inspecting rfl (.native rfl rfl) hc hc rfl
      (Heap.holder_own rfl rfl hp)))) ?_
    exact ⟨_, expectField_ok (property_own (Heap.object?_modify_self rfl)
      Inspect.thisValue_record hp)⟩

/-! ### Arguments -/

/-- Handing values back one by one, where a call does that. -/
theorem expectIdentity_ok {r : Realm} {function : Value}
    (hid : ∀ v, call function [v] r = (.ok v, r)) :
    ∀ vs : List Value, expectIdentity function vs r = (.ok (), r)
  | [] => rfl
  | v :: vs => by
    unfold expectIdentity
    rw [bind_apply, run_ok (hid v)]
    simp only
    rw [bind_apply, expectSame_ok rfl]
    exact expectIdentity_ok hid vs

/-- The two texts that the case joins have 43 bytes. -/
theorem concat_joined (options : Options) : ∃ s : Rope,
    (holding options []).concat (.text "aaaaaaaaaaaaaaaaaaaa") (.text "bbbbbbbbbbbbbbbbbbbbbbb") =
      .ok (.string s) ∧ s.isLazy = decide (options.lazyStringMinLength ≤ 43) := by
  let a : Rope := .flat "aaaaaaaaaaaaaaaaaaaa"
  let b : Rope := .flat "bbbbbbbbbbbbbbbbbbbbbbb"
  have hsum : a.length.toNat + b.length.toNat = 43 := by decide
  have hjoin : Rope.checkedConcat options.lazyStringMinLength a b =
      .ok (Rope.concat options.lazyStringMinLength a b) := by
    refine Rope.checkedConcat_of_fits (fun _ _ => ?_) (fun _ _ _ => ?_)
    · rw [hsum]
      decide
    · rw [hsum]
      decide
  refine ⟨_, congrArg (Except.map Value.string) hjoin, ?_⟩
  rw [Rope.concat_nonempty (by decide) (by decide), Rope.length_add (by rw [hsum]; decide), hsum]
  split
  · rename_i hflat
    exact (decide_eq_false (Nat.not_le.mpr hflat)).symm
  · rename_i hlazy
    exact (decide_eq_true (Nat.not_lt.mp hlazy)).symm

theorem identityValues_passes (hp : 2 ≤ options.maxPrototypeDepth) (hc : 1 ≤ options.maxCallDepth)
    (hl : options.lazyStringMinLength ≤ 43) :
    (identityValues (.object exportsHandle)).Passes (holding options []) := by
  obtain ⟨s, hjoin, hlazy⟩ := concat_joined options
  have hlong : ¬ (!((Value.string s).string?.any (·.isLazy))) = true := by
    show ¬ (!s.isLazy) = true
    rw [hlazy, decide_eq_true hl]
    decide
  refine .bind (identity_ok (Nat.le_of_succ_le hp)) ?_
  refine .bind (look_ok hjoin) (.unless hlong ?_)
  refine .bind (run_ok (createRecord_holding _)) ?_
  refine .bind (run_ok (createArray_holding _)) ?_
  exact ⟨_, expectIdentity_ok (fun v => callIdentity_holding hp hc) _⟩

/-- Where lazy strings begin with a longer text, the joined text is not lazy. -/
theorem identityValues_fails (hp : 1 ≤ options.maxPrototypeDepth)
    (hl : 43 < options.lazyStringMinLength) :
    (identityValues (.object exportsHandle)).Fails (holding options []) := by
  obtain ⟨s, hjoin, hlazy⟩ := concat_joined options
  have hflat : (!((Value.string s).string?.any (·.isLazy))) = true := by
    show (!s.isLazy) = true
    rw [hlazy, decide_eq_false (Nat.not_le.mpr hl)]
    rfl
  exact .bind (identity_ok hp) (.bind (look_ok hjoin) (.when hflat))

theorem identityForeign_passes (hp : 2 ≤ options.maxPrototypeDepth)
    (hc : 1 ≤ options.maxCallDepth) (hh : options.hostInterop = true) :
    (identityForeign (.object exportsHandle)).Passes (holding options []) := by
  refine .bind (identity_ok (Nat.le_of_succ_le hp)) ?_
  refine .bind (run_ok (createForeign_eq hh)) ?_
  refine .bind (run_ok (createForeign_eq hh)) ?_
  refine .bind (expectIdentity_ok (fun v => callIdentity_holding hp hc) _) ?_
  exact .unless Bool.false_ne_true ⟨_, rfl⟩

theorem identityArity_passes (hp : 2 ≤ options.maxPrototypeDepth) (hc : 1 ≤ options.maxCallDepth) :
    (identityArity (.object exportsHandle)).Passes (holding options []) := by
  refine .bind (identity_ok (Nat.le_of_succ_le hp)) ?_
  exact ⟨_, expectFault_ok (callIdentity_holding hp hc) rfl⟩

/-! ### Nothing is kept between calls -/

theorem stateless_passes (hp : 2 ≤ options.maxPrototypeDepth) (hc : 1 ≤ options.maxCallDepth) :
    (stateless (.object exportsHandle)).Passes (holding options []) := by
  have hp1 : 1 ≤ options.maxPrototypeDepth := Nat.le_of_succ_le hp
  refine .bind (identity_ok hp1) ?_
  refine .bind (inspecting_ok hp1) ?_
  refine .bind (run_ok (callIdentity_holding hp hc)) ?_
  refine .bind (run_ok (callIdentity_holding hp hc)) ?_
  refine .bind (expectSame_ok rfl) (.bind (expectSame_ok rfl) ?_)
  refine .bind (run_ok createObject_holding) ?_
  refine .bind (run_ok (installMethod_holding rfl rfl)) ?_
  refine .bind (inspect_ok hp1 hc rfl rfl rfl) ?_
  refine .bind (run_ok (constructInspecting_holding unwraps_inspecting hc hp1 (by decide))) ?_
  refine .bind (expectField_own hp1 rfl rfl Inspect.isConstructCall_record) ?_
  refine .bind (expectField_own hp1 rfl rfl Inspect.isConstructCall_record) ?_
  exact ⟨_, expectField_own hp1 rfl rfl Inspect.thisValue_record⟩

/-! ### Bound functions -/

/-- A property that an added object and the prototype of objects have not. -/
theorem expectField_missing {key : String} (hp : 2 ≤ options.maxPrototypeDepth)
    (hx : x.index.toNat = i + 8) (ho : more[i]? = some o) (hproto : o.prototype = some ⟨0⟩)
    (hv : o.ownProperty? key = none) :
    expectField (.object x) key .undefined (holding options more) =
      (.ok (), holding options more) :=
  expectField_ok (property_added_missing hp hx ho hproto hv)

theorem boundReceiver_passes (hp : 2 ≤ options.maxPrototypeDepth) (hc : 2 ≤ options.maxCallDepth) :
    (boundReceiver (.object exportsHandle)).Passes (holding options []) := by
  have hp1 : 1 ≤ options.maxPrototypeDepth := Nat.le_of_succ_le hp
  refine .bind (inspecting_ok hp1) ?_
  refine .bind (run_ok createObject_holding) ?_
  refine .bind (run_ok createObject_holding) ?_
  refine .bind (run_ok (installMethod_holding rfl rfl)) ?_
  refine .bind (run_ok (bind_holding hp1 (by decide) (by decide) rfl signature_inspecting
    (by decide))) ?_
  refine .bind (run_ok (callInspecting_holding (unwraps_bound rfl rfl rfl rfl) hc rfl rfl
    (Heap.holder_own (object?_added rfl rfl) rfl hp1))) ?_
  refine .bind (expectField_own hp1 rfl rfl Inspect.thisValue_record) ?_
  exact ⟨_, expectField_missing hp rfl rfl rfl rfl⟩

/-- A call of a bound function takes two levels, one for its layer. -/
theorem boundReceiver_fails (hp : 1 ≤ options.maxPrototypeDepth) (hc : options.maxCallDepth ≤ 1) :
    (boundReceiver (.object exportsHandle)).Fails (holding options []) := by
  refine .bind (inspecting_ok hp) ?_
  refine .bind (run_ok createObject_holding) ?_
  refine .bind (run_ok createObject_holding) ?_
  refine .bind (run_ok (installMethod_holding rfl rfl)) ?_
  refine .bind (run_ok (bind_holding hp (by decide) (by decide) rfl signature_inspecting
    (by decide))) ?_
  exact .first (run_error (callWithReceiver_exceeded (unwraps_bound rfl rfl rfl rfl)
    (Nat.lt_succ_of_le hc) _ _))

theorem boundConstruct_passes (hp : 2 ≤ options.maxPrototypeDepth) (hc : 2 ≤ options.maxCallDepth) :
    (boundConstruct (.object exportsHandle)).Passes (holding options []) := by
  have hp1 : 1 ≤ options.maxPrototypeDepth := Nat.le_of_succ_le hp
  have hten : 10 < UInt32.size := by decide
  refine .bind (inspecting_ok hp1) ?_
  refine .bind (run_ok createObject_holding) ?_
  refine .bind (run_ok (bind_holding hp1 (by decide) (by decide) rfl signature_inspecting
    (by decide))) ?_
  refine .bind (run_ok (constructInspecting_holding (unwraps_bound rfl rfl rfl rfl) hc hp1 hten)) ?_
  refine .bind (expectField_own hp1 rfl rfl Inspect.isConstructCall_record) ?_
  refine .bind (expectField_own hp1 rfl rfl Inspect.thisValue_record) ?_
  exact ⟨_, expectField_missing hp rfl rfl rfl rfl⟩

/-- The symbol that is made stays among the bound arguments. The bound receiver is undefined, so no
scope is searched for a holder. -/
theorem boundArguments_passes (hp : 1 ≤ options.maxPrototypeDepth)
    (hc : 2 ≤ options.maxCallDepth) :
    (boundArguments (.object exportsHandle)).Passes (holding options []) := by
  let token : Value := .symbol ⟨(holding options []).symbols.size.toUInt32⟩
  let b : BoundFunction := ⟨identityHandle, .undefined, [token]⟩
  let r : Realm := { holding options [] with
    symbols := (holding options []).symbols.push (some "token") }
  have hidentity : r.heap.object? identityHandle = loadedObjects[7]? := rfl
  have hsize : r.heap.size < UInt32.size := by
    show (holding options []).heap.size < UInt32.size
    rw [size_holding]
    decide
  have hbind : ∃ o : HeapObject, o.kind = .bound b ∧
      bind (.object identityHandle) .undefined [token] r =
        (.ok (.object ⟨8⟩), r.onHeap fun h => (h.alloc o).2) :=
    ⟨_, rfl, bind_object hidentity rfl
      (binds_own hidentity signature_identity (by decide) hp _) hsize⟩
  obtain ⟨o, hk, hbind⟩ := hbind
  let r' : Realm := r.onHeap fun h => (h.alloc o).2
  have hl : r'.heap.Unwraps ⟨8⟩ [(⟨8⟩, b)] identityHandle identityFunction :=
    .bound (Heap.object?_alloc_new hsize) hk (.native rfl rfl)
  have hcall : call (.object ⟨8⟩) [.int 2] r' = (.ok token, r') :=
    call_identity rfl hl hc (Nat.lt_of_lt_of_le Nat.zero_lt_two hc) rfl
  refine .bind (identity_ok hp) (.bind (run_ok rfl) ?_)
  refine .bind (run_ok hbind) (.bind (run_ok hcall) ?_)
  exact ⟨_, expectSame_ok rfl⟩

end Conformance
end Invocation
