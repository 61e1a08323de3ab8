/-
# What can be called and what constructs

Two walks follow the targets of bound functions, each under the limit of the call
depth: resolution, which a call begins with, and the question whether a function
constructs. And whether a value can be called is asked without any walk. The three
agree. A function constructs if it resolves to a native function that does, in any
realm. That what can be called does resolve needs the realm to come from a run: there
targets are older than the functions bound to them, so every function is some number
of layers around a native one, and only their number may stop resolution.

Key theorems: `Heap.Grounded.exists_unwraps`, `Realm.isConstructor_iff`,
`Realm.resolve_cases`, `Run.callability`.
-/
import Invocation.Proofs.Realm.Layers
import Invocation.Proofs.Run.Growth

namespace Invocation

/-- Every function is a native one behind layers: by induction on its handle, since targets
are older. -/
theorem Heap.Grounded.exists_unwraps {h : Heap} (hg : h.Grounded) (x : ObjectHandle)
    (hx : h.HasFunction x) : ∃ layers target f, h.Unwraps x layers target f := by
  obtain ⟨o, ho, hfun⟩ := hx
  cases hk : o.kind with
  | native f => exact ⟨[], x, f, .native ho hk⟩
  | bound b =>
    obtain ⟨htarget, hlt⟩ := hg x o b ho hk
    obtain ⟨layers, target, f, hl⟩ := hg.exists_unwraps b.target htarget
    exact ⟨(x, b) :: layers, target, f, .bound ho hk hl⟩
  | _ => simp [HeapObject.isFunction, hk] at hfun
termination_by x.index.toNat

namespace Realm

variable {r : Realm} {v : Value} {x : ObjectHandle}

/-! ### What can be called -/

theorem isCallable_primitive (hv : v.isObject = false) : r.isCallable v = false := by
  cases v with
  | object x => cases hv
  | _ => simp [isCallable, typeOf, Value.typeName]

/-- A value that can be called is a function behind layers, and one that cannot be called does not
resolve; layers are not what stops it. -/
theorem resolve_cases (hg : r.heap.Grounded) (hlimit : 1 ≤ r.options.maxCallDepth) (v : Value) :
    (r.isCallable v = true ∧
        ∃ x layers target f, v = .object x ∧ r.heap.Unwraps x layers target f) ∨
      (r.isCallable v = false ∧ ∃ e, r.resolve v = .error e ∧ ∀ n, e ≠ .stackExceeded n) := by
  cases hcall : r.isCallable v with
  | true =>
    left
    cases v with
    | object x =>
      obtain ⟨layers, target, f, hl⟩ := hg.exists_unwraps x (isCallable_object.mp hcall)
      exact ⟨rfl, x, layers, target, f, rfl, hl⟩
    | _ =>
      rw [isCallable_primitive rfl] at hcall
      cases hcall
  | false =>
    right
    refine ⟨rfl, ?_⟩
    cases v with
    | object x =>
      obtain ⟨limit, hmax⟩ : ∃ limit, r.options.maxCallDepth = limit + 1 :=
        ⟨r.options.maxCallDepth - 1, by omega⟩
      have hno : ¬ r.heap.HasFunction x := fun hfun => by
        rw [isCallable_object.mpr hfun] at hcall
        cases hcall
      unfold resolve
      rw [hmax]
      cases ho : r.heap.object? x with
      | none => exact ⟨.invalidHandle x.index, by simp [resolveWithin, Heap.object, ho], by simp⟩
      | some o =>
        refine ⟨.notCallable (r.describe (.object x)), ?_, by simp⟩
        have hkind : o.isFunction = false := by
          cases hfun : o.isFunction with
          | true => exact absurd ⟨o, ho, hfun⟩ hno
          | false => rfl
        unfold HeapObject.isFunction at hkind
        simp only [resolveWithin, Heap.object, ho]
        cases hk : o.kind <;> simp_all
    | _ => exact ⟨_, rfl, by simp⟩

/-! ### What constructs -/

/-- The walk that asks whether a function constructs, and the one of resolution. -/
theorem constructsWithin_iff (callee : Value) : ∀ (layers : Nat) (x : ObjectHandle),
    constructsWithin r.heap layers x = true ↔
      ∃ c, r.resolveWithin callee layers x = .ok c ∧ c.function.constructible = true
  | 0, x => by simp [constructsWithin, resolveWithin]
  | layers + 1, x => by
    unfold constructsWithin resolveWithin Heap.object
    cases ho : r.heap.object? x with
    | none => simp
    | some o =>
      simp only [Option.map_some]
      cases hk : o.kind with
      | bound b =>
        have ih := constructsWithin_iff callee layers b.target
        simp only
        rw [ih]
        cases hrest : r.resolveWithin callee layers b.target with
        | error e => simp
        | ok c => simp [ResolvedCallee.wrap]
      | _ => simp

theorem isConstructor_iff : r.isConstructor v = true ↔
    ∃ c, r.resolve v = .ok c ∧ c.function.constructible = true := by
  cases v with
  | object x => exact constructsWithin_iff (.object x) r.options.maxCallDepth x
  | _ => simp [isConstructor, resolve]

section Construct

variable (hlow : r.callDepth < r.options.maxCallDepth) (arguments : List Value)
include hlow

/-- A construct call of a value that constructs goes on to make the instance and to enter
the adapter. -/
theorem construct_constructor (hv : r.isConstructor v = true) : ∃ c, r.resolve v = .ok c ∧
    construct v arguments r = match r.instancePrototype c.target with
      | .error e => (.error e, r)
      | .ok prototype => enter respond c.function
          ⟨.construct, c.target, c.function.name, .object r.heap.nextHandle,
            .object r.heap.nextHandle, c.arguments ++ arguments⟩
          { r with heap := (r.heap.alloc { prototype := some prototype }).2 } := by
  obtain ⟨c, hres, hk⟩ := isConstructor_iff.mp hv
  refine ⟨c, hres, ?_⟩
  rw [construct, dispatch_eq, openCall_construct hres hlow hk]
  cases r.instancePrototype c.target <;> rfl

theorem construct_other (hv : r.isConstructor v = false) :
    ∃ e, construct v arguments r = (.error e, r) ∧
      (r.resolve v = .error e ∨ e = .notConstructor (r.describe v)) := by
  rw [construct, dispatch_eq]
  cases hres : r.resolve v with
  | error e =>
    rw [openCall_unresolved hres]
    exact ⟨e, rfl, Or.inl rfl⟩
  | ok c =>
    have hk : ¬ c.function.constructible = true := fun hk => by
      rw [isConstructor_iff.mpr ⟨c, hres, hk⟩] at hv
      cases hv
    rw [openCall_notConstructor hres hlow hk]
    exact ⟨_, rfl, Or.inr rfl⟩

end Construct
end Realm

namespace Run

/-- In every state of a run, the target of a bound function is a function with a smaller handle. A
value can be called exactly if it resolves to a native function or has too many layers to, and it
has too many exactly if they are as many as the limit or more. A value constructs exactly if it
resolves to a native function that does; below the limit of the call depth, a construct call of such
a value goes on to the prototype of the instance and to the adapter, and one of any other value
fails, for the callee does not resolve or does not construct, and changes nothing. -/
theorem callability {options : Options} {s : State} (hs : Turns (.start options) s)
    (hlimit : 1 ≤ options.maxCallDepth) :
    (∀ x o b, s.realm.heap.object? x = some o → o.kind = .bound b →
      s.realm.heap.HasFunction b.target ∧ b.target.index < x.index) ∧
    (∀ v, s.realm.isCallable v = true ↔ (∃ c, s.realm.resolve v = .ok c) ∨
      s.realm.resolve v = .error (.stackExceeded options.maxCallDepth)) ∧
    (∀ v, s.realm.resolve v = .error (.stackExceeded options.maxCallDepth) ↔
      ∃ x layers target f, v = .object x ∧ s.realm.heap.Unwraps x layers target f ∧
        options.maxCallDepth ≤ layers.length) ∧
    (∀ v, s.realm.isConstructor v = true ↔
      ∃ c, s.realm.resolve v = .ok c ∧ c.function.constructible = true) ∧
    (s.realm.callDepth < options.maxCallDepth → ∀ v arguments,
      (s.realm.isConstructor v = true → ∃ c, s.realm.resolve v = .ok c ∧
        Realm.construct v arguments s.realm = match s.realm.instancePrototype c.target with
          | .error e => (.error e, s.realm)
          | .ok prototype => Realm.enter Realm.respond c.function
              ⟨.construct, c.target, c.function.name, .object s.realm.heap.nextHandle,
                .object s.realm.heap.nextHandle, c.arguments ++ arguments⟩
              { s.realm with heap := (s.realm.heap.alloc { prototype := some prototype }).2 }) ∧
      (s.realm.isConstructor v = false → ∃ e,
        Realm.construct v arguments s.realm = (.error e, s.realm) ∧
          (s.realm.resolve v = .error e ∨ e = .notConstructor (s.realm.describe v)))) := by
  have hevolves : Realm.Evolves (.ofOptions options) s.realm := hs.evolves
  have hg := hevolves.grounded (Realm.grounded_ofOptions options)
  have hoptions : s.realm.options = options := hevolves.growsTo.options
  have hcases := Realm.resolve_cases hg (hoptions.symm ▸ hlimit)
  refine ⟨?_, ?_, ?_, fun v => Realm.isConstructor_iff, ?_⟩
  · intro x o b ho hk
    exact hg x o b ho hk
  · intro v
    rcases hcases v with ⟨hcall, x, layers, target, f, rfl, hl⟩ | ⟨hcall, e, hres, hne⟩
    · rw [hcall, Realm.resolve_layers hl, hoptions]
      split <;> simp
    · simp [hcall, hres, hne]
  · intro v
    constructor
    · intro hexceeded
      rcases hcases v with ⟨-, x, layers, target, f, rfl, hl⟩ | ⟨-, e, hres, hne⟩
      · refine ⟨x, layers, target, f, rfl, hl, ?_⟩
        rw [Realm.resolve_layers hl, hoptions] at hexceeded
        split at hexceeded
        · cases hexceeded
        · omega
      · rw [hres] at hexceeded
        exact absurd (Except.error.inj hexceeded) (hne _)
    · rintro ⟨x, layers, target, f, rfl, hl, hlayers⟩
      rw [Realm.resolve_layers hl, hoptions, if_neg (by omega)]
  · intro hlow v arguments
    rw [← hoptions] at hlow
    exact ⟨Realm.construct_constructor hlow arguments, Realm.construct_other hlow arguments⟩

/-- A function behind one layer, in a realm whose limit has room for none. -/
def oneLayer : State :=
  ((State.start { maxCallDepth := 1 }).perform (.instantiate nesting)).perform
    (.bind (.object ⟨4⟩) .null [])

/-- It can be called, but a call does not come through to it. -/
theorem oneLayer_callability :
    oneLayer.realm.isCallable (.object ⟨5⟩) = true ∧
      oneLayer.realm.resolve (.object ⟨5⟩) = .error (.stackExceeded 1) := by
  have hs : Turns (.start { maxCallDepth := 1 }) oneLayer :=
    .head (.task (.instantiate nesting) rfl) (.single (.task (.bind (.object ⟨4⟩) .null []) rfl))
  obtain ⟨-, hcallable, hexceeded, -, -⟩ := callability hs (by decide)
  have hres : oneLayer.realm.resolve (.object ⟨5⟩) = .error (.stackExceeded 1) :=
    (hexceeded (.object ⟨5⟩)).mpr
      ⟨⟨5⟩, [(⟨5⟩, ⟨⟨4⟩, .null, []⟩)], ⟨4⟩, nesting, rfl, .bound rfl rfl (.native rfl rfl),
        by decide⟩
  exact ⟨(hcallable (.object ⟨5⟩)).mpr (Or.inr hres), hres⟩

end Run
end Invocation
