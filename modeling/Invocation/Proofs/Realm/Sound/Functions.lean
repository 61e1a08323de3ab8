/-
# What operations on functions do to a closed realm

Making function objects, loading a registry, installing, binding and exporting
are sound, and so is opening a call: the context that an adapter is entered with
holds handles of objects only.

Key theorems: `Realm.sound_instantiate`, `Realm.sound_loadExports`, `Realm.sound_bind`,
`Realm.sound_openCall`.
-/
import Invocation.Proofs.Realm.Sound.Objects
import Invocation.Proofs.Realm.Dispatch

namespace Invocation

/-- The handles in a context. -/
def Context.handles (c : Context) : List ObjectHandle :=
  c.callee :: (c.receiver.handles ++ c.holder.handles ++ c.arguments.flatMap Value.handles)

/-- The handles in a way to call: those of the receiver. -/
def CallMode.handles : CallMode → List ObjectHandle
  | .plain receiver => receiver.handles
  | .construct => []

namespace ResolvedCallee

/-- The handles in what a callee comes down to. -/
def handles (c : ResolvedCallee) : List ObjectHandle :=
  c.target :: (c.receiver.toList.flatMap Value.handles ++ c.arguments.flatMap Value.handles)

/-- Putting a layer around a callee adds the handles of the layer at most. -/
theorem mem_handles_wrap {c : ResolvedCallee} {layer x : ObjectHandle} {b : BoundFunction}
    (h : x ∈ (c.wrap layer b).handles) : x ∈ c.handles ∨ x ∈ (ObjectKind.bound b).handles := by
  simp only [handles, wrap, Option.toList_some, List.flatMap_cons, List.flatMap_nil,
    List.append_nil, List.flatMap_append, List.mem_cons, List.mem_append, ObjectKind.handles] at h ⊢
  cases hr : c.receiver with
  | none =>
    simp only [hr, Option.getD_none] at h
    grind
  | some v =>
    simp only [hr, Option.getD_some] at h
    simp only [Option.toList_some, List.flatMap_cons, List.flatMap_nil, List.append_nil]
    grind

end ResolvedCallee

namespace Realm

open Invocation.Action (Sound)

variable {r : Realm} {target value callee receiver : Value} {key : PropertyKey} {x : ObjectHandle}
  {arguments : List Value}

/-! ### Function objects -/

theorem sound_instantiate (f : NativeFunction) (hc : r.Closed) :
    Sound Value.handles (instantiate f) r := by
  have ho : r.heap.Admits { prototype := some r.functionPrototype, kind := .native f } := by
    refine admits_of_handles (fun y hy => ?_) (by simp) (by simp)
    rcases HeapObject.mem_handles.mp hy with hy | ⟨v, hv, hy⟩ | hy
    · cases hy
      exact hc.functionPrototype
    · cases hv
    · cases hy
  refine .inspect_bind (.bind hc (sound_alloc ho) fun x r1 h1 hc1 hx1 => ?_)
  refine .bind hc1 (sound_setProperty hx1 (by simp)) fun _ r2 h2 hc2 _ => ?_
  refine .bind hc2 (sound_setProperty (h2.keep hx1) (by simp)) fun _ r3 h3 hc3 _ => ?_
  have hx3 := h3.keep (h2.keep hx1)
  by_cases hf : f.constructible = true
  · simp only [hf, ↓reduceIte]
    refine .bind hc3 (sound_createObject hc3) fun instances r4 h4 hc4 hi4 => ?_
    refine .bind hc4 (sound_setProperty hi4 (h4.keep hx3)) fun _ r5 h5 hc5 _ => ?_
    refine .bind hc5 (sound_setProperty (h5.keep (h4.keep hx3)) (h5.keep hi4)) fun _ r6 h6 _ _ => ?_
    exact .pure (h6.keep (h5.keep (h4.keep hx3)))
  · simp only [hf]
    exact .pure hx3

theorem sound_instantiateRegistered (registry : Registry) (name : String) (hc : r.Closed) :
    Sound Value.handles (instantiateRegistered registry name) r := by
  unfold instantiateRegistered
  split
  · exact sound_instantiate _ hc
  · exact .fail rfl fun i h => by simp at h

/-- Loading functions one after the other keeps the object they go to. -/
theorem sound_loadInto {registry : Registry}
    {exports : Value} : ∀ (names : List String) {r : Realm},
    r.Closed → (∀ y ∈ exports.handles, r.heap.Contains y) →
    Sound (fun _ => []) (loadInto registry exports names) r
  | [], _, _, _ => .pure fun y hy => by simp at hy
  | name :: names, r, hc, he => by
    refine .bind hc (sound_instantiateRegistered registry name hc) fun function r1 h1 hc1 hf1 => ?_
    refine .bind hc1 (sound_setProperty (h1.keep he) hf1) fun _ r2 h2 hc2 _ => ?_
    exact sound_loadInto names hc2 (h2.keep (h1.keep he))

theorem sound_loadExports (registry : Registry) (hc : r.Closed) :
    Sound Value.handles (loadExports registry) r := by
  refine .bind hc (sound_createObject hc) fun exports r1 h1 hc1 he1 => ?_
  refine .bind hc1 (sound_loadInto _ hc1 he1) fun _ r2 h2 hc2 _ => ?_
  exact .pure (h2.keep he1)

theorem sound_installMethod (ht : ∀ y ∈ target.handles, r.heap.Contains y)
    (hv : ∀ y ∈ value.handles, r.heap.Contains y) :
    Sound (fun _ => []) (installMethod target key value) r := by
  by_cases hcall : r.isCallable value = true
  · have heq : installMethod target key value r = setProperty target key value r := if_pos hcall
    have hs : Sound (fun _ => []) (setProperty target key value) r := sound_setProperty ht hv
    exact .congr heq hs
  · exact .fail (if_neg hcall) fun i h => by simp at h

theorem answers_sub {a b : Int64} : Answers r.heap (fun _ => []) (Checked.sub a b) := by
  cases h : Checked.sub a b with
  | error e =>
    rw [Checked.panic_of_sub h]
    exact fun i h => by cases h
  | ok n => exact fun y hy => by cases hy

theorem answers_checkedFlatten {s : Rope} : Answers r.heap (fun _ => []) s.checkedFlatten := by
  cases h : s.checkedFlatten with
  | error e =>
    rw [Rope.panic_of_checkedFlatten h]
    exact fun i h => by cases h
  | ok t => exact fun y hy => by cases hy

theorem sound_bind (hc : r.Closed) (hf : ∀ y ∈ callee.handles, r.heap.Contains y)
    (hr : ∀ y ∈ receiver.handles, r.heap.Contains y)
    (ha : ∀ y ∈ arguments.flatMap Value.handles, r.heap.Contains y) :
    Sound Value.handles (bind callee receiver arguments) r := by
  refine .read_bind (answers_functionTarget hf) fun x hx => ?_
  have hcx : r.heap.Contains x := (answers_functionTarget hf).ok hx x List.mem_cons_self
  refine .read_bind (answers_property hc hf) fun length _ => ?_
  refine .read_bind answers_sub fun left _ => .read_bind answers_checkedFlatten fun name _ => ?_
  refine .read_bind (answers_heapObject hc hcx) fun object hobj => ?_
  have ho : r.heap.Admits
      { prototype := object.prototype, kind := .bound ⟨x, receiver, arguments⟩ } := by
    refine ⟨fun y hy => ?_, fun b hb => ?_, by simp⟩
    · rcases HeapObject.mem_handles.mp hy with hy | ⟨v, hv, hy⟩ | hy
      · exact hc.heap.prototype (Heap.object_eq_ok.mp hobj) hy
      · cases hv
      · rcases List.mem_cons.mp hy with rfl | hy
        · exact hcx
        · rcases List.mem_append.mp hy with hy | hy
          · exact hr y hy
          · exact ha y hy
    · cases hb
      exact hasFunction_of_functionTarget hx
  refine .bind hc (sound_alloc ho) fun b r1 h1 hc1 hb1 => ?_
  refine .bind hc1 (sound_setProperty hb1 (by simp)) fun _ r2 h2 hc2 _ => ?_
  refine .bind hc2 (sound_setProperty (h2.keep hb1) (by simp)) fun _ r3 h3 _ _ => ?_
  exact .pure (h3.keep (h2.keep hb1))

theorem sound_exportValue {bindFunctions : Bool} (hc : r.Closed)
    (hv : ∀ y ∈ value.handles, r.heap.Contains y)
    (hr : ∀ y ∈ receiver.handles, r.heap.Contains y) :
    Sound Value.handles (exportValue value receiver bindFunctions) r := by
  cases value with
  | string s =>
    refine ⟨.refl, ?_⟩
    show Answers r.heap Value.handles (if s.isLazy then s.checkedFlatten.map .text else _)
    split
    · exact answers_checkedFlatten.map fun _ _ hy => by cases hy
    · exact fun y hy => by cases hy
  | object x =>
    by_cases hb : (r.isCallable (.object x) && bindFunctions && !receiver.isUndefined &&
        !r.isBoundFunction (.object x)) = true
    · have heq :
          exportValue (.object x) receiver bindFunctions r = bind (.object x) receiver [] r :=
        if_pos hb
      have hs : Sound Value.handles (bind (.object x) receiver []) r :=
        sound_bind hc hv hr fun y hy => by simp at hy
      exact .congr heq hs
    · have heq : exportValue (.object x) receiver bindFunctions r = (.ok (.object x), r) :=
        if_neg hb
      exact .of_eq heq .refl hv
  | _ => exact ⟨.refl, hv⟩

/-! ### Opening a call -/

theorem answers_resolveWithin (hc : r.Closed) : ∀ {layers : Nat} {x : ObjectHandle},
    r.heap.Contains x → Answers r.heap ResolvedCallee.handles (r.resolveWithin callee layers x)
  | 0, _, _ => fun i h => by simp at h
  | layers + 1, x, hx => by
    obtain ⟨o, ho⟩ := object_ok hx
    have held : ∀ y ∈ o.kind.handles, r.heap.Contains y := fun y hy =>
      hc.heap.contains (Heap.object_eq_ok.mp ho) (HeapObject.mem_handles.mpr (Or.inr (Or.inr hy)))
    cases hk : o.kind with
    | native f =>
      simp only [resolveWithin, ho, hk]
      intro y hy
      rw [List.mem_singleton.mp hy]
      exact hx
    | bound b =>
      rw [hk] at held
      have ih : Answers r.heap ResolvedCallee.handles (r.resolveWithin callee layers b.target) :=
        answers_resolveWithin hc (held b.target List.mem_cons_self)
      cases hrec : r.resolveWithin callee layers b.target with
      | error e =>
        simp only [resolveWithin, ho, hk, hrec]
        exact ih.error hrec
      | ok c =>
        simp only [resolveWithin, ho, hk, hrec]
        intro y hy
        rcases ResolvedCallee.mem_handles_wrap hy with hy | hy
        · exact ih.ok hrec y hy
        · exact held y hy
    | _ =>
      simp only [resolveWithin, ho, hk]
      exact fun i h => by simp at h

theorem answers_resolve (hc : r.Closed) (hf : ∀ y ∈ callee.handles, r.heap.Contains y) :
    Answers r.heap ResolvedCallee.handles (r.resolve callee) := by
  cases callee with
  | object x => exact answers_resolveWithin hc (contains_of_value hf)
  | _ => exact fun i h => by simp at h

/-- A scope that declares a function is an object. -/
theorem answers_declaringScope? {limit : Nat} {functions : List ObjectHandle} (hc : r.Closed)
    (hr : ∀ y ∈ receiver.handles, r.heap.Contains y) :
    Answers r.heap Option.toList (r.heap.declaringScope? limit receiver functions) := by
  cases receiver with
  | object x =>
    have hwalk : Answers r.heap (fun a => a.toList.flatMap fun scope => [scope])
        (r.heap.findScope? limit
          (fun scope o => if o.declares functions then some scope else none) x) := by
      refine answers_findScope? hc (contains_of_value hr) fun s o scope ho hs y hy => ?_
      rw [List.mem_singleton.mp hy]
      split at hs
      · cases hs
        exact Heap.contains_of_object? ho
      · simp at hs
    have hsame : ∀ a : Option ObjectHandle, (a.toList.flatMap fun scope => [scope]) = a.toList := by
      intro a
      cases a <;> rfl
    simp only [hsame] at hwalk
    exact hwalk
  | _ => exact fun y hy => by simp at hy

/-- A holder is a scope or the receiver. -/
theorem answers_holder {limit : Nat} {functions : List ObjectHandle} {name : String}
    {policy : HolderPolicy} (hc : r.Closed) (hr : ∀ y ∈ receiver.handles, r.heap.Contains y) :
    Answers r.heap Value.handles (r.heap.holder limit receiver functions name policy) := by
  have hscope : Answers r.heap Option.toList (r.heap.declaringScope? limit receiver functions) :=
    answers_declaringScope? hc hr
  unfold Heap.holder
  rcases hd : r.heap.declaringScope? limit receiver functions with e | _ | scope
  · exact hscope.error hd
  · cases policy with
    | lenient => exact hr
    | strict => exact fun i h => by simp at h
  · intro y hy
    rw [List.mem_singleton.mp hy]
    exact hscope.ok hd scope List.mem_cons_self

theorem answers_instancePrototype (hc : r.Closed) (hx : r.heap.Contains x) :
    Answers r.heap (fun y => [y]) (r.instancePrototype x) := by
  have hp : Answers r.heap Value.handles (r.property (.object x) "prototype") :=
    answers_property hc fun y hy => by rw [List.mem_singleton.mp hy]; exact hx
  unfold instancePrototype
  cases ho : r.property (.object x) "prototype" with
  | error e => exact hp.error ho
  | ok v =>
    intro y hy
    rw [List.mem_singleton.mp hy]
    cases v with
    | object p => exact hp.ok ho p List.mem_cons_self
    | _ => exact hc.objectPrototype

theorem answers_listedArguments (hc : r.Closed) (hv : ∀ y ∈ value.handles, r.heap.Contains y) :
    Answers r.heap (fun vs => vs.flatMap Value.handles) (r.listedArguments value) := by
  cases value with
  | undefined => exact fun y hy => by simp at hy
  | null => exact fun y hy => by simp at hy
  | object x => exact (answers_arrayItems hc hv).map fun _ _ hy => hy
  | _ => exact fun i h => by simp at h

/-- The arguments of the layers and of the call. -/
theorem contains_arguments {c : ResolvedCallee} (hcc : ∀ y ∈ c.handles, r.heap.Contains y)
    (ha : ∀ y ∈ arguments.flatMap Value.handles, r.heap.Contains y) :
    ∀ y ∈ (c.arguments ++ arguments).flatMap Value.handles, r.heap.Contains y := by
  intro y hy
  rw [List.flatMap_append] at hy
  rcases List.mem_append.mp hy with hy | hy
  · exact hcc y (List.mem_cons_of_mem _ (List.mem_append_right _ hy))
  · exact ha y hy

/-- The receiver is the one of a layer or that of the call. -/
theorem contains_receiver {c : ResolvedCallee} (hcc : ∀ y ∈ c.handles, r.heap.Contains y)
    (hr : ∀ y ∈ receiver.handles, r.heap.Contains y) :
    ∀ y ∈ (c.receiver.getD receiver).handles, r.heap.Contains y := by
  rcases hreceiver : c.receiver with _ | v
  · exact hr
  · intro y hy
    have hlayer : y ∈ c.receiver.toList.flatMap Value.handles := by
      rw [hreceiver]
      exact List.mem_flatMap.mpr ⟨v, List.mem_singleton.mpr rfl, hy⟩
    exact hcc y (List.mem_cons_of_mem _ (List.mem_append_left _ hlayer))

theorem sound_openCall_plain {c : ResolvedCallee} (hc : r.Closed) (hres : r.resolve callee = .ok c)
    (hlow : r.callDepth < r.options.maxCallDepth) (hcc : ∀ y ∈ c.handles, r.heap.Contains y)
    (hr : ∀ y ∈ receiver.handles, r.heap.Contains y)
    (ha : ∀ y ∈ arguments.flatMap Value.handles, r.heap.Contains y) :
    Sound (fun p => p.2.handles) (openCall (.plain receiver) callee arguments) r := by
  have hreceiver := contains_receiver hcc hr
  refine .of_eq (openCall_plain hres hlow) .refl ((answers_holder hc hreceiver).map_of ?_)
  intro holder hholder y hy
  simp only [Context.handles, List.mem_cons, List.mem_append] at hy
  rcases hy with rfl | (hy | hy) | hy
  · exact hcc _ List.mem_cons_self
  · exact hreceiver y hy
  · exact hholder y hy
  · exact contains_arguments hcc ha y hy

theorem sound_openCall_construct {c : ResolvedCallee} (hc : r.Closed)
    (hres : r.resolve callee = .ok c) (hlow : r.callDepth < r.options.maxCallDepth)
    (hcc : ∀ y ∈ c.handles, r.heap.Contains y)
    (ha : ∀ y ∈ arguments.flatMap Value.handles, r.heap.Contains y) :
    Sound (fun p => p.2.handles) (openCall .construct callee arguments) r := by
  by_cases hk : c.function.constructible = true
  · have htarget : r.heap.Contains c.target := hcc _ List.mem_cons_self
    have hp := answers_instancePrototype hc htarget
    have hopen : openCall .construct callee arguments r = _ := openCall_construct hres hlow hk
    rcases hi : r.instancePrototype c.target with e | prototype
    · rw [hi] at hopen
      exact .fail hopen (hp.error hi)
    · rw [hi] at hopen
      have hadmit : r.heap.Admits { prototype := some prototype } := by
        refine admits_of_handles (fun y hy => ?_) (by simp) (by simp)
        rw [handles_of_prototype] at hy
        exact hp.ok hi y hy
      refine .of_eq hopen (.single (.alloc hadmit)) fun y hy => ?_
      simp only [Context.handles, Value.handles, List.mem_cons, List.mem_append, List.not_mem_nil,
        or_false] at hy
      rcases hy with rfl | (rfl | rfl) | hy
      · exact htarget.alloc
      · exact Heap.contains_nextHandle
      · exact Heap.contains_nextHandle
      · exact (contains_arguments hcc ha y hy).alloc
  · exact .fail (openCall_notConstructor hres hlow hk) fun i h => by simp at h

/-- Opening a call makes at most the instance, and the context is one of objects. -/
theorem sound_openCall {mode : CallMode} (hc : r.Closed)
    (hm : ∀ y ∈ mode.handles, r.heap.Contains y) (hf : ∀ y ∈ callee.handles, r.heap.Contains y)
    (ha : ∀ y ∈ arguments.flatMap Value.handles, r.heap.Contains y) :
    Sound (fun p => p.2.handles) (openCall mode callee arguments) r := by
  have hans := answers_resolve hc hf
  rcases hres : r.resolve callee with e | c
  · exact .fail (openCall_unresolved hres) (hans.error hres)
  · rcases Nat.lt_or_ge r.callDepth r.options.maxCallDepth with hlow | hd
    · cases mode with
      | plain receiver => exact sound_openCall_plain hc hres hlow (hans.ok hres) hm ha
      | construct => exact sound_openCall_construct hc hres hlow (hans.ok hres) ha
    · exact .fail (openCall_exceeded hres hd) fun i h => by simp at h

end Realm
end Invocation
