/-
# Leaving one object alone

An object changes in two ways only: a property of it is written, or a prototype is set on it.
So whatever else is done with a realm, by the host or by adapters, leaves the object as it is
(`EvolvesBeside.object?`). While handles are left, an operation writes to no object but the one
it is given: what it makes on its way is new (`Task.act_beside`), so it is seen from a step of a
run whether it leaves an object alone (`TurnAway.beside`).

Key definitions: `Realm.EvolvesBeside`, `Run.TurnBeside`, `Run.TurnAway`.
Key theorems: `Realm.EvolvesBeside.object?`, `Run.Task.act_beside`, `Run.TurnAway.beside`.
-/
import Invocation.Proofs.Realm.Loading
import Invocation.Proofs.Run.Binding

namespace Invocation
namespace Realm

variable {x : ObjectHandle} {r r' : Realm}

/-- One thing that happens to a realm and is neither a write to the object `x` nor a prototype set
on it. -/
inductive EvolveBeside (x : ObjectHandle) : Realm → Realm → Prop
  | keep {r r' : Realm} : Evolve r r' → r'.heap = r.heap → EvolveBeside x r r'
  | alloc {r : Realm} {o : HeapObject} : r.heap.WellMade o →
      EvolveBeside x r (r.onHeap fun h => (h.alloc o).2)
  | write {r : Realm} {y : ObjectHandle} {o : HeapObject} {key : PropertyKey} {v : Value} :
      y ≠ x → r.heap.object? y = some o → o.writeFault? key = none →
      EvolveBeside x r (r.onHeap (·.modify y (·.write key v)))
  | link {r : Realm} {y : ObjectHandle} {prototype : Option ObjectHandle}
      {scopes : List ObjectHandle} : y ≠ x → r.heap.Contains y →
      r.heap.Path prototype scopes none → y ∉ scopes →
      EvolveBeside x r (r.onHeap (·.modify y fun o => { o with prototype }))

/-- Any number of such things. -/
abbrev EvolvesBeside (x : ObjectHandle) : Realm → Realm → Prop :=
  Relation.ReflTransGen (EvolveBeside x)

theorem EvolveBeside.evolve (h : EvolveBeside x r r') : Evolve r r' := by
  cases h with
  | keep h _ => exact h
  | alloc ho => exact .edit (.alloc ho)
  | write _ ho hw => exact .edit (.write ho hw)
  | link _ hy hp hns => exact .edit (.link hy hp hns)

theorem EvolvesBeside.evolves (h : EvolvesBeside x r r') : Evolves r r' :=
  Relation.ReflTransGen.mono (fun _ _ => EvolveBeside.evolve) _ _ h

/-- One such thing leaves the object as it is. -/
theorem EvolveBeside.object? (h : EvolveBeside x r r') (hx : r.heap.Contains x) :
    r'.heap.object? x = r.heap.object? x := by
  cases h with
  | keep _ hheap => rw [hheap]
  | alloc _ => exact Heap.object?_alloc_of_contains hx
  | write hy _ _ =>
    show (r.heap.modify _ _).object? x = _
    rw [Heap.object?_modify, if_neg hy]
  | link hy _ _ _ =>
    show (r.heap.modify _ _).object? x = _
    rw [Heap.object?_modify, if_neg hy]

/-- And so does any number of them. -/
theorem EvolvesBeside.object? (h : EvolvesBeside x r r') (hx : r.heap.Contains x) :
    r'.heap.object? x = r.heap.object? x := by
  induction h with
  | refl => rfl
  | tail hbefore step ih =>
    have hx' := (EvolvesBeside.evolves hbefore).growsTo.contains hx
    rw [step.object? hx', ih]

/-! ### What writes to the object that it is given -/

variable {target : Value}

theorem beside_setProperty (ht : target ≠ .object x) (key : PropertyKey) (v : Value) (r : Realm) :
    EvolvesBeside x r (setProperty target key v r).2 := by
  rcases setProperty_cases target key v r with ⟨e, he⟩ | ⟨y, o, rfl, ho, hw, hok⟩
  · rw [he]
  · have hy : y ≠ x := fun heq => ht (congrArg Value.object heq)
    rw [hok]
    exact .single (.write hy ho hw)

theorem beside_setPrototype (ht : target ≠ .object x) (prototype : Option ObjectHandle)
    (r : Realm) :
    EvolvesBeside x r (setPrototype target prototype r).2 := by
  rcases setPrototype_cases target prototype r with ⟨e, he⟩ | ⟨y, scopes, rfl, hc, hp, hns, hok⟩
  · rw [he]
  · have hy : y ≠ x := fun heq => ht (congrArg Value.object heq)
    rw [hok]
    exact .single (.link hy hc hp hns)

theorem beside_installMethod (ht : target ≠ .object x) (key : PropertyKey) (function : Value)
    (r : Realm) : EvolvesBeside x r (installMethod target key function r).2 := by
  unfold installMethod
  by_cases hcall : r.isCallable function = true
  · rw [if_pos hcall]
    exact beside_setProperty ht key function r
  · rw [if_neg hcall]

/-! ### What only makes objects -/

/-- Adding objects that are neither arrays nor bound functions. -/
theorem beside_append : ∀ {os : List HeapObject} {r : Realm},
    (∀ o ∈ os, o.kind = .ordinary ∨ ∃ f, o.kind = .native f) →
    EvolvesBeside x r (r.onHeap (·.append os))
  | [], r, _ => by
    have hnone : r.onHeap (·.append []) = r := by
      unfold onHeap
      simp only [Heap.append_nil]
    rw [hnone]
  | o :: os, r, hkinds => by
    obtain ⟨ho, hos⟩ := List.forall_mem_cons.mp hkinds
    have hmade : r.heap.WellMade o := by
      rcases ho with hk | ⟨f, hk⟩
      · exact Heap.wellMade_of_kind (by simp [hk]) (by simp [hk])
      · exact Heap.wellMade_of_kind (by simp [hk]) (by simp [hk])
    have hsplit : r.onHeap (·.append (o :: os)) =
        (r.onHeap fun h => (h.alloc o).2).onHeap (·.append os) := by
      unfold onHeap
      simp only [Heap.alloc_eq_append, Heap.append_append, List.singleton_append]
    rw [hsplit]
    exact .head (.alloc hmade) (beside_append hos)

theorem kind_functionObjects {objects functions : ObjectHandle} {n : Nat} {f : NativeFunction}
    {o : HeapObject} (ho : o ∈ functionObjects objects functions n f) :
    o.kind = .ordinary ∨ ∃ g, o.kind = .native g := by
  unfold functionObjects at ho
  split at ho
  · rcases List.mem_cons.mp ho with rfl | ho
    · exact Or.inr ⟨f, rfl⟩
    · rw [List.mem_singleton.mp ho]
      exact Or.inl rfl
  · rw [List.mem_singleton.mp ho]
    exact Or.inr ⟨f, rfl⟩

theorem kind_madeObjects {objects functions : ObjectHandle} {o : HeapObject} :
    ∀ {fs : List NativeFunction} {n : Nat}, o ∈ madeObjects objects functions n fs →
      o.kind = .ordinary ∨ ∃ g, o.kind = .native g
  | [], _, ho => absurd ho List.not_mem_nil
  | f :: fs, n, ho => by
    rcases List.mem_append.mp ho with ho | ho
    · exact kind_functionObjects ho
    · exact kind_madeObjects ho

theorem beside_instantiate {f : NativeFunction}
    (hsize : r.heap.size + f.objectCount ≤ UInt32.size) :
    EvolvesBeside x r (instantiate f r).2 := by
  rw [instantiate_objects f hsize]
  exact beside_append fun o ho => kind_functionObjects ho

theorem beside_loadExports {registry : Registry}
    (hsize : r.heap.size + (1 + objectCount registry.functions) ≤ UInt32.size) :
    EvolvesBeside x r (loadExports registry r).2 := by
  rw [loadExports_objects (by omega)]
  refine beside_append fun o ho => ?_
  rcases List.mem_cons.mp ho with rfl | ho
  · exact Or.inl (holdAll_frame _ _ rfl).1
  · exact kind_madeObjects ho

theorem beside_bind (callee receiver : Value) (arguments : List Value)
    (hsize : r.heap.size < UInt32.size) :
    EvolvesBeside x r (bind callee receiver arguments r).2 := by
  obtain ⟨e, he⟩ | ⟨y, o, name, length, rfl, ho, hfun, hbinds⟩ :=
    bind_cases callee receiver arguments r
  · rw [he]
  · rw [bind_object ho hfun hbinds hsize]
    refine .single (.alloc ⟨?_, ?_⟩)
    · intro b hb
      cases hb
      exact ⟨o, ho, hfun⟩
    · intro items hk
      cases hk

theorem beside_exportValue (value receiver : Value) (bindFunctions : Bool)
    (hsize : r.heap.size < UInt32.size) :
    EvolvesBeside x r (exportValue value receiver bindFunctions r).2 := by
  unfold exportValue
  split
  · exact .refl
  · split
    · exact beside_bind _ _ _ hsize
    · exact .refl
  · exact .refl

/-- Opening a call makes the instance of a construct call, at most. -/
theorem beside_openCall (mode : CallMode) (callee : Value) (arguments : List Value) (r : Realm) :
    EvolvesBeside x r (openCall mode callee arguments r).2 := by
  cases hres : r.resolve callee with
  | error e => rw [openCall_unresolved hres]
  | ok c =>
    by_cases hlow : r.callDepth < r.options.maxCallDepth
    · cases mode with
      | plain receiver => rw [openCall_plain hres hlow]
      | construct =>
        by_cases hk : c.function.constructible = true
        · rw [openCall_construct hres hlow hk]
          cases r.instancePrototype c.target with
          | error e => exact .refl
          | ok prototype =>
            exact .single (.alloc (o := { prototype := some prototype })
              (Heap.wellMade_of_kind (by simp) (by simp)))
        · rw [openCall_notConstructor hres hlow hk]
    · rw [openCall_exceeded hres (Nat.le_of_not_lt hlow)]

end Realm

/-! ### Operations and tasks -/

/-- The value that an operation writes a property of. -/
def Operation.written : Operation → Option Value
  | .setProperty target _ _ => some target
  | _ => none

namespace Run

open Realm (EvolvesBeside)

variable {x : ObjectHandle} {r : Realm} {s s' : State}

/-- An operation that is no call and writes to no property of the object. -/
theorem respond_beside {op : Operation} (hleaf : op.isCall = false)
    (hx : op.written ≠ some (.object x)) (r : Realm) :
    EvolvesBeside x r (Realm.respond op r).2 := by
  cases op with
  | createObject =>
    exact .single (.alloc (o := { prototype := some r.objectPrototype })
      (Heap.wellMade_of_kind (by simp) (by simp)))
  | createArray items =>
    exact .single (.alloc
      (o := { prototype := some r.arrayPrototype, kind := .array items.toArray })
      ⟨by simp, fun _ _ => rfl⟩)
  | setProperty target key value =>
    exact Realm.beside_setProperty (fun heq => hx (congrArg some heq)) key value r
  | call callee receiver arguments => cases hleaf
  | _ => exact .refl

/-- The value that a task writes a property of or sets a prototype on. -/
def Task.written : Task → Option Value
  | .operation op _ => op.written
  | .setPrototype target _ => some target
  | .installMethod target _ _ => some target
  | _ => none

/-- How many objects a task makes at most. -/
def Task.objectCount : Task → Nat
  | .instantiate f => f.objectCount
  | .instantiateRegistered registry name => ((registry.find? name).map (·.objectCount)).getD 0
  | .loadExports registry => 1 + Invocation.objectCount registry.functions
  | _ => 1

/-- A task writes to no object but the one it is given, as long as handles are left for the objects
that it makes. -/
theorem Task.act_beside {t : Task} (hx : t.written ≠ some (.object x))
    (hsize : r.heap.size + t.objectCount ≤ UInt32.size) : EvolvesBeside x r (t.act r).2 := by
  cases t with
  | operation op leaf => exact respond_beside leaf hx r
  | createObjectWithPrototype prototype =>
    exact .single (.alloc (o := { prototype }) (Heap.wellMade_of_kind (by simp) (by simp)))
  | createRecord fields =>
    exact .single (.alloc
      (o := { prototype := some r.objectPrototype, properties := .ofList fields })
      (Heap.wellMade_of_kind (by simp) (by simp)))
  | createSymbol description => exact .single (.keep (.edit (.symbol description)) rfl)
  | createForeign typeName data =>
    show EvolvesBeside x r (Realm.createForeign typeName data r).2
    unfold Realm.createForeign
    split
    · exact .single (.keep (.edit .foreign) rfl)
    · exact .refl
  | ownProperty target key => exact .refl
  | setPrototype target prototype =>
    exact Realm.beside_setPrototype (fun heq => hx (congrArg some heq)) prototype r
  | instantiate f => exact Realm.beside_instantiate hsize
  | instantiateRegistered registry name =>
    show EvolvesBeside x r (Realm.instantiateRegistered registry name r).2
    unfold Realm.instantiateRegistered
    cases hf : registry.find? name with
    | none => exact .refl
    | some f =>
      simp only [Task.objectCount, hf, Option.map_some, Option.getD_some] at hsize
      exact Realm.beside_instantiate hsize
  | loadExports registry => exact Realm.beside_loadExports hsize
  | installMethod target key function =>
    exact Realm.beside_installMethod (fun heq => hx (congrArg some heq)) key function r
  | bind callee receiver arguments => exact Realm.beside_bind callee receiver arguments hsize
  | exportValue value receiver bindFunctions =>
    exact Realm.beside_exportValue value receiver bindFunctions hsize

/-! ### Steps of a run -/

/-- A step of a run in which nothing is written to an object and no prototype is set on it. -/
structure TurnBeside (x : ObjectHandle) (s s' : State) : Prop where
  turn : Turn s s'
  beside : EvolvesBeside x s.realm s'.realm

/-- Any number of such steps. -/
abbrev TurnsBeside (x : ObjectHandle) : State → State → Prop :=
  Relation.ReflTransGen (TurnBeside x)

theorem TurnsBeside.evolvesBeside (h : TurnsBeside x s s') : EvolvesBeside x s.realm s'.realm := by
  induction h with
  | refl => exact .refl
  | tail _ step ih => exact ih.trans step.beside

/-- The value that an adapter is about to write a property of. -/
def Activation.written (a : Activation) : Option Value :=
  match a.program with
  | .perform op _ => op.written
  | _ => none

/-- A step of a run that is not given an object to write to, while handles are left for what
it makes. -/
inductive TurnAway (x : ObjectHandle) : State → State → Prop
  | task {s : State} {outcome : Except Fault Value} (t : Task) : s.control = .host outcome →
      t.written ≠ some (.object x) → s.realm.heap.size + t.objectCount ≤ UInt32.size →
      TurnAway x s (s.perform t)
  | call {s : State} {outcome : Except Fault Value} (c : Call) : s.control = .host outcome →
      TurnAway x s (s.serve c)
  | adapter {s : State} {a : Activation} {waiting : List Waiting} :
      s.control = .adapter a waiting → a.written ≠ some (.object x) → TurnAway x s s.advance

theorem State.beside_dispatch {raised : List Fault} {waiting : List Waiting} (mode : CallMode)
    (callee : Value) (arguments : List Value) :
    EvolvesBeside x r (dispatch r raised mode callee arguments waiting).realm := by
  obtain ⟨n, hrealm⟩ := realm_dispatch mode callee arguments
  rw [hrealm]
  exact (Realm.beside_openCall mode callee arguments r).tail (.keep (.depth n) rfl)

theorem State.beside_serve (s : State) (c : Call) : EvolvesBeside x s.realm (s.serve c).realm := by
  rcases s.realm_serve c with hrealm | ⟨mode, callee, arguments, hserve⟩
  · rw [hrealm]
  · rw [hserve]
    exact beside_dispatch mode callee arguments

/-- Such a step leaves the object alone. -/
theorem TurnAway.beside (h : TurnAway x s s') : TurnBeside x s s' := by
  cases h with
  | task t hs hx hsize => exact ⟨.task t hs, Task.act_beside hx hsize⟩
  | call c hs => exact ⟨.call c hs, s.beside_serve c⟩
  | @adapter a waiting hs hx =>
    refine ⟨.adapter hs, ?_⟩
    refine State.advance_cases (P := fun s' => EvolvesBeside x s.realm s'.realm) hs ?_ ?_ ?_
    · intro outcome _
      rw [State.realm_leave]
      exact .single (.keep (.depth _) rfl)
    · intro callee receiver arguments next _
      exact State.beside_dispatch (.plain receiver) callee arguments
    · intro op next hleaf hprogram
      rw [Activation.written, hprogram] at hx
      exact respond_beside hleaf hx s.realm

end Run
end Invocation
