/-
# What can happen to a realm

Whatever an operation does to a realm, it does in steps of six kinds: an object
is added, a property is written, a prototype is set, a symbol is added, a foreign
value is counted, and the call depth is set. `Change` lists them with what holds
whenever an operation takes such a step: handles that are stored name objects, a
bound function is bound to a function, an array starts with an empty table, and a
prototype is set only to one whose chain ends without the object.

So an invariant of realms is an invariant of these six steps. Here: closed realms
stay closed and acyclic ones acyclic, objects stay, and options never change.

Key definitions: `Realm.Change`, `Realm.Changes`, `Realm.Closed`.
Key theorems: `Realm.Changes.closed`, `Realm.Changes.acyclic`, `Realm.Changes.contains`.
-/
import Mathlib.Logic.Relation
import Invocation.Proofs.Heap.Path
import Invocation.Realm

namespace Invocation

/-- A function that can be bound: an object of the heap that is a function. -/
def Heap.HasFunction (h : Heap) (x : ObjectHandle) : Prop :=
  ∃ o, h.object? x = some o ∧ o.isFunction = true

/-- An object as operations add it: its handles name objects, a bound function has a function as
its target, and an array has no property in its table yet. -/
structure Heap.Admits (h : Heap) (o : HeapObject) : Prop where
  handles : ∀ x ∈ o.handles, h.Contains x
  target : ∀ b, o.kind = .bound b → h.HasFunction b.target
  table : ∀ items, o.kind = .array items → o.properties = .empty

namespace Realm

/-- One step of an operation on a realm. -/
inductive Change : Realm → Realm → Prop
  | alloc {r : Realm} {o : HeapObject} : r.heap.Admits o →
      Change r { r with heap := (r.heap.alloc o).2 }
  | write {r : Realm} {x : ObjectHandle} {o : HeapObject} {key : PropertyKey} {v : Value} :
      r.heap.object? x = some o → o.writeFault? key = none →
      (∀ y ∈ v.handles, r.heap.Contains y) →
      Change r { r with heap := r.heap.modify x (·.write key v) }
  | link {r : Realm} {x : ObjectHandle} {prototype : Option ObjectHandle}
      {scopes : List ObjectHandle} : r.heap.Contains x → r.heap.Path prototype scopes none →
      x ∉ scopes → Change r { r with heap := r.heap.modify x fun o => { o with prototype } }
  | symbol {r : Realm} (description : Option String) :
      Change r { r with symbols := r.symbols.push description }
  | foreign {r : Realm} : Change r { r with foreignCount := r.foreignCount + 1 }
  | depth {r : Realm} (n : Nat) : Change r { r with callDepth := n }

/-- Any number of steps. -/
abbrev Changes : Realm → Realm → Prop := Relation.ReflTransGen Change

/-- The heap is closed, and the objects that every realm starts with are in it. -/
structure Closed (r : Realm) : Prop where
  heap : r.heap.Closed
  objectPrototype : r.heap.Contains r.objectPrototype
  functionPrototype : r.heap.Contains r.functionPrototype
  arrayPrototype : r.heap.Contains r.arrayPrototype
  globalObject : r.heap.Contains r.globalObject

variable {r r' : Realm} {x : ObjectHandle}

/-! ### One step -/

namespace Change

theorem contains (h : Change r r') (hx : r.heap.Contains x) : r'.heap.Contains x := by
  cases h with
  | alloc _ => exact hx.alloc
  | write _ _ _ => exact Heap.contains_modify.mpr hx
  | link _ _ _ => exact Heap.contains_modify.mpr hx
  | symbol _ => exact hx
  | foreign => exact hx
  | depth _ => exact hx

theorem heapClosed (h : Change r r') (hc : r.heap.Closed) : r'.heap.Closed := by
  cases h with
  | alloc ho => exact Heap.closed_alloc hc ho.handles
  | write _ _ hv => exact Heap.closed_write hc hv
  | link _ hp _ =>
    refine Heap.closed_link hc fun y hy => ?_
    cases hp with
    | stop _ => cases hy
    | scope ho _ =>
      cases hy
      exact Heap.contains_of_object? ho
  | symbol _ => exact hc
  | foreign => exact hc
  | depth _ => exact hc

theorem closed (h : Change r r') (hc : r.Closed) : r'.Closed := by
  have keep : ∀ {y}, r.heap.Contains y → r'.heap.Contains y := h.contains
  have hheap := h.heapClosed hc.heap
  obtain ⟨-, h1, h2, h3, h4⟩ := hc
  cases h <;> exact ⟨hheap, keep h1, keep h2, keep h3, keep h4⟩

theorem options (h : Change r r') : r'.options = r.options := by
  cases h <;> rfl

/-- A write keeps the prototype of the object. -/
theorem prototype_write (o : HeapObject) (key : PropertyKey) (v : Value) :
    (o.write key v).prototype = o.prototype := by
  unfold HeapObject.write
  split
  · split <;> rfl
  · rfl

theorem acyclic (h : Change r r') (ha : r.heap.Acyclic) : r'.heap.Acyclic := by
  cases h with
  | alloc ho =>
    exact ha.alloc fun y hy => ho.handles y (HeapObject.mem_handles.mpr (Or.inl hy))
  | write _ _ _ => exact ha.modify fun o => prototype_write o _ _
  | link _ hp hx => exact ha.relink hp hx
  | symbol _ => exact ha
  | foreign => exact ha
  | depth _ => exact ha

end Change

/-! ### Any number of steps -/

namespace Changes

theorem contains (h : Changes r r') (hx : r.heap.Contains x) : r'.heap.Contains x := by
  induction h with
  | refl => exact hx
  | tail _ step ih => exact step.contains ih

/-- Handles of objects stay handles of objects. -/
theorem keep (h : Changes r r') {xs : List ObjectHandle} (hx : ∀ y ∈ xs, r.heap.Contains y) :
    ∀ y ∈ xs, r'.heap.Contains y := fun y hy => h.contains (hx y hy)

theorem closed (h : Changes r r') (hc : r.Closed) : r'.Closed := by
  induction h with
  | refl => exact hc
  | tail _ step ih => exact step.closed ih

theorem options (h : Changes r r') : r'.options = r.options := by
  induction h with
  | refl => rfl
  | tail _ step ih => exact step.options.trans ih

theorem acyclic (h : Changes r r') (ha : r.heap.Acyclic) : r'.heap.Acyclic := by
  induction h with
  | refl => exact ha
  | tail _ step ih => exact step.acyclic ih

end Changes

/-! ### Fresh realms -/

/-- An object that has nothing but a prototype. -/
theorem handles_of_prototype (prototype : Option ObjectHandle) :
    HeapObject.handles { prototype } = prototype.toList := by
  simp [HeapObject.handles, ObjectKind.handles, PropertyTable.values, PropertyTable.empty]

theorem closed_ofOptions (options : Options) : (ofOptions options).Closed := by
  have h0 : Heap.empty.Closed := fun o ho => by simp [Heap.empty] at ho
  have h1 : (Heap.empty.alloc {}).2.Closed :=
    Heap.closed_alloc h0 fun x hx => by rw [handles_of_prototype] at hx; cases hx
  have root : (Heap.empty.alloc {}).2.Contains Heap.empty.nextHandle := Heap.contains_nextHandle
  have child : ∀ {h : Heap}, h.Closed → h.Contains Heap.empty.nextHandle →
      (h.alloc { prototype := some Heap.empty.nextHandle }).2.Closed := by
    intro h hc hr
    refine Heap.closed_alloc hc fun x hx => ?_
    rw [handles_of_prototype, Option.toList_some, List.mem_singleton] at hx
    rw [hx]
    exact hr
  have h2 := child h1 root
  have h3 := child h2 root.alloc
  exact ⟨child h3 root.alloc.alloc, root.alloc.alloc.alloc,
    Heap.contains_nextHandle.alloc.alloc, Heap.contains_nextHandle.alloc, Heap.contains_nextHandle⟩

theorem acyclic_ofOptions (options : Options) : (ofOptions options).heap.Acyclic := by
  have h0 : Heap.empty.Acyclic := fun x hx => by
    rw [Heap.Contains] at hx
    cases hx
  have h1 : (Heap.empty.alloc {}).2.Acyclic := h0.alloc fun y hy => by cases hy
  have root : (Heap.empty.alloc {}).2.Contains Heap.empty.nextHandle := Heap.contains_nextHandle
  have child : ∀ {h : Heap}, h.Acyclic → h.Contains Heap.empty.nextHandle →
      (h.alloc { prototype := some Heap.empty.nextHandle }).2.Acyclic :=
    fun ha hr => ha.alloc fun y hy => by cases hy; exact hr
  exact child (child (child h1 root) root.alloc) root.alloc.alloc

end Realm
end Invocation
