/-
# Writes that succeed

A write fails for three reasons: the target is no object, its handle names none,
or the key is a position too far past the end of an array. So a write at a name
that is no position succeeds on everything that is in the heap, and what consists
of such writes onto objects just made succeeds as a whole: making a function
object always does (`yields_instantiate`), and so does the part of binding that
changes the realm (`yields_boundFunction`). While handles are left, the realm after
it is known in one equation (`instantiate_plain`, `instantiate_constructible`,
`bind_object`).

Key definitions: `Action.Yields`, `Realm.onHeap`, `HeapObject.named`, `Realm.Binds`.
Key theorems: `Realm.setProperty_name`, `Realm.bind_object`, `Realm.instantiate_plain`,
`Realm.instantiate_constructible`, `Realm.yields_instantiate`, `Realm.yields_boundFunction`.
-/
import Invocation.Proofs.Realm.Methods

namespace Invocation

/-! ### Actions that succeed -/

namespace Action

variable {α β : Type} {r : Realm}

/-- In a realm an action succeeds, with a result and a realm of which `Q` holds. -/
def Yields (x : Action α) (r : Realm) (Q : α → Realm → Prop) : Prop :=
  ∃ a r', x r = (.ok a, r') ∧ Q a r'

/-- An action that succeeds goes on with its result. -/
theorem bind_of_ok {x : Action α} {k : α → Action β} {a : α} {r' : Realm}
    (hx : x r = (.ok a, r')) : (x >>= k) r = k a r' := by
  rw [bind_apply, hx]

/-- Two actions succeed together only if each of them does. -/
theorem ok_of_bind {x : Action α} {k : α → Action β} {b : β} {r' : Realm}
    (h : (x >>= k) r = (.ok b, r')) : ∃ a r1, x r = (.ok a, r1) ∧ k a r1 = (.ok b, r') := by
  rw [bind_apply] at h
  rcases hx : x r with ⟨e | a, r1⟩
  · rw [hx] at h
    cases (Prod.mk.inj h).1
  · rw [hx] at h
    exact ⟨a, r1, rfl, h⟩

theorem ok_of_read_bind {q : Realm → Except Fault α} {k : α → Action β} {b : β} {r' : Realm}
    (h : (read q >>= k) r = (.ok b, r')) : ∃ a, q r = .ok a ∧ k a r = (.ok b, r') := by
  obtain ⟨a, r1, hx, hk⟩ := ok_of_bind h
  have hq : q r = .ok a := (Prod.mk.inj hx).1
  have hr : r = r1 := (Prod.mk.inj hx).2
  subst hr
  exact ⟨a, hq, hk⟩

namespace Yields

variable {x : Action α} {k : α → Action β} {Q : α → Realm → Prop} {P : β → Realm → Prop}

/-- What holds of the result that an action has. -/
theorem of_ok {a : α} {r' : Realm} (h : x.Yields r Q) (hx : x r = (.ok a, r')) : Q a r' := by
  obtain ⟨b, r1, hb, hq⟩ := h
  rw [hx] at hb
  cases hb
  exact hq

theorem pure {a : α} (h : Q a r) : (Pure.pure a : Action α).Yields r Q := ⟨a, r, rfl, h⟩

/-- Two actions, one after the other. -/
theorem bind (hx : x.Yields r Q) (hk : ∀ a r', Q a r' → (k a).Yields r' P) :
    (x >>= k).Yields r P := by
  obtain ⟨a, r', hx, hq⟩ := hx
  obtain ⟨b, r'', hb, hp⟩ := hk a r' hq
  refine ⟨b, r'', ?_, hp⟩
  rw [bind_of_ok hx]
  exact hb

theorem inspect_bind {q : Realm → α} (hk : (k (q r)).Yields r P) :
    (Action.inspect q >>= k).Yields r P := hk

end Yields
end Action

/-! ### Writes at names -/

/-- An object with the two properties that every function object is made with. -/
def HeapObject.named (o : HeapObject) (name : String) (length : Nat) : HeapObject :=
  (o.write "name" (.text name)).write "length" (.ofLength length)

namespace Realm

def onHeap (change : Heap → Heap) (r : Realm) : Realm := { r with heap := change r.heap }

variable {r r' : Realm} {x : ObjectHandle} {o : HeapObject} {key : PropertyKey} {name : String}
  {v : Value}

theorem setProperty_object (ho : r.heap.object? x = some o) (hw : o.writeFault? key = none) :
    setProperty (.object x) key v r = (.ok (), r.onHeap (·.modify x (·.write key v))) := by
  unfold setProperty
  simp only [Heap.object_eq_ok.mpr ho, hw]
  rfl

/-- A write at a name that is no array index succeeds on every object. -/
theorem setProperty_name (ho : r.heap.object? x = some o) (hname : arrayIndex? name = none) :
    setProperty (.object x) name v r = (.ok (), r.onHeap (·.modify x (·.write name v))) :=
  setProperty_object ho
    (HeapObject.writeFault?_of_not_position (HeapObject.isPosition_name hname o))

theorem installMethod_name {f : ObjectHandle} (hf : r.heap.HasFunction f)
    (ho : r.heap.object? x = some o) (hname : arrayIndex? name = none) :
    installMethod (.object x) name (.object f) r =
      (.ok (), r.onHeap (·.modify x (·.write name (.object f)))) := by
  unfold installMethod
  rw [if_pos (isCallable_object.mpr hf)]
  exact setProperty_name ho hname

/-! ### Making objects -/

theorem createObject_eq (r : Realm) : createObject r =
    (.ok (.object r.heap.nextHandle),
      r.onHeap fun h => (h.alloc { prototype := some r.objectPrototype }).2) := rfl

theorem createObjectWithPrototype_eq (prototype : Option ObjectHandle) (r : Realm) :
    createObjectWithPrototype prototype r =
      (.ok (.object r.heap.nextHandle), r.onHeap fun h => (h.alloc { prototype }).2) := rfl

theorem createRecord_eq (fields : List (PropertyKey × Value)) (r : Realm) : createRecord fields r =
    (.ok (.object r.heap.nextHandle), r.onHeap fun h =>
      (h.alloc { prototype := some r.objectPrototype, properties := .ofList fields }).2) := rfl

theorem createArray_eq (items : List Value) (r : Realm) : createArray items r =
    (.ok (.object r.heap.nextHandle), r.onHeap fun h =>
      (h.alloc { prototype := some r.arrayPrototype, kind := .array items.toArray }).2) := rfl

/-- Where the options let values of the host in, a foreign value is made. -/
theorem createForeign_eq {typeName : String} {data : HostData}
    (hinterop : r.options.hostInterop = true) : createForeign typeName data r =
      (.ok (.foreign ⟨r.foreignCount, typeName, data⟩),
        { r with foreignCount := r.foreignCount + 1 }) := by
  unfold createForeign
  rw [if_pos hinterop]

/-! ### Making function objects -/

/-- An object that is made and named. The two writes are onto what the new handle names, which is
the new object while handles are left. -/
theorem named_modify {α : Type} {k : ObjectHandle → Action α} {o : HeapObject} {name : String}
    {length : Nat} :
    (do
      let handle ← alloc o
      setProperty (.object handle) "name" (.text name)
      setProperty (.object handle) "length" (.ofLength length)
      k handle : Action α) r =
      k r.heap.nextHandle (r.onHeap fun h =>
        (h.alloc o).2.modify h.nextHandle (·.named name length)) := by
  obtain ⟨p, hp⟩ := Heap.contains_iff.mp
    (Heap.contains_nextHandle : (r.heap.alloc o).2.Contains r.heap.nextHandle)
  refine Eq.trans (Action.bind_of_ok rfl) ?_
  refine Eq.trans (Action.bind_of_ok (setProperty_name hp (by decide))) ?_
  refine Eq.trans (Action.bind_of_ok (setProperty_name (Heap.object?_modify_self hp)
    (by decide))) ?_
  unfold onHeap HeapObject.named
  simp only [Heap.modify_modify]
  rfl

theorem named_eq {α : Type} {k : ObjectHandle → Action α} {o : HeapObject} {name : String}
    {length : Nat} (hsize : r.heap.size < UInt32.size) :
    (do
      let handle ← alloc o
      setProperty (.object handle) "name" (.text name)
      setProperty (.object handle) "length" (.ofLength length)
      k handle : Action α) r =
      k r.heap.nextHandle (r.onHeap fun h => (h.alloc (o.named name length)).2) := by
  rw [named_modify]
  unfold onHeap
  simp only [Heap.modify_alloc hsize]

def boundObject (o : HeapObject) (b : BoundFunction) (name : String) (length : Nat) : HeapObject :=
  HeapObject.named { o with properties := .empty, kind := .bound b } name length

/-- What binding reads of a function: a name that can be made, and a `length` that leaves `length`
parameters besides the arguments. -/
structure Binds (r : Realm) (x : ObjectHandle) (arguments : List Value) (name : String)
    (length : Nat) : Prop where
  name : (r.nameString x).checkedFlatten = .ok name
  length : ∃ v left, r.property (.object x) "length" = .ok v ∧
    Checked.sub (declaredLength v) (argumentCount arguments) = .ok left ∧ left.toInt.toNat = length

/-- Binding a function whose name and `length` can be read. -/
theorem bind_modify {receiver : Value} {arguments : List Value} {name : String} {length : Nat}
    (ho : r.heap.object? x = some o) (hfun : o.isFunction = true)
    (hbinds : r.Binds x arguments name length) :
    bind (.object x) receiver arguments r =
      (.ok (.object r.heap.nextHandle), r.onHeap fun h =>
        (h.alloc { prototype := o.prototype, kind := .bound ⟨x, receiver, arguments⟩ }).2.modify
          h.nextHandle (·.named ("bound " ++ name) length)) := by
  obtain ⟨hname, v, left, hlen, hleft, rfl⟩ := hbinds
  have htarget : r.functionTarget (.object x) = .ok x := by
    rw [functionTarget_object (Heap.object_eq_ok.mpr ho), if_pos hfun]
  refine Eq.trans (Action.bind_of_ok (by rw [Action.read, htarget])) ?_
  refine Eq.trans (Action.bind_of_ok (by rw [Action.read, hlen])) ?_
  refine Eq.trans (Action.bind_of_ok (by rw [Action.read, hleft])) ?_
  refine Eq.trans (Action.bind_of_ok (by rw [Action.read, hname])) ?_
  refine Eq.trans (Action.bind_of_ok (by rw [Action.read, Heap.object_eq_ok.mpr ho])) ?_
  exact named_modify

/-- While handles are left, the bound function is a new object. -/
theorem bind_object {receiver : Value} {arguments : List Value} {name : String} {length : Nat}
    (ho : r.heap.object? x = some o) (hfun : o.isFunction = true)
    (hbinds : r.Binds x arguments name length) (hsize : r.heap.size < UInt32.size) :
    bind (.object x) receiver arguments r =
      (.ok (.object r.heap.nextHandle), r.onHeap fun h =>
        (h.alloc (boundObject o ⟨x, receiver, arguments⟩ ("bound " ++ name) length)).2) := by
  rw [bind_modify ho hfun hbinds]
  unfold onHeap boundObject
  simp only [Heap.modify_alloc hsize]

/-- A function object as it is made of a native function, but for a prototype of instances. -/
def nativeObject (prototype : ObjectHandle) (f : NativeFunction) : HeapObject :=
  HeapObject.named { prototype := some prototype, kind := .native f } f.name f.length.toNat

/-- Instantiating makes the function object, and then sees to the prototype of its instances. -/
theorem instantiate_eq (f : NativeFunction) (hsize : r.heap.size < UInt32.size) :
    instantiate f r =
      (do
        if f.constructible then
          let instances ← createObject
          setProperty instances "constructor" (.object r.heap.nextHandle)
          setProperty (.object r.heap.nextHandle) "prototype" instances
        pure (.object r.heap.nextHandle) : Action Value)
        (r.onHeap fun h => (h.alloc (nativeObject r.functionPrototype f)).2) :=
  Eq.trans (Action.bind_of_ok rfl) (named_eq hsize)

theorem instantiate_plain {f : NativeFunction} (hk : f.constructible = false)
    (hsize : r.heap.size < UInt32.size) : instantiate f r =
      (.ok (.object r.heap.nextHandle),
        r.onHeap fun h => (h.alloc (nativeObject r.functionPrototype f)).2) := by
  rw [instantiate_eq f hsize, hk]
  rfl

/-- A function that constructs comes with a second object, the prototype of its instances, and each
of the two names the other. -/
theorem instantiate_constructible {f : NativeFunction} (hk : f.constructible = true)
    (hsize : r.heap.size + 1 < UInt32.size) : instantiate f r =
      (.ok (.object r.heap.nextHandle), r.onHeap fun h =>
        ((h.alloc ((nativeObject r.functionPrototype f).write "prototype"
          (.object ⟨(h.size + 1).toUInt32⟩))).2.alloc
            ({ prototype := some r.objectPrototype : HeapObject }.write "constructor"
              (.object h.nextHandle))).2) := by
  have hsmall : r.heap.size < UInt32.size := Nat.lt_of_succ_lt hsize
  let function : HeapObject := nativeObject r.functionPrototype f
  let instances : HeapObject := { prototype := some r.objectPrototype }
  let h' : Heap := (r.heap.alloc function).2
  have hsize' : h'.size < UInt32.size := by
    show (r.heap.alloc function).2.size < UInt32.size
    rw [Heap.size_alloc]
    exact hsize
  have hnext : h'.nextHandle = ⟨(r.heap.size + 1).toUInt32⟩ :=
    congrArg (fun n => ObjectHandle.mk (Nat.toUInt32 n)) Heap.size_alloc
  have hinstances : (h'.alloc instances).2.object? h'.nextHandle = some instances :=
    Heap.object?_alloc_new hsize'
  have hfunction : h'.Contains r.heap.nextHandle := Heap.contains_nextHandle
  have hboth : ((h'.alloc instances).2.modify h'.nextHandle
      (·.write "constructor" (.object r.heap.nextHandle))).Contains r.heap.nextHandle :=
    Heap.contains_modify.mpr hfunction.alloc
  obtain ⟨o, ho⟩ := Heap.contains_iff.mp hboth
  -- the last write is onto the function again, below the instances by now
  have hfirst : h'.modify r.heap.nextHandle (·.write "prototype" (.object h'.nextHandle)) =
      (r.heap.alloc (function.write "prototype" (.object h'.nextHandle))).2 :=
    Heap.modify_alloc hsmall
  have hheap : ((h'.alloc instances).2.modify h'.nextHandle
      (·.write "constructor" (.object r.heap.nextHandle))).modify r.heap.nextHandle
        (·.write "prototype" (.object h'.nextHandle)) =
      ((r.heap.alloc (function.write "prototype" (.object ⟨(r.heap.size + 1).toUInt32⟩))).2.alloc
        (instances.write "constructor" (.object r.heap.nextHandle))).2 := by
    rw [Heap.modify_alloc hsize', Heap.modify_alloc_of_contains hfunction, hfirst, hnext]
  rw [instantiate_eq f hsmall, hk]
  refine Eq.trans (Action.bind_of_ok (createObject_eq _)) ?_
  refine Eq.trans (Action.bind_of_ok (setProperty_name hinstances (by decide))) ?_
  refine Eq.trans (Action.bind_of_ok (setProperty_name ho (by decide))) ?_
  exact congrArg (fun h => (Except.ok (Value.object r.heap.nextHandle), { r with heap := h })) hheap

/-! ### Making function objects on any heap

Without handles left an object can be written onto another than the one just made. Nothing fails for
that. -/

open Invocation.Action (Yields)

/-- A value is a new object of a realm that another one has become. -/
structure Makes (r : Realm) (v : Value) (r' : Realm) : Prop where
  value : v = .object r.heap.nextHandle
  size : r.heap.size < r'.heap.size

theorem Makes.contains (h : Makes r v r') : r'.heap.Contains r.heap.nextHandle :=
  Heap.contains_nextHandle_of_lt h.size

theorem yields_setProperty (hx : r.heap.Contains x) (hname : arrayIndex? name = none) (v : Value) :
    (setProperty (.object x) name v).Yields r fun _ r' => r'.heap.size = r.heap.size := by
  obtain ⟨o, ho⟩ := Heap.contains_iff.mp hx
  exact ⟨_, _, setProperty_name ho hname, Heap.size_modify⟩

theorem yields_createObject (r : Realm) : createObject.Yields r (Makes r) :=
  ⟨_, _, rfl, rfl, by simp⟩

/-- Making an object and naming it succeeds, and what follows decides. -/
theorem yields_named {α : Type} {k : ObjectHandle → Action α} {Q : α → Realm → Prop}
    (o : HeapObject)
    (name : String) (length : Nat)
    (hk : ∀ r' : Realm, r.heap.size < r'.heap.size → (k r.heap.nextHandle).Yields r' Q) :
    (do
      let handle ← alloc o
      setProperty (.object handle) "name" (.text name)
      setProperty (.object handle) "length" (.ofLength length)
      k handle : Action α).Yields r Q := by
  have hmade : (alloc o).Yields r fun x r' =>
      x = r.heap.nextHandle ∧ r.heap.size < r'.heap.size := ⟨_, _, rfl, rfl, by simp⟩
  refine .bind hmade ?_
  rintro _ r1 ⟨rfl, h1⟩
  have hx1 : r1.heap.Contains r.heap.nextHandle := Heap.contains_nextHandle_of_lt h1
  refine .bind (yields_setProperty hx1 (by decide) _) fun _ r2 h2 => ?_
  have hx2 : r2.heap.Contains r.heap.nextHandle := Heap.contains_nextHandle_of_lt (h2 ▸ h1)
  refine .bind (yields_setProperty hx2 (by decide) _) fun _ r3 h3 => ?_
  refine hk r3 ?_
  rw [h3, h2]
  exact h1

/-- Making a function object of a native function never fails. -/
theorem yields_instantiate (f : NativeFunction) (r : Realm) :
    (instantiate f).Yields r (Makes r) := by
  refine .inspect_bind (yields_named _ _ _ fun r1 h1 => ?_)
  by_cases hf : f.constructible = true
  · simp only [hf, ↓reduceIte]
    refine .bind (yields_createObject r1) ?_
    rintro v r2 ⟨rfl, h2⟩
    have hy2 : r2.heap.Contains r1.heap.nextHandle := Heap.contains_nextHandle_of_lt h2
    refine .bind (yields_setProperty hy2 (by decide) _) fun _ r3 h3 => ?_
    have hlt : r.heap.size < r3.heap.size := by
      rw [h3]
      exact Nat.lt_trans h1 h2
    refine .bind (yields_setProperty (Heap.contains_nextHandle_of_lt hlt) (by decide) _)
      fun _ r4 h4 => ?_
    exact .pure ⟨rfl, h4 ▸ hlt⟩
  · simp only [hf]
    exact .pure ⟨rfl, h1⟩

/-- Binding never fails once it has read what it needs. -/
theorem yields_boundFunction (o : HeapObject) (name : String) (length : Nat) (r : Realm) :
    (do
      let handle ← alloc o
      let function := Value.object handle
      setProperty function "name" (.text name)
      setProperty function "length" (.ofLength length)
      pure function : Action Value).Yields r (Makes r) :=
  yields_named o name length fun _ h => .pure ⟨rfl, h⟩

end Realm
end Invocation
