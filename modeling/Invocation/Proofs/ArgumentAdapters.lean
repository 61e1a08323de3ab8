/-
# What the argument adapters do

The inspecting adapter makes three writes on its receiver and touches nothing
else: the receiver becomes `Inspect.record c` of what it was (`run_inspectAdapter`).
The identity adapter touches nothing at all (`run_identityAdapter`). So a call that
comes to one of them, through whatever layers, is known in one equation.

Key definitions: `Inspect.record`.
Key theorems: `Realm.call_inspecting`, `Realm.construct_inspecting`, `Realm.call_identity`.
-/
import Invocation.ArgumentAdapters
import Invocation.Proofs.Realm.Construct
import Invocation.Proofs.Realm.Writing

namespace Invocation

namespace Inspect

variable {c : Context} {o : HeapObject}

/-- An object on which the inspecting adapter has written what it saw of an invocation. -/
def record (c : Context) (o : HeapObject) : HeapObject :=
  ((o.write isConstructCall (.bool c.isConstructCall)).write thisValue c.receiver).write holderValue
    c.holder

/-- The three fields are in the table, whatever the object is. -/
theorem record_eq (c : Context) (o : HeapObject) : record c o = { o with
    properties := ((o.properties.insert isConstructCall (.bool c.isConstructCall)).insert thisValue
      c.receiver).insert holderValue c.holder } := by
  unfold record
  rw [HeapObject.write_table (HeapObject.isPosition_name (by decide) o),
    HeapObject.write_table (HeapObject.isPosition_name (by decide) _),
    HeapObject.write_table (HeapObject.isPosition_name (by decide) _)]

@[simp] theorem prototype_record : (record c o).prototype = o.prototype := by rw [record_eq]

@[simp] theorem kind_record : (record c o).kind = o.kind := by rw [record_eq]

theorem get?_record (k : PropertyKey) : (record c o).properties.get? k =
    if k = holderValue then some c.holder
    else if k = thisValue then some c.receiver
    else if k = isConstructCall then some (.bool c.isConstructCall)
    else o.properties.get? k := by
  rw [record_eq]
  simp only [PropertyTable.get?_insert]

/-- The object has the three fields afterwards, and every other property as before. -/
theorem ownProperty?_record (k : PropertyKey) :
    (record c o).ownProperty? k =
      if k = holderValue then some c.holder
      else if k = thisValue then some c.receiver
      else if k = isConstructCall then some (.bool c.isConstructCall)
      else o.ownProperty? k := by
  have read : ∀ {name : String}, arrayIndex? name = none → name ≠ "length" →
      ∀ (p : HeapObject) (v : Value), (p.write name v).ownProperty? k =
        if k = name then some v else p.ownProperty? k := fun hname hlength p v =>
    HeapObject.ownProperty?_write (HeapObject.isLength_name hlength p)
      (HeapObject.isPosition_name hname p) v k
  rw [record, read (by decide) (by decide), read (by decide) (by decide),
    read (by decide) (by decide)]

theorem isConstructCall_record :
    (record c o).ownProperty? isConstructCall = some (.bool c.isConstructCall) := by
  rw [ownProperty?_record, if_neg (by decide), if_neg (by decide), if_pos rfl]

theorem thisValue_record : (record c o).ownProperty? thisValue = some c.receiver := by
  rw [ownProperty?_record, if_neg (by decide), if_pos rfl]

theorem holderValue_record : (record c o).ownProperty? holderValue = some c.holder := by
  rw [ownProperty?_record, if_pos rfl]

end Inspect

/-- A program that begins with an operation goes on with its reply. -/
theorem Program.run_ask {α σ : Type} {respond : (op : Operation) → σ → Except Fault op.Reply × σ}
    {op : Operation} {s s' : σ} {a : op.Reply} (h : respond op s = (.ok a, s'))
    (next : op.Reply → Program α) : (ask op >>= next).run respond s = (next a).run respond s' := by
  have hask : ask op >>= next = .perform op fun outcome => (ofExcept outcome).bind next := rfl
  rw [hask, run, h]
  rfl

namespace Realm

variable {r : Realm} {start target x : ObjectHandle} {layers : Layers} {f : NativeFunction}
  {receiver holder v : Value} {arguments : List Value}

/-! ### The inspecting adapter -/

/-- A program that begins with a write at a name that is no array index. -/
theorem run_setProperty {α : Type} {name : String} (hx : r.heap.Contains x)
    (hname : arrayIndex? name = none) (next : Unit → Program α) :
    (Program.ask (.setProperty (.object x) name v) >>= next).run respond r =
      (next ()).run respond (r.onHeap (·.modify x (·.write name v))) := by
  obtain ⟨o, ho⟩ := Heap.contains_iff.mp hx
  have hwrite : respond (.setProperty (.object x) name v) r =
      (.ok (), r.onHeap (·.modify x (·.write name v))) := setProperty_name ho hname
  exact Program.run_ask hwrite next

/-- With an object as its receiver the inspecting adapter makes its writes there. -/
theorem run_inspectAdapter {c : Context} (hc : c.receiver = .object x) (hx : r.heap.Contains x) :
    (inspectAdapter c).run respond r =
      (.ok .undefined, r.onHeap (·.modify x (Inspect.record c))) := by
  have hprogram : inspectAdapter c = (do
      Program.ask (.setProperty (.object x) Inspect.isConstructCall (.bool c.isConstructCall))
      Program.ask (.setProperty (.object x) Inspect.thisValue c.receiver)
      Program.ask (.setProperty (.object x) Inspect.holderValue c.holder)
      pure .undefined) := by
    unfold inspectAdapter
    rw [hc]
    rfl
  have hwritten : ∀ f : HeapObject → HeapObject, (r.heap.modify x f).Contains x := fun f =>
    Heap.contains_modify.mpr hx
  rw [hprogram]
  refine Eq.trans (run_setProperty hx (by decide) _) ?_
  refine Eq.trans (run_setProperty (hwritten _) (by decide) _) ?_
  refine Eq.trans (run_setProperty (Heap.contains_modify.mpr (hwritten _)) (by decide) _) ?_
  unfold onHeap
  simp only [Heap.modify_modify]
  rfl

/-- With anything else as its receiver it fails before the first write. -/
theorem run_inspectAdapter_other {c : Context} (hc : c.receiver.isObject = false) (r : Realm) :
    (inspectAdapter c).run respond r =
      (.error (.typeMismatch "object" c.receiver.typeName), r) := by
  unfold inspectAdapter
  cases hv : c.receiver with
  | object x =>
    rw [hv] at hc
    cases hc
  | _ => rfl

/-- A plain call of the inspecting adapter whose receiver, that of the innermost layer, is
an object. -/
theorem call_inspecting (hf : f.adapter = inspectAdapter)
    (hl : r.heap.Unwraps start layers target f) (hroom : layers.length + 1 ≤ r.options.maxCallDepth)
    (hdepth : r.callDepth < r.options.maxCallDepth) (hr : layers.receiverD receiver = .object x)
    (hh : r.heap.holder r.options.maxPrototypeDepth (.object x) (layers.candidates target) f.name
      f.policy = .ok holder) :
    callWithReceiver (.object start) receiver arguments r =
      (.ok .undefined, r.onHeap (·.modify x (Inspect.record
        ⟨.plain, target, f.name, .object x, holder, layers.arguments ++ arguments⟩))) := by
  have hopened : r.heap.holder r.options.maxPrototypeDepth (layers.receiverD receiver)
      (layers.candidates target) f.name f.policy = .ok holder := by
    rw [hr]
    exact hh
  have hrun : ∀ c : Context, c.receiver = .object x →
      (inspectAdapter c).run respond { r with callDepth := r.callDepth + 1 } =
        (.ok .undefined, { r with
          heap := r.heap.modify x (Inspect.record c), callDepth := r.callDepth + 1 }) :=
    fun c hc => run_inspectAdapter hc (Heap.contains_of_holder hh)
  rw [callWithReceiver_layers hl hroom hdepth hopened arguments, enter_plain f rfl, hf, hr,
    hrun _ rfl]
  rfl

/-- A construct call of the inspecting adapter: the instance is inspected. -/
theorem construct_inspecting (hf : f.adapter = inspectAdapter) (hk : f.constructible = true)
    (hl : r.heap.Unwraps start layers target f) (hroom : layers.length + 1 ≤ r.options.maxCallDepth)
    (hdepth : r.callDepth < r.options.maxCallDepth) (hsize : r.heap.size < UInt32.size)
    (hproto : r.property (.object target) "prototype" = .ok v) :
    construct (.object start) arguments r =
      (.ok (.object r.heap.nextHandle), r.onHeap fun h => (h.alloc (Inspect.record
        ⟨.construct, target, f.name, .object r.heap.nextHandle, .object r.heap.nextHandle,
          layers.arguments ++ arguments⟩
        { prototype := some (v.object?.getD r.objectPrototype) })).2) := by
  have hmade :
      (r.withInstance (v.object?.getD r.objectPrototype)).heap.Contains r.heap.nextHandle :=
    Heap.contains_nextHandle
  rw [construct_behind hl hk hroom hdepth hproto arguments, hf, run_inspectAdapter rfl hmade]
  unfold onHeap withInstance
  simp only [Heap.modify_alloc hsize]
  rfl

/-! ### The identity adapter -/

theorem run_identityAdapter (c : Context) (r : Realm) :
    (identityAdapter c).run respond r = (c.argument 0, r) := by
  unfold identityAdapter
  cases c.argument 0 <;> rfl

/-- A plain call of the identity adapter: the first argument of all, those of the layers included,
or the fault that there is none. -/
theorem call_identity (hf : f.adapter = identityAdapter)
    (hl : r.heap.Unwraps start layers target f) (hroom : layers.length + 1 ≤ r.options.maxCallDepth)
    (hdepth : r.callDepth < r.options.maxCallDepth)
    (hh : r.heap.holder r.options.maxPrototypeDepth (layers.receiverD receiver)
      (layers.candidates target) f.name f.policy = .ok holder) :
    callWithReceiver (.object start) receiver arguments r =
      (match layers.arguments ++ arguments with
        | [] => .error (.arity f.name 1 0)
        | v :: _ => .ok v, r) := by
  rw [callWithReceiver_layers hl hroom hdepth hh arguments, enter_plain f rfl, hf,
    run_identityAdapter]
  cases layers.arguments ++ arguments <;> rfl

end Realm
end Invocation
