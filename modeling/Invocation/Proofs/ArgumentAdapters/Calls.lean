/-
# What calls of the argument adapters do to a realm

A call of the inspecting adapter, through whatever layers, changes one object. For a
plain call that is the receiver, which comes to show the three things that the adapter
saw, and nothing else of it changes (`Inspect.Shows`, `Inspected`); for a construct
call it is the instance, which is new. A call that fails changes nothing: whether the
receiver is an object that can be written is known before the first write, and no
write at a name fails (`callWithReceiver_inspecting`, `construct_cases`).

A call of the identity adapter changes nothing and gives the first argument.

Key definitions: `Inspect.Shows`, `Realm.Inspected`.
Key theorems: `Realm.inspecting_calls`, `Realm.identity_calls`.
-/
import Invocation.Proofs.ArgumentAdapters

namespace Invocation

namespace Inspect

/-- The properties that the inspecting adapter writes. -/
def fields : List PropertyKey := [isConstructCall, thisValue, holderValue]

/-- An object came to show whether an invocation constructs, its receiver and its holder. Nothing
else of it changed: its prototype, its elements if it is an array, and all other properties. -/
structure Shows (o o' : HeapObject) (constructs : Bool) (receiver holder : Value) : Prop where
  isConstructCall : o'.ownProperty? isConstructCall = some (.bool constructs)
  thisValue : o'.ownProperty? thisValue = some receiver
  holderValue : o'.ownProperty? holderValue = some holder
  prototype : o'.prototype = o.prototype
  kind : o'.kind = o.kind
  own : ∀ key, key ∉ fields → o'.ownProperty? key = o.ownProperty? key
  table : ∀ key, key ∉ fields → o'.properties.get? key = o.properties.get? key

theorem mem_fields {key : PropertyKey} : key ∈ fields ↔
    key = Inspect.isConstructCall ∨ key = Inspect.thisValue ∨ key = Inspect.holderValue := by
  simp [fields]

theorem not_mem_fields {key : PropertyKey} : key ∉ fields ↔
    key ≠ Inspect.isConstructCall ∧ key ≠ Inspect.thisValue ∧ key ≠ Inspect.holderValue := by
  rw [mem_fields, not_or, not_or]

theorem get?_record_of_not_mem {c : Context} {o : HeapObject} {key : PropertyKey}
    (hkey : key ∉ fields) : (record c o).properties.get? key = o.properties.get? key := by
  obtain ⟨h1, h2, h3⟩ := not_mem_fields.mp hkey
  rw [get?_record, if_neg h3, if_neg h2, if_neg h1]

theorem shows_record (c : Context) (o : HeapObject) :
    Shows o (record c o) c.isConstructCall c.receiver c.holder where
  isConstructCall := isConstructCall_record
  thisValue := thisValue_record
  holderValue := holderValue_record
  prototype := prototype_record
  kind := kind_record
  own key hkey := by
    obtain ⟨h1, h2, h3⟩ := not_mem_fields.mp hkey
    rw [ownProperty?_record, if_neg h3, if_neg h2, if_neg h1]
  table _ hkey := get?_record_of_not_mem hkey

end Inspect

namespace Realm

variable {r r' : Realm} {start target x : ObjectHandle} {layers : Layers} {f : NativeFunction}
  {receiver holder : Value}

/-! ### The inspecting adapter -/

/-- Two realms differ in one object alone, which shows a plain call on it. -/
structure Inspected (r r' : Realm) (x : ObjectHandle) (holder : Value) : Prop where
  rest : r' = { r with heap := r'.heap }
  size : r'.heap.size = r.heap.size
  others : ∀ y, y ≠ x → r'.heap.object? y = r.heap.object? y
  receiver : ∃ o o', r.heap.object? x = some o ∧ r'.heap.object? x = some o' ∧
    Inspect.Shows o o' false (.object x) holder

theorem inspected_record {c : Context} (hkind : c.kind = .plain) (hc : c.receiver = .object x)
    (hx : r.heap.Contains x) :
    Inspected r (r.onHeap (·.modify x (Inspect.record c))) x c.holder := by
  obtain ⟨o, ho⟩ := Heap.contains_iff.mp hx
  have hshows := Inspect.shows_record c o
  rw [Context.isConstructCall, hkind, hc] at hshows
  exact {
    rest := rfl
    size := Heap.size_modify
    others := fun y hy => by
      show (r.heap.modify x _).object? y = _
      rw [Heap.object?_modify, if_neg (Ne.symm hy)]
    receiver := ⟨o, _, ho, Heap.object?_modify_self ho, hshows⟩ }

/-- A plain call of the inspecting adapter makes its writes if it comes to the adapter with an
object as its receiver, and fails without a write otherwise. -/
theorem callWithReceiver_inspecting (hf : f.adapter = inspectAdapter)
    (hl : r.heap.Unwraps start layers target f) (receiver : Value) (arguments : List Value) :
    (∃ x holder, layers.receiverD receiver = .object x ∧ r.Admits layers target f receiver holder ∧
      callWithReceiver (.object start) receiver arguments r =
        (.ok .undefined, r.onHeap (·.modify x (Inspect.record
          ⟨.plain, target, f.name, .object x, holder, layers.arguments ++ arguments⟩)))) ∨
    ((∀ x holder, layers.receiverD receiver = .object x →
        ¬ r.Admits layers target f receiver holder) ∧
      ∃ e, callWithReceiver (.object start) receiver arguments r = (.error e, r)) := by
  have hmade : ∀ {x holder}, layers.receiverD receiver = .object x →
      r.Admits layers target f receiver holder →
      callWithReceiver (.object start) receiver arguments r =
        (.ok .undefined, r.onHeap (·.modify x (Inspect.record
          ⟨.plain, target, f.name, .object x, holder, layers.arguments ++ arguments⟩))) := by
    intro x holder hx ha
    exact call_inspecting hf hl ha.room ha.depth hx (ha.held_of hx)
  rcases callWithReceiver_cases hl receiver arguments with ⟨holder, ha⟩ | ⟨e, he⟩
  · by_cases hobject : (layers.receiverD receiver).isObject = true
    · obtain ⟨x, hx⟩ : ∃ x, layers.receiverD receiver = .object x := by
        cases hv : layers.receiverD receiver <;> simp_all [Value.isObject]
      exact Or.inl ⟨x, holder, hx, ha, hmade hx ha⟩
    · refine Or.inr ⟨fun x _ hx _ => hobject (by rw [hx]; rfl),
        .typeMismatch "object" (layers.receiverD receiver).typeName, ?_⟩
      rw [callWithReceiver_layers hl ha.room ha.depth ha.held, enter_plain f rfl, hf,
        run_inspectAdapter_other (Bool.eq_false_iff.mpr hobject)]
  · refine Or.inr ⟨fun x holder hx ha => ?_, e, he⟩
    have hok := hmade hx ha
    rw [he] at hok
    cases (Prod.mk.inj hok).1

theorem record_instance (c : Context) (prototype : ObjectHandle) :
    Inspect.record c { prototype := some prototype } = {
      prototype := some prototype
      properties := .ofList [(Inspect.isConstructCall, .bool c.isConstructCall),
        (Inspect.thisValue, c.receiver), (Inspect.holderValue, c.holder)] } := by
  rw [Inspect.record_eq]
  rfl

/-- A construct call of the inspecting adapter makes the instance if it comes to the adapter, and
fails without a change otherwise. -/
theorem construct_inspecting_cases (hf : f.adapter = inspectAdapter)
    (hl : r.heap.Unwraps start layers target f) (hsize : r.heap.size < UInt32.size)
    (arguments : List Value) :
    (∃ proto, r.Constructs layers target f proto ∧
      construct (.object start) arguments r =
        (.ok (.object r.heap.nextHandle), r.onHeap fun h => (h.alloc {
          prototype := some (proto.object?.getD r.objectPrototype)
          properties := .ofList [(Inspect.isConstructCall, .bool true),
            (Inspect.thisValue, .object r.heap.nextHandle),
            (Inspect.holderValue, .object r.heap.nextHandle)] }).2)) ∨
    ((∀ proto, ¬ r.Constructs layers target f proto) ∧
      ∃ e, construct (.object start) arguments r = (.error e, r)) := by
  rcases construct_cases hl arguments with ⟨proto, hc⟩ | ⟨e, he⟩
  · refine Or.inl ⟨proto, hc, ?_⟩
    rw [construct_inspecting hf hc.constructible hl hc.room hc.depth hsize hc.proto]
    simp only [record_instance]
    rfl
  · refine Or.inr ⟨fun proto hc => ?_, e, he⟩
    have hok : construct (.object start) arguments r = (.ok _, _) :=
      construct_inspecting hf hc.constructible hl hc.room hc.depth hsize hc.proto
    rw [he] at hok
    cases (Prod.mk.inj hok).1

/-- The calls of a function with the inspecting adapter, behind any layers.

A plain call, in any of its forms, succeeds exactly if it comes to the adapter with an object as its
receiver, that of the innermost layer if there is one. Then it gives Undefined and the realm differs
in the receiver alone, which shows that the call does not construct, the receiver itself, and the
holder: the first scope of its chain, before the call, that declares one of the handles called, or
under the lenient policy the receiver if there is none. If the call fails, the realm is as it was.

A construct call succeeds exactly if it comes to the adapter. Then it gives the instance, which is
the only thing that the realm has more, an object with the three properties and no others. If the
call fails, the realm is as it was. -/
theorem inspecting_calls (hf : f.adapter = inspectAdapter)
    (hl : r.heap.Unwraps start layers target f) (hsize : r.heap.size < UInt32.size) :
    (∀ (c : Run.Call) (receiver : Value) (arguments : List Value),
      c.prepare r = .ok (.plain receiver, .object start, arguments) →
      ((∃ v r', c.act r = (.ok v, r')) ↔ ∃ x holder, layers.receiverD receiver = .object x ∧
        r.Admits layers target f receiver holder) ∧
      (∀ v r', c.act r = (.ok v, r') → v = .undefined ∧ ∃ x holder,
        layers.receiverD receiver = .object x ∧ Inspected r r' x holder ∧
        ((∃ scope, r.heap.SearchEnds r.options.maxPrototypeDepth (layers.candidates target)
            (.object x) (.declared scope) ∧ holder = .object scope) ∨
          (f.policy = .lenient ∧ r.heap.SearchEnds r.options.maxPrototypeDepth
            (layers.candidates target) (.object x) .undeclared ∧ holder = .object x))) ∧
      ∀ e r', c.act r = (.error e, r') → r' = r) ∧
    (∀ c e, Run.Call.prepare r c = .error e → c.act r = (.error e, r)) ∧
    ∀ arguments : List Value,
      ((∃ v r', construct (.object start) arguments r = (.ok v, r')) ↔
        ∃ proto, r.Constructs layers target f proto) ∧
      (∀ v r', construct (.object start) arguments r = (.ok v, r') →
        ∃ made proto, v = .object made ∧ made.index.toNat = r.heap.size ∧
          r.property (.object target) "prototype" = .ok proto ∧
          r' = r.onHeap fun h => (h.alloc {
            prototype := some (proto.object?.getD r.objectPrototype)
            properties := .ofList [(Inspect.isConstructCall, .bool true),
              (Inspect.thisValue, .object made), (Inspect.holderValue, .object made)] }).2) ∧
      ∀ e r', construct (.object start) arguments r = (.error e, r') → r' = r := by
  refine ⟨?_, ?_, ?_⟩
  · intro c receiver arguments hc
    rw [Run.Call.act_plain hc]
    rcases callWithReceiver_inspecting hf hl receiver arguments with
      ⟨x, holder, hx, ha, hcall⟩ | ⟨hno, e, hcall⟩
    · rw [hcall]
      refine ⟨iff_of_true ⟨_, _, rfl⟩ ⟨x, holder, hx, ha⟩, ?_, ?_⟩
      · rintro v r' ⟨⟩
        have hheld := ha.held_of hx
        have hcontains : r.heap.Contains x := Heap.contains_of_holder hheld
        exact ⟨rfl, x, holder, hx, inspected_record rfl rfl hcontains, Heap.holder_eq_ok.mp hheld⟩
      · rintro e r' ⟨⟩
    · rw [hcall]
      refine ⟨iff_of_false ?_ ?_, ?_, ?_⟩
      · rintro ⟨v, r', ⟨⟩⟩
      · rintro ⟨x, holder, hx, ha⟩
        exact hno x holder hx ha
      · rintro v r' ⟨⟩
      · rintro e' r' ⟨⟩
        rfl
  · intro c e hc
    rw [Run.Call.act_eq, hc]
  · intro arguments
    obtain ⟨proto, hc, hcall⟩ | ⟨hno, e, hcall⟩ :=
      construct_inspecting_cases hf hl hsize arguments
    · rw [hcall]
      refine ⟨iff_of_true ⟨_, _, rfl⟩ ⟨proto, hc⟩, ?_, ?_⟩
      · rintro v r' ⟨⟩
        exact ⟨r.heap.nextHandle, proto, rfl, Heap.nextHandle_index hsize, hc.proto, rfl⟩
      · rintro e r' ⟨⟩
    · rw [hcall]
      refine ⟨iff_of_false ?_ ?_, ?_, ?_⟩
      · rintro ⟨v, r', ⟨⟩⟩
      · rintro ⟨proto, hc⟩
        exact hno proto hc
      · rintro v r' ⟨⟩
      · rintro e' r' ⟨⟩
        rfl

/-- A realm in which an array inherits from the object that declares the inspecting function, and is
the receiver of a layer around the function. -/
def inheritingArray : Realm :=
  { ofOptions {} with
    heap := ⟨#[
      { properties := .ofList [("inspect", .object ⟨1⟩)] },
      { kind := .native inspectFunction },
      { prototype := some ⟨0⟩, kind := .array #[.int 5] },
      { kind := .bound ⟨⟨1⟩, .object ⟨2⟩, []⟩ }]⟩ }

/-- A call through the layer changes the array and not its holder. -/
theorem inheritingArray_inspected : ∃ r',
    callWithReceiver (.object ⟨3⟩) .null [] inheritingArray = (.ok .undefined, r') ∧
      Inspected inheritingArray r' ⟨2⟩ (.object ⟨0⟩) := by
  have hl : inheritingArray.heap.Unwraps ⟨3⟩ [(⟨3⟩, ⟨⟨1⟩, .object ⟨2⟩, []⟩)] ⟨1⟩ inspectFunction :=
    .bound rfl rfl (.native rfl rfl)
  have hend : inheritingArray.heap.SearchEnds 1024 [⟨3⟩, ⟨1⟩] (.object ⟨2⟩) (.declared ⟨0⟩) :=
    .declared (.scope rfl (.stop _)) (by decide)
      (List.forall_mem_singleton.mpr (Heap.not_declares rfl rfl)) ⟨_, rfl, rfl⟩
  obtain ⟨hplain, -, -⟩ := inspecting_calls rfl hl (by decide)
  obtain ⟨hok, heffect, -⟩ :=
    hplain (.callWithReceiver (.object ⟨3⟩) .null []) .null [] rfl
  obtain ⟨v, r', hcall⟩ := hok.mpr ⟨⟨2⟩, .object ⟨0⟩, rfl, by decide, by decide, rfl⟩
  obtain ⟨rfl, x, holder, hx, hr, ⟨scope, he, rfl⟩ | ⟨hpolicy, -⟩⟩ := heffect v r' hcall
  · cases hx
    cases he.unique hend
    exact ⟨r', hcall, hr⟩
  · cases hpolicy

/-! ### The identity adapter -/

end Realm
end Invocation
