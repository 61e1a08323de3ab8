/-
# What operations on objects do to a closed realm

Looking something up answers with handles of objects, since it answers with what
objects of the heap hold. Making an object, writing a property and setting a
prototype are sound.

Key theorems: `Realm.answers_property`, `Realm.sound_setProperty`,
`Realm.sound_setPrototype`.
-/
import Invocation.Proofs.Realm.Sound
import Invocation.Proofs.Text.Rope
import Invocation.Realm.Functions

namespace Invocation

/-! ### Looking things up -/

namespace Realm

open Invocation.Action (Sound)

variable {r : Realm} {target value callee : Value} {key : PropertyKey} {x : ObjectHandle}

theorem object_ok (hx : r.heap.Contains x) : ∃ o, r.heap.object x = .ok o := by
  obtain ⟨o, ho⟩ := Heap.contains_iff.mp hx
  exact ⟨o, Heap.object_eq_ok.mpr ho⟩

/-- The handle of a value that is an object. -/
theorem contains_of_value (hv : ∀ y ∈ (Value.object x).handles, r.heap.Contains y) :
    r.heap.Contains x := hv x List.mem_cons_self

theorem answers_heapObject (hc : r.Closed) (hx : r.heap.Contains x) :
    Answers r.heap HeapObject.handles (r.heap.object x) := by
  obtain ⟨o, ho⟩ := object_ok hx
  rw [ho]
  exact fun y hy => hc.heap.contains (Heap.object_eq_ok.mp ho) hy

theorem answers_object (hc : r.Closed) (ht : ∀ y ∈ target.handles, r.heap.Contains y) :
    Answers r.heap HeapObject.handles (r.object target) := by
  cases target with
  | object x => exact answers_heapObject hc (contains_of_value ht)
  | _ => exact fun i h => by simp at h

theorem answers_ownProperty? (hc : r.Closed) (ht : ∀ y ∈ target.handles, r.heap.Contains y) :
    Answers r.heap (fun v => v.toList.flatMap Value.handles) (r.ownProperty? target key) := by
  refine (answers_object hc ht).map fun o y hy => ?_
  cases ho : o.ownProperty? key with
  | none => simp [ho] at hy
  | some v =>
    simp only [ho, Option.toList_some, List.flatMap_cons, List.flatMap_nil, List.append_nil] at hy
    exact HeapObject.mem_handles_of_ownProperty? ho hy

theorem answers_hasOwnProperty (hc : r.Closed) (ht : ∀ y ∈ target.handles, r.heap.Contains y) :
    Answers r.heap (fun _ => []) (r.hasOwnProperty target key) :=
  (answers_object hc ht).map fun _ _ hy => by simp at hy

theorem answers_prototypeOf (hc : r.Closed) (ht : ∀ y ∈ target.handles, r.heap.Contains y) :
    Answers r.heap Option.toList (r.prototypeOf target) :=
  (answers_object hc ht).map fun _ _ hy =>
    HeapObject.mem_handles.mpr (Or.inl (Option.mem_toList.mp hy))

theorem answers_arrayItems (hc : r.Closed) (ht : ∀ y ∈ target.handles, r.heap.Contains y) :
    Answers r.heap (fun items => items.toList.flatMap Value.handles) (r.arrayItems target) := by
  have ha := answers_object hc ht
  unfold arrayItems
  cases ho : r.object target with
  | error e => exact ha.error ho
  | ok o =>
    simp only [Bind.bind, Except.bind]
    cases hi : o.items? with
    | none => exact fun i h => by simp at h
    | some items =>
      refine fun y hy => ha.ok ho y (HeapObject.mem_handles.mpr (Or.inr (Or.inr ?_)))
      unfold HeapObject.items? at hi
      split at hi
      · rename_i hk
        rw [hk]
        cases hi
        exact hy
      · cases hi

theorem answers_arrayLength (hc : r.Closed) (ht : ∀ y ∈ target.handles, r.heap.Contains y) :
    Answers r.heap (fun _ => []) (r.arrayLength target) :=
  (answers_arrayItems hc ht).map fun _ _ hy => by simp at hy

theorem answers_arrayElement {i : Nat} (hc : r.Closed)
    (ht : ∀ y ∈ target.handles, r.heap.Contains y) :
    Answers r.heap Value.handles (r.arrayElement target i) := by
  refine (answers_arrayItems hc ht).map fun items y hy => ?_
  rw [Array.getD] at hy
  split at hy
  · exact List.mem_flatMap.mpr ⟨_, Array.getElem_mem_toList _, hy⟩
  · cases hy

theorem answers_concat {left right : Value} :
    Answers r.heap Value.handles (r.concat left right) := by
  unfold concat
  split
  · rename_i a b
    rcases hj : Rope.checkedConcat r.options.lazyStringMinLength a b with e | j
    · obtain ⟨cause, rfl⟩ := Rope.panic_of_checkedConcat hj
      exact fun i h => by simp at h
    · exact fun y hy => by cases hy
  · exact fun i h => by simp at h
  · exact fun i h => by simp at h

/-- A walk from an object answers with what it finds at an object. -/
theorem answers_findScope? {α : Type} {limit : Nat} {found : ObjectHandle → HeapObject → Option α}
    {f : α → List ObjectHandle} (hc : r.Closed) (hx : r.heap.Contains x)
    (hfound : ∀ s o a, r.heap.object? s = some o → found s o = some a →
      ∀ y ∈ f a, r.heap.Contains y) :
    Answers r.heap (fun a => a.toList.flatMap f) (r.heap.findScope? limit found x) := by
  rcases hw : r.heap.findScope? limit found x with e | _ | a
  · intro i he
    rw [he] at hw
    exact Heap.findScope?_ne_invalidHandle hc.heap hx i hw
  · intro y hy
    simp at hy
  · obtain ⟨_, s, o, -, -, -, ho, ha⟩ := Heap.findScopeFrom?_eq_some.mp hw
    intro y hy
    simp only [Option.toList_some, List.flatMap_cons, List.flatMap_nil, List.append_nil] at hy
    exact hfound s o a ho ha y hy

/-- What is read along a chain is a value that an object of the heap holds. -/
theorem answers_property (hc : r.Closed) (ht : ∀ y ∈ target.handles, r.heap.Contains y) :
    Answers r.heap Value.handles (r.property target key) := by
  cases target with
  | object x =>
    have hwalk : Answers r.heap (fun a => a.toList.flatMap Value.handles) (r.heap.findScope?
        r.options.maxPrototypeDepth (fun _ o => o.ownProperty? key) x) :=
      answers_findScope? hc (contains_of_value ht) fun s o v ho hv y hy =>
        hc.heap.contains ho (HeapObject.mem_handles_of_ownProperty? hv hy)
    refine hwalk.map fun found y hy => ?_
    cases found with
    | none => simp [Value.handles] at hy
    | some v => simpa using hy
  | undefined => exact fun i h => by simp at h
  | null => exact fun i h => by simp at h
  | _ => exact fun y hy => by cases hy

/-- Whether a chain visits an object is always answered. -/
theorem answers_chainVisits {start : ObjectHandle} (hc : r.Closed) (hx : r.heap.Contains start) :
    Answers r.heap (fun _ => []) (r.chainVisits start x) := by
  refine Answers.map (answers_findScope? (f := fun _ => []) hc hx ?_) fun _ _ hy => by cases hy
  intro s o a _ _ y hy
  cases hy

/-- An object can be called if it is a function. -/
theorem isCallable_object : r.isCallable (.object x) = true ↔ r.heap.HasFunction x := by
  unfold isCallable typeOf Heap.HasFunction
  cases ho : r.heap.object? x with
  | none => simp [ho]
  | some o => cases hfun : o.isFunction <;> simp [ho, hfun]

theorem functionTarget_object {o : HeapObject} (ho : r.heap.object x = .ok o) :
    r.functionTarget (.object x) =
      if o.isFunction then .ok x else .error (.notCallable (r.describe (.object x))) := by
  show (r.heap.object x).bind _ = _
  rw [ho]
  rfl

theorem answers_functionTarget (ht : ∀ y ∈ callee.handles, r.heap.Contains y) :
    Answers r.heap (fun x => [x]) (r.functionTarget callee) := by
  cases callee with
  | object x =>
    have hx := contains_of_value ht
    obtain ⟨o, ho⟩ := object_ok hx
    rw [functionTarget_object ho]
    split
    · intro y hy
      rw [List.mem_singleton.mp hy]
      exact hx
    · exact fun i h => by simp at h
  | _ => exact fun i h => by simp at h

/-- What can be bound is a function. -/
theorem hasFunction_of_functionTarget (h : r.functionTarget callee = .ok x) :
    r.heap.HasFunction x := by
  cases callee with
  | object y =>
    cases ho : r.heap.object y with
    | error e =>
      have heq : r.functionTarget (.object y) = .error e := by
        show (r.heap.object y).bind _ = _
        rw [ho]
        rfl
      rw [heq] at h
      cases h
    | ok o =>
      rw [functionTarget_object ho] at h
      split at h
      · rename_i hfun
        cases h
        exact ⟨o, Heap.object_eq_ok.mp ho, hfun⟩
      · cases h
  | _ => cases h

/-! ### Making and writing objects -/

/-- Admitting an object that is neither an array nor a bound function. -/
theorem admits_of_handles {h : Heap} {o : HeapObject} (ho : ∀ y ∈ o.handles, h.Contains y)
    (hb : ∀ b, o.kind ≠ .bound b) (ha : ∀ items, o.kind ≠ .array items) : h.Admits o :=
  ⟨ho, fun b hk => absurd hk (hb b), fun items hk => absurd hk (ha items)⟩

theorem sound_alloc {o : HeapObject} (ho : r.heap.Admits o) : Sound (fun x => [x]) (alloc o) r := by
  refine ⟨.single (.alloc ho), fun y hy => ?_⟩
  rw [List.mem_singleton.mp hy]
  exact Heap.contains_nextHandle

/-- Adding an object and answering with it. -/
theorem sound_alloc_object {o : HeapObject} (hc : r.Closed) (ho : r.heap.Admits o) :
    Sound Value.handles (alloc o >>= fun x => Pure.pure (.object x)) r :=
  .bind hc (sound_alloc ho) fun _ _ _ _ hx => .pure hx

theorem sound_createObjectWithPrototype {prototype : Option ObjectHandle} (hc : r.Closed)
    (hp : ∀ y ∈ prototype, r.heap.Contains y) :
    Sound Value.handles (createObjectWithPrototype prototype) r := by
  have ho : r.heap.Admits { prototype } := by
    refine admits_of_handles (fun y hy => ?_) (by simp) (by simp)
    rw [handles_of_prototype] at hy
    exact hp y (Option.mem_toList.mp hy)
  exact sound_alloc_object hc ho

theorem sound_createObject (hc : r.Closed) : Sound Value.handles createObject r := by
  have hs : Sound Value.handles (createObjectWithPrototype (some r.objectPrototype)) r :=
    sound_createObjectWithPrototype hc fun y hy => by cases hy; exact hc.objectPrototype
  exact ⟨hs.changes, hs.answers⟩

theorem sound_createRecord {fields : List (PropertyKey × Value)} (hc : r.Closed)
    (hf : ∀ y ∈ fields.flatMap fun p => p.2.handles, r.heap.Contains y) :
    Sound Value.handles (createRecord fields) r := by
  have ho : r.heap.Admits
      { prototype := some r.objectPrototype, properties := .ofList fields } := by
    refine admits_of_handles (fun y hy => ?_) (by simp) (by simp)
    rcases HeapObject.mem_handles.mp hy with hy | ⟨v, hv, hy⟩ | hy
    · cases hy
      exact hc.objectPrototype
    · obtain ⟨p, hp, rfl⟩ := List.mem_map.mp (PropertyTable.mem_values_ofList hv)
      exact hf y (List.mem_flatMap.mpr ⟨p, hp, hy⟩)
    · cases hy
  have hs := sound_alloc_object hc ho
  exact ⟨hs.changes, hs.answers⟩

theorem sound_createArray {items : List Value} (hc : r.Closed)
    (hi : ∀ y ∈ items.flatMap Value.handles, r.heap.Contains y) :
    Sound Value.handles (createArray items) r := by
  have ho : r.heap.Admits { prototype := some r.arrayPrototype, kind := .array items.toArray } := by
    refine ⟨fun y hy => ?_, by simp, fun _ _ => rfl⟩
    rcases HeapObject.mem_handles.mp hy with hy | ⟨v, hv, hy⟩ | hy
    · cases hy
      exact hc.arrayPrototype
    · cases hv
    · exact hi y hy
  have hs := sound_alloc_object hc ho
  exact ⟨hs.changes, hs.answers⟩

theorem sound_createSymbol {description : Option String} :
    Sound Value.handles (createSymbol description) r :=
  ⟨.single (.symbol description), fun y hy => by cases hy⟩

theorem sound_createForeign {typeName : String} {data : HostData} :
    Sound Value.handles (createForeign typeName data) r := by
  by_cases hi : r.options.hostInterop = true
  · have heq : createForeign typeName data r = (.ok (.foreign ⟨r.foreignCount, typeName, data⟩),
        { r with foreignCount := r.foreignCount + 1 }) := if_pos hi
    exact .of_eq heq (.single .foreign) fun y hy => by cases hy
  · exact .fail (if_neg hi) fun i h => by simp at h

theorem writeFault?_ne {o : HeapObject} {e : Fault} (h : o.writeFault? key = some e) (i : UInt32) :
    e ≠ .invalidHandle i := by
  rintro rfl
  unfold HeapObject.writeFault? at h
  split at h
  · split at h
    · split at h <;> cases h
    · cases h
  · cases h

theorem sound_setProperty (ht : ∀ y ∈ target.handles, r.heap.Contains y)
    (hv : ∀ y ∈ value.handles, r.heap.Contains y) :
    Sound (fun _ => []) (setProperty target key value) r := by
  cases target with
  | object x =>
    obtain ⟨o, ho⟩ := object_ok (contains_of_value ht)
    cases hw : o.writeFault? key with
    | some e =>
      have heq : setProperty (.object x) key value r = (.error e, r) := by
        simp only [setProperty, ho, hw]
      exact .fail heq (writeFault?_ne hw)
    | none =>
      have heq : setProperty (.object x) key value r =
          (.ok (), { r with heap := r.heap.modify x (·.write key value) }) := by
        simp only [setProperty, ho, hw]
      exact .of_eq heq (.single (.write (Heap.object_eq_ok.mp ho) hw hv)) fun y hy => by simp at hy
  | _ => exact .fail rfl fun i h => by simp at h

/-- A walk does not come to an object exactly if it is a complete path within the limit that avoids
the object. -/
theorem chainVisits_eq_false {start : ObjectHandle} : r.chainVisits start x = .ok false ↔
    ∃ scopes, r.heap.Path (some start) scopes none ∧
      scopes.length ≤ r.options.maxPrototypeDepth ∧ x ∉ scopes := by
  have hwalk : r.chainVisits start x = .ok false ↔
      r.heap.findScope? r.options.maxPrototypeDepth
        (fun scope _ => if scope = x then some () else none) start = .ok none := by
    unfold chainVisits
    cases r.heap.findScope? r.options.maxPrototypeDepth
      (fun scope _ => if scope = x then some () else none) start with
    | error e => simp [Except.map]
    | ok found => cases found <;> simp [Except.map]
  rw [hwalk]
  unfold Heap.findScope?
  rw [Heap.findScopeFrom?_eq_none]
  constructor
  · rintro ⟨scopes, hp, hl, hpass⟩
    refine ⟨scopes, hp, hl, fun hx => ?_⟩
    obtain ⟨o, ho⟩ := Heap.contains_iff.mp (hp.contains x hx)
    have hfound := hpass x hx o ho
    simp at hfound
  · rintro ⟨scopes, hp, hl, hx⟩
    refine ⟨scopes, hp, hl, fun y hy o _ => ?_⟩
    have hne : ¬ y = x := fun h => hx (h ▸ hy)
    exact if_neg hne

/-- A prototype is set exactly if its chain is complete within the limit and avoids the object. -/
theorem setPrototype_ok {start : ObjectHandle} :
    (setPrototype (.object x) (some start) r).1 = .ok () ↔ r.heap.Contains x ∧
      ∃ scopes, r.heap.Path (some start) scopes none ∧
        scopes.length ≤ r.options.maxPrototypeDepth ∧ x ∉ scopes := by
  rw [← chainVisits_eq_false, Heap.contains_iff]
  cases ho : r.heap.object? x with
  | none =>
    have herr : r.heap.object x = .error (.invalidHandle x.index) :=
      Heap.object_eq_error.mpr ⟨ho, rfl⟩
    simp [setPrototype, herr]
  | some o =>
    have hok : r.heap.object x = .ok o := Heap.object_eq_ok.mpr ho
    cases hv : r.chainVisits start x with
    | error e => simp [setPrototype, hok, hv]
    | ok visits => cases visits <;> simp [setPrototype, hok, hv]

/-- Setting a prototype that is there, to an object that is there. -/
theorem sound_setPrototype {prototype : Option ObjectHandle} (hc : r.Closed)
    (ht : ∀ y ∈ target.handles, r.heap.Contains y) (hp : ∀ y ∈ prototype, r.heap.Contains y) :
    Sound (fun _ => []) (setPrototype target prototype) r := by
  cases target with
  | object x =>
    have hx := contains_of_value ht
    obtain ⟨o, ho⟩ := object_ok hx
    cases prototype with
    | none =>
      have heq : setPrototype (.object x) none r =
          (.ok (), { r with heap := r.heap.modify x fun o => { o with prototype := none } }) := by
        simp only [setPrototype, ho]
      exact .of_eq heq (.single (.link hx (.stop none) List.not_mem_nil)) fun y hy => by simp at hy
    | some start =>
      cases hv : r.chainVisits start x with
      | error e =>
        have heq : setPrototype (.object x) (some start) r = (.error e, r) := by
          simp only [setPrototype, ho]
          simp only [hv]
        exact .fail heq ((answers_chainVisits hc (hp start rfl)).error hv)
      | ok visits =>
        cases visits with
        | true =>
          have heq : setPrototype (.object x) (some start) r =
              (.error (.argument "cyclic prototype chain"), r) := by
            simp only [setPrototype, ho]
            simp only [hv]
          exact .fail heq fun i h => by simp at h
        | false =>
          have heq : setPrototype (.object x) (some start) r = (.ok (),
              { r with heap := r.heap.modify x fun o => { o with prototype := some start } }) := by
            simp only [setPrototype, ho]
            simp only [hv]
          obtain ⟨scopes, hpath, -, hns⟩ := chainVisits_eq_false.mp hv
          exact .of_eq heq (.single (.link hx hpath hns)) fun y hy => by simp at hy
  | _ => exact .fail rfl fun i h => by simp at h

end Realm
end Invocation
