/-
# What operations do to any realm

Handles may dangle: nobody checks a handle that is stored, and only the operations
that look into an object fail for one that names none. Still, whatever an operation
is given, it does to a realm one of five things at a time, its edits: an object is
added, a property is written to an object that is there, a prototype is set on one, a
symbol is added, and a foreign value is counted. `Edit` lists them with what the
operations check. So what every edit keeps holds after every operation, if it fails or
not.

There is one lemma `edits_*` for each operation. Operations made of others are
followed with `Edits.bind` and `Edits.read_bind`.

Key definitions: `Heap.WellMade`, `Realm.Edit`, `Realm.Edits`.
Key theorems: `Realm.Edits.bind`, `Realm.setProperty_cases`, `Realm.setPrototype_cases`,
`Realm.edits_instantiate`, `Realm.edits_bind`.
-/
import Invocation.Proofs.Realm.Sound.Objects

namespace Invocation

/-- Two actions, one after the other, relate the realm before them to the one after them if each of
them does. -/
theorem Action.bind_rel {α β : Type} {R : Realm → Realm → Prop}
    (trans : ∀ {r r' r''}, R r r' → R r' r'' → R r r'') {x : Action α} {k : α → Action β}
    (hx : ∀ r, R r (x r).2) (hk : ∀ a r, R r (k a r).2) (r : Realm) : R r ((x >>= k) r).2 := by
  have h1 := hx r
  rw [Action.bind_apply]
  generalize x r = result at h1
  obtain ⟨e | a, r'⟩ := result
  · exact h1
  · exact trans h1 (hk a r')

/-- An object as operations add it: a bound function has a function as its target, and an array has
no property in its table yet. -/
structure Heap.WellMade (h : Heap) (o : HeapObject) : Prop where
  target : ∀ b, o.kind = .bound b → h.HasFunction b.target
  table : ∀ items, o.kind = .array items → o.properties = .empty

/-- An object that is neither an array nor a bound function. -/
theorem Heap.wellMade_of_kind {h : Heap} {o : HeapObject} (hb : ∀ b, o.kind ≠ .bound b)
    (ha : ∀ items, o.kind ≠ .array items) : h.WellMade o :=
  ⟨fun b hk => absurd hk (hb b), fun items hk => absurd hk (ha items)⟩

namespace Realm

/-- One thing that an operation does to a realm. -/
inductive Edit : Realm → Realm → Prop
  | alloc {r : Realm} {o : HeapObject} : r.heap.WellMade o →
      Edit r { r with heap := (r.heap.alloc o).2 }
  | write {r : Realm} {x : ObjectHandle} {o : HeapObject} {key : PropertyKey} {v : Value} :
      r.heap.object? x = some o → o.writeFault? key = none →
      Edit r { r with heap := r.heap.modify x (·.write key v) }
  | link {r : Realm} {x : ObjectHandle} {prototype : Option ObjectHandle}
      {scopes : List ObjectHandle} : r.heap.Contains x → r.heap.Path prototype scopes none →
      x ∉ scopes → Edit r { r with heap := r.heap.modify x fun o => { o with prototype } }
  | symbol {r : Realm} (description : Option String) :
      Edit r { r with symbols := r.symbols.push description }
  | foreign {r : Realm} : Edit r { r with foreignCount := r.foreignCount + 1 }

/-- Any number of edits. -/
abbrev Edits : Realm → Realm → Prop := Relation.ReflTransGen Edit

namespace Edits

variable {α β : Type} {r : Realm}

theorem bind {x : Action α} {k : α → Action β} (hx : ∀ r, Edits r (x r).2)
    (hk : ∀ a r, Edits r (k a r).2) (r : Realm) : Edits r ((x >>= k) r).2 :=
  Action.bind_rel (R := Edits) .trans hx hk r

/-- Going on with what was looked up. -/
theorem read_bind {q : Realm → Except Fault α} {k : α → Action β}
    (hk : ∀ a, q r = .ok a → Edits r (k a r).2) : Edits r ((Action.read q >>= k) r).2 := by
  rw [Action.bind_apply]
  cases hq : q r with
  | error e =>
    simp only [Action.read, hq]
    exact .refl
  | ok a =>
    simp only [Action.read, hq]
    exact hk a hq

end Edits

/-! ### Objects -/

/-- Adding an object that is neither an array nor a bound function. -/
theorem edits_alloc {o : HeapObject} (hb : ∀ b, o.kind ≠ .bound b)
    (ha : ∀ items, o.kind ≠ .array items) (r : Realm) : Edits r (alloc o r).2 :=
  .single (.alloc (Heap.wellMade_of_kind hb ha))

theorem edits_createObjectWithPrototype (prototype : Option ObjectHandle) (r : Realm) :
    Edits r (createObjectWithPrototype prototype r).2 :=
  edits_alloc (o := { prototype }) (by simp) (by simp) r

theorem edits_createRecord (fields : List (PropertyKey × Value)) (r : Realm) :
    Edits r (createRecord fields r).2 :=
  edits_alloc (o := { prototype := some r.objectPrototype, properties := .ofList fields })
    (by simp) (by simp) r

theorem edits_createArray (items : List Value) (r : Realm) : Edits r (createArray items r).2 :=
  .single (.alloc ⟨by simp, fun _ _ => rfl⟩)

theorem edits_createForeign (typeName : String) (data : HostData) (r : Realm) :
    Edits r (createForeign typeName data r).2 := by
  unfold createForeign
  split
  · exact .single .foreign
  · exact .refl

/-- A write fails and changes nothing, or it is to an object that does not refuse it. -/
theorem setProperty_cases (target : Value) (key : PropertyKey) (v : Value) (r : Realm) :
    (∃ e, setProperty target key v r = (.error e, r)) ∨
      ∃ x o, target = .object x ∧ r.heap.object? x = some o ∧ o.writeFault? key = none ∧
        setProperty target key v r =
          (.ok (), { r with heap := r.heap.modify x (·.write key v) }) := by
  cases target with
  | object x =>
    cases ho : r.heap.object x with
    | error e => exact Or.inl ⟨e, by simp only [setProperty, ho]⟩
    | ok o =>
      cases hw : o.writeFault? key with
      | some e => exact Or.inl ⟨e, by simp only [setProperty, ho, hw]⟩
      | none =>
        refine Or.inr ⟨x, o, rfl, Heap.object_eq_ok.mp ho, hw, ?_⟩
        simp only [setProperty, ho, hw]
  | _ => exact Or.inl ⟨_, rfl⟩

theorem setProperty_ok {target v : Value} {key : PropertyKey} {r r' : Realm}
    (h : setProperty target key v r = (.ok (), r')) :
    ∃ x o, target = .object x ∧ r.heap.object? x = some o ∧ o.writeFault? key = none ∧
      r' = { r with heap := r.heap.modify x (·.write key v) } := by
  rcases setProperty_cases target key v r with ⟨e, he⟩ | ⟨x, o, ht, ho, hw, hok⟩
  · rw [he] at h
    cases (Prod.mk.inj h).1
  · rw [hok] at h
    exact ⟨x, o, ht, ho, hw, (Prod.mk.inj h).2.symm⟩

theorem edits_setProperty (target : Value) (key : PropertyKey) (value : Value) (r : Realm) :
    Edits r (setProperty target key value r).2 := by
  rcases setProperty_cases target key value r with ⟨e, he⟩ | ⟨x, o, -, ho, hw, hok⟩
  · rw [he]
  · rw [hok]
    exact .single (.write ho hw)

/-- Setting a prototype fails and changes nothing, or the chain of the prototype avoids
the object. -/
theorem setPrototype_cases (target : Value) (prototype : Option ObjectHandle) (r : Realm) :
    (∃ e, setPrototype target prototype r = (.error e, r)) ∨
      ∃ x scopes, target = .object x ∧ r.heap.Contains x ∧ r.heap.Path prototype scopes none ∧
        x ∉ scopes ∧ setPrototype target prototype r =
          (.ok (), { r with heap := r.heap.modify x fun o => { o with prototype } }) := by
  cases target with
  | object x =>
    cases ho : r.heap.object x with
    | error e => exact Or.inl ⟨e, by simp only [setPrototype, ho]⟩
    | ok o =>
      have hx : r.heap.Contains x := Heap.contains_of_object? (Heap.object_eq_ok.mp ho)
      cases prototype with
      | none =>
        refine Or.inr ⟨x, [], rfl, hx, .stop none, List.not_mem_nil, ?_⟩
        simp only [setPrototype, ho]
      | some start =>
        cases hvisits : r.chainVisits start x with
        | error e => exact Or.inl ⟨e, by simp only [setPrototype, ho, hvisits]⟩
        | ok visits =>
          cases visits with
          | true =>
            exact Or.inl
              ⟨.argument "cyclic prototype chain", by simp only [setPrototype, ho, hvisits]⟩
          | false =>
            obtain ⟨scopes, hp, -, hns⟩ := chainVisits_eq_false.mp hvisits
            refine Or.inr ⟨x, scopes, rfl, hx, hp, hns, ?_⟩
            simp only [setPrototype, ho, hvisits]
  | _ => exact Or.inl ⟨_, rfl⟩

theorem edits_setPrototype (target : Value) (prototype : Option ObjectHandle) (r : Realm) :
    Edits r (setPrototype target prototype r).2 := by
  rcases setPrototype_cases target prototype r with ⟨e, he⟩ | ⟨x, scopes, -, hx, hp, hns, hok⟩
  · rw [he]
  · rw [hok]
    exact .single (.link hx hp hns)

/-! ### Functions -/

theorem edits_instantiate (f : NativeFunction) (r : Realm) : Edits r (instantiate f r).2 := by
  refine Edits.bind (fun _ => .refl) (fun proto => ?_) r
  refine .bind (edits_alloc (by simp) (by simp)) fun handle => ?_
  refine .bind (edits_setProperty _ _ _) fun _ => .bind (edits_setProperty _ _ _) fun _ => ?_
  by_cases hf : f.constructible = true
  · simp only [hf, ↓reduceIte]
    refine .bind (fun r => edits_createObjectWithPrototype (some r.objectPrototype) r) fun _ => ?_
    exact .bind (edits_setProperty _ _ _) fun _ =>
      .bind (edits_setProperty _ _ _) fun _ _ => .refl
  · simp only [hf]
    exact fun _ => .refl

theorem edits_instantiateRegistered (registry : Registry) (name : String) (r : Realm) :
    Edits r (instantiateRegistered registry name r).2 := by
  unfold instantiateRegistered
  cases registry.find? name with
  | none => exact .refl
  | some f => exact edits_instantiate f r

theorem edits_loadInto (registry : Registry)
    (exports : Value) : ∀ (names : List String) (r : Realm),
    Edits r (loadInto registry exports names r).2
  | [], _ => .refl
  | name :: names, r =>
    Edits.bind (edits_instantiateRegistered registry name) (fun _ =>
      .bind (edits_setProperty _ _ _) fun _ => edits_loadInto registry exports names) r

theorem edits_loadExports (registry : Registry) (r : Realm) :
    Edits r (loadExports registry r).2 :=
  Edits.bind (fun r => edits_createObjectWithPrototype (some r.objectPrototype) r)
    (fun exports => .bind (edits_loadInto registry exports registry.names) fun _ _ => .refl) r

theorem edits_installMethod (target : Value) (key : PropertyKey) (function : Value) (r : Realm) :
    Edits r (installMethod target key function r).2 := by
  unfold installMethod
  split
  · exact edits_setProperty target key function r
  · exact .refl

/-- Binding looks whether its target is a function before it makes the bound one. -/
theorem edits_bind (callee receiver : Value) (arguments : List Value) (r : Realm) :
    Edits r (bind callee receiver arguments r).2 := by
  refine .read_bind fun x hx => .read_bind fun length _ => .read_bind fun left _ => ?_
  refine .read_bind fun name _ => .read_bind fun o _ => ?_
  have halloc : Edits r
      (alloc { prototype := o.prototype, kind := .bound ⟨x, receiver, arguments⟩ } r).2 :=
    .single (.alloc ⟨fun b hb => by cases hb; exact hasFunction_of_functionTarget hx, by simp⟩)
  refine halloc.trans (Edits.bind (edits_setProperty _ _ _) (fun _ => ?_) _)
  exact .bind (edits_setProperty _ _ _) fun _ _ => .refl

theorem edits_exportValue (value receiver : Value) (bindFunctions : Bool) (r : Realm) :
    Edits r (exportValue value receiver bindFunctions r).2 := by
  unfold exportValue
  split
  · exact .refl
  · split
    · exact edits_bind _ _ _ r
    · exact .refl
  · exact .refl

end Realm
end Invocation
