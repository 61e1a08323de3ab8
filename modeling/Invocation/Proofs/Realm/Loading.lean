/-
# What loading a registry makes

Loading instantiates the functions of a registry in the order of their names and makes them
properties of a new object. Each function becomes one object, or two if it constructs, so the
place of every object is known from the functions before it. While handles are left the whole
heap after loading is known in one equation (`loadExports_objects`): the heap before, the exports
object, and the objects of one function after the other.

What is found under the names decides everything: the names come out sorted, and each is looked up.
So neither the order of the entries of a registry matters nor that of the registrations, handle for
handle (`loadExports_congr`, `loading_exports`).

Key definitions: `Heap.append`, `Realm.functionObjects`, `Realm.madeObjects`, `Realm.holdAll`,
`Realm.positionOf`, `Realm.Loads`.
Key theorems: `Realm.instantiate_objects`, `Realm.loadInto_objects`, `Realm.loadExports_objects`,
`Realm.madeObjects_split`, `Realm.loadedHandles_eq`, `Realm.loadExports_congr`,
`Realm.loading_exports`.
-/
import Invocation.Proofs.Realm.Signature
import Invocation.Proofs.Registry

namespace Invocation

/-! ### Objects at the end of a heap -/

namespace Heap

def handleAt (n : Nat) : ObjectHandle := ⟨n.toUInt32⟩

/-- Adds objects, one after the other. -/
def append (h : Heap) (os : List HeapObject) : Heap := ⟨h.objects ++ os.toArray⟩

variable {h : Heap} {x : ObjectHandle} {o : HeapObject} {os ps : List HeapObject} {n : Nat}

theorem index_handleAt (hn : n < UInt32.size) : (handleAt n).index.toNat = n :=
  UInt32.toNat_ofNat_of_lt' hn

theorem alloc_eq_append (h : Heap) (o : HeapObject) : (h.alloc o).2 = h.append [o] := by
  simp only [alloc, append, Array.push_eq_append]

@[simp] theorem append_nil (h : Heap) : h.append [] = h := by
  simp [append]

theorem append_append (h : Heap) (os ps : List HeapObject) :
    (h.append os).append ps = h.append (os ++ ps) := by
  simp only [append, Array.append_assoc, List.append_toArray]

@[simp] theorem size_append : (h.append os).size = h.size + os.length := by
  simp [append, size]

/-- What a handle names: an object that was there, or one of the new ones. -/
theorem object?_append : (h.append os).object? x =
    if x.index.toNat < h.size then h.object? x else os[x.index.toNat - h.size]? := by
  simp only [object?, append, size, Array.getElem?_append, List.getElem?_toArray]
  rfl

theorem object?_append_of_contains (hx : h.Contains x) :
    (h.append os).object? x = h.object? x := by
  rw [object?_append]
  exact if_pos hx

theorem object?_append_new (hn : h.size + n < UInt32.size) :
    (h.append os).object? (handleAt (h.size + n)) = os[n]? := by
  rw [object?_append, index_handleAt hn, if_neg (Nat.not_lt.mpr (Nat.le_add_right _ _)),
    Nat.add_sub_cancel_left]

theorem modify_id (h : Heap) (x : ObjectHandle) : h.modify x (fun o => o) = h := by
  unfold modify
  congr 1
  refine Array.ext (by simp) fun i _ _ => ?_
  simp only [Array.getElem_modify, ite_self]

theorem modify_append {f : HeapObject → HeapObject} (hx : h.Contains x) :
    (h.append os).modify x f = (h.modify x f).append os := by
  have hx' : x.index.toNat < h.objects.size := hx
  unfold modify append
  congr 1
  refine Array.ext (by simp) fun i hi hi' => ?_
  simp only [Array.getElem_modify, Array.getElem_append, Array.size_modify]
  split <;> split <;> first | rfl | omega

end Heap

/-- How many objects a function becomes: itself and, if it constructs, the prototype of
its instances. -/
def NativeFunction.objectCount (f : NativeFunction) : Nat := if f.constructible then 2 else 1

/-- How many objects some functions become. -/
def objectCount : List NativeFunction → Nat
  | [] => 0
  | f :: fs => f.objectCount + objectCount fs

theorem objectCount_cons (f : NativeFunction) (fs : List NativeFunction) :
    objectCount (f :: fs) = f.objectCount + objectCount fs := rfl

namespace Realm

open Heap (handleAt)

/-! ### The objects of the functions -/

section Objects

variable (objects functions : ObjectHandle)

/-- The objects that a function becomes at a position of the heap, where `objects` and `functions`
are the prototypes of objects and of functions. -/
def functionObjects (n : Nat) (f : NativeFunction) : List HeapObject :=
  if f.constructible then
    [(nativeObject functions f).write "prototype" (.object (handleAt (n + 1))),
      ({ prototype := some objects } : HeapObject).write "constructor" (.object (handleAt n))]
  else [nativeObject functions f]

/-- The objects that functions become, one after the other. -/
def madeObjects : Nat → List NativeFunction → List HeapObject
  | _, [] => []
  | n, f :: fs => functionObjects objects functions n f ++ madeObjects (n + f.objectCount) fs

/-- An object with the functions as properties that are made from a position on. -/
def holdAll : Nat → List NativeFunction → HeapObject → HeapObject
  | _, [], o => o
  | n, f :: fs, o => holdAll (n + f.objectCount) fs (o.write f.name (.object (handleAt n)))

/-- Where the function of a name is, if functions are made from a position on. -/
def positionOf (name : String) : Nat → List NativeFunction → Nat
  | n, [] => n
  | n, f :: fs => if f.name = name then n else positionOf name (n + f.objectCount) fs

variable {objects functions} {f : NativeFunction} {fs : List NativeFunction} {n : Nat}

@[simp] theorem length_functionObjects :
    (functionObjects objects functions n f).length = f.objectCount := by
  unfold functionObjects NativeFunction.objectCount
  split <;> rfl

@[simp] theorem length_madeObjects : ∀ (n : Nat) (fs : List NativeFunction),
    (madeObjects objects functions n fs).length = objectCount fs
  | _, [] => rfl
  | n, f :: fs => by
    rw [madeObjects, List.length_append, length_functionObjects, length_madeObjects,
      objectCount_cons]

/-- With each name there once, the function of another name is behind the first one. -/
theorem positionOf_of_mem {g : NativeFunction} (hg : g.name ∉ fs.map (·.name)) (hf : f ∈ fs)
    (n : Nat) : positionOf f.name n (g :: fs) = positionOf f.name (n + g.objectCount) fs := by
  have hne : ¬ g.name = f.name := by
    intro heq
    exact hg (List.mem_map.mpr ⟨f, hf, heq.symm⟩)
  rw [positionOf, if_neg hne]

theorem positionOf_head (f : NativeFunction) (n : Nat) (fs : List NativeFunction) :
    positionOf f.name n (f :: fs) = n := by
  rw [positionOf, if_pos rfl]

/-- The objects of a function are at its position. -/
theorem madeObjects_split (objects functions : ObjectHandle) : ∀ {fs : List NativeFunction},
    (fs.map (·.name)).Nodup → f ∈ fs → ∀ n, ∃ before after,
      positionOf f.name n fs = n + before.length ∧
      madeObjects objects functions n fs =
        before ++ (functionObjects objects functions (positionOf f.name n fs) f ++ after)
  | g :: gs, hnodup, hf, n => by
    obtain ⟨hg, hnodup⟩ := List.nodup_cons.mp hnodup
    rcases List.mem_cons.mp hf with rfl | hf
    · refine ⟨[], madeObjects objects functions (n + f.objectCount) gs, ?_, ?_⟩
      · rw [positionOf_head, List.length_nil, Nat.add_zero]
      · rw [positionOf_head, madeObjects, List.nil_append]
    · obtain ⟨before, after, hpos, hmade⟩ :=
        madeObjects_split objects functions hnodup hf (n + g.objectCount)
      refine ⟨functionObjects objects functions n g ++ before, after, ?_, ?_⟩
      · rw [positionOf_of_mem hg hf, hpos, List.length_append, length_functionObjects,
          Nat.add_assoc]
      · rw [positionOf_of_mem hg hf, madeObjects, hmade, List.append_assoc]

/-- The functions fill the positions from the first to the last, without gaps or overlaps. -/
theorem positions_eq : ∀ {fs : List NativeFunction}, (fs.map (·.name)).Nodup → ∀ n,
    (fs.flatMap fun f => List.range' (positionOf f.name n fs) f.objectCount) =
      List.range' n (objectCount fs)
  | [], _, _ => rfl
  | g :: gs, hnodup, n => by
    obtain ⟨hg, hnodup⟩ := List.nodup_cons.mp hnodup
    have hrest : (gs.flatMap fun f => List.range' (positionOf f.name n (g :: gs)) f.objectCount) =
        gs.flatMap fun f =>
          List.range' (positionOf f.name (n + g.objectCount) gs) f.objectCount := by
      refine List.flatMap_congr fun f hf => ?_
      rw [positionOf_of_mem hg hf]
    have happend : List.range' n g.objectCount ++
        List.range' (n + g.objectCount) (objectCount gs) =
          List.range' n (g.objectCount + objectCount gs) := List.range'_append_1
    rw [List.flatMap_cons, hrest, positions_eq hnodup, positionOf_head, happend, objectCount_cons]

/-! ### The exports object -/

variable {o : HeapObject} {name : String}

/-- A write to an ordinary object goes to its table. -/
theorem write_ordinary (hk : o.kind = .ordinary) (key : PropertyKey) (v : Value) :
    o.isLength key = false ∧ o.isPosition key = false ∧
      o.write key v = { o with properties := o.properties.insert key v } := by
  have hlen : o.isLength key = false := by
    unfold HeapObject.isLength
    simp only [hk]
  have hpos : o.isPosition key = false := by
    unfold HeapObject.isPosition
    simp only [hk]
  exact ⟨hlen, hpos, HeapObject.write_table hpos v⟩

theorem kind_write_ordinary (hk : o.kind = .ordinary) (key : PropertyKey) (v : Value) :
    (o.write key v).kind = .ordinary := by
  obtain ⟨-, -, hwrite⟩ := write_ordinary hk key v
  rw [hwrite]
  exact hk

/-- Holding functions changes nothing but the table. -/
theorem holdAll_frame :
    ∀ (fs : List NativeFunction) (n : Nat) {o : HeapObject}, o.kind = .ordinary →
    (holdAll n fs o).kind = .ordinary ∧ (holdAll n fs o).prototype = o.prototype
  | [], _, _, hk => ⟨hk, rfl⟩
  | f :: fs, n, o, hk => by
    obtain ⟨-, -, hwrite⟩ := write_ordinary hk f.name (.object (handleAt n))
    unfold holdAll
    rw [hwrite]
    exact holdAll_frame fs (n + f.objectCount)
      (o := { o with properties := o.properties.insert f.name (.object (handleAt n)) }) hk

theorem keys_holdAll : ∀ {fs : List NativeFunction}, (fs.map (·.name)).Nodup → ∀ (n : Nat)
    {o : HeapObject}, o.kind = .ordinary → (∀ f ∈ fs, .text f.name ∉ o.properties.keys) →
    (holdAll n fs o).properties.keys = o.properties.keys ++ fs.map (.text ·.name)
  | [], _, _, o, _, _ => by
    rw [List.map_nil, List.append_nil]
    rfl
  | f :: fs, hnodup, n, o, hk, hnew => by
    obtain ⟨hf, hnodup⟩ := List.nodup_cons.mp hnodup
    obtain ⟨-, -, hwrite⟩ := write_ordinary hk f.name (.object (handleAt n))
    let p : HeapObject := { o with properties := o.properties.insert f.name (.object (handleAt n)) }
    have hkeys : p.properties.keys = o.properties.keys ++ [.text f.name] := by
      show (o.properties.insert f.name (.object (handleAt n))).keys = _
      rw [PropertyTable.keys_insert, if_neg (hnew f List.mem_cons_self)]
    have hrest : ∀ g ∈ fs, .text g.name ∉ p.properties.keys := by
      intro g hg hmem
      rw [hkeys, List.mem_append, List.mem_singleton] at hmem
      rcases hmem with hmem | heq
      · exact hnew g (List.mem_cons_of_mem f hg) hmem
      · exact hf (List.mem_map.mpr ⟨g, hg, PropertyKey.text.inj heq⟩)
    unfold holdAll
    rw [hwrite, keys_holdAll hnodup (n + f.objectCount) (o := p) hk hrest, hkeys, List.append_assoc]
    rfl

theorem ownProperty?_holdAll_of_not_mem : ∀ {fs : List NativeFunction},
    name ∉ fs.map (·.name) → ∀ (n : Nat) {o : HeapObject}, o.kind = .ordinary →
    (holdAll n fs o).ownProperty? name = o.ownProperty? name
  | [], _, _, _, _ => rfl
  | f :: fs, hname, n, o, hk => by
    rw [List.map_cons, List.mem_cons, not_or] at hname
    obtain ⟨hlen, hpos, -⟩ := write_ordinary hk f.name (.object (handleAt n))
    have hkind := kind_write_ordinary hk f.name (.object (handleAt n))
    have hne : PropertyKey.text name ≠ .text f.name := fun heq => hname.1 (PropertyKey.text.inj heq)
    unfold holdAll
    rw [ownProperty?_holdAll_of_not_mem hname.2 _ hkind, HeapObject.ownProperty?_write hlen hpos,
      if_neg hne]

theorem ownProperty?_holdAll : ∀ {fs : List NativeFunction}, (fs.map (·.name)).Nodup → f ∈ fs →
    ∀ (n : Nat) {o : HeapObject}, o.kind = .ordinary →
    (holdAll n fs o).ownProperty? f.name = some (.object (handleAt (positionOf f.name n fs)))
  | g :: gs, hnodup, hf, n, o, hk => by
    obtain ⟨hg, hnodup⟩ := List.nodup_cons.mp hnodup
    obtain ⟨hlen, hpos, -⟩ := write_ordinary hk g.name (.object (handleAt n))
    have hkind := kind_write_ordinary hk g.name (.object (handleAt n))
    unfold holdAll
    rcases List.mem_cons.mp hf with rfl | hf
    · rw [positionOf_head, ownProperty?_holdAll_of_not_mem hg _ hkind,
        HeapObject.ownProperty?_write hlen hpos, if_pos rfl]
    · rw [positionOf_of_mem hg hf]
      exact ownProperty?_holdAll hnodup hf _ hkind

end Objects

/-! ### The realm after loading -/

variable {r r' : Realm} {x : ObjectHandle} {o : HeapObject} {f : NativeFunction}
  {fs gs : List NativeFunction} {registry : Registry}

/-- Making a function object adds the objects of the function. -/
theorem instantiate_objects (f : NativeFunction)
    (hsize : r.heap.size + f.objectCount ≤ UInt32.size) :
    instantiate f r = (.ok (.object r.heap.nextHandle), r.onHeap
      (·.append (functionObjects r.objectPrototype r.functionPrototype r.heap.size f))) := by
  unfold NativeFunction.objectCount at hsize
  unfold functionObjects onHeap
  by_cases hk : f.constructible = true
  · rw [if_pos hk] at hsize
    simp only [hk, ↓reduceIte]
    rw [instantiate_constructible hk (by omega)]
    unfold onHeap
    simp only [Heap.alloc_eq_append, Heap.append_append]
    rfl
  · rw [if_neg hk] at hsize
    simp only [hk]
    rw [instantiate_plain (Bool.not_eq_true _ ▸ hk) (by omega)]
    unfold onHeap
    simp only [Heap.alloc_eq_append]
    rfl

/-- Loading registered functions by their names into an ordinary object writes them to it and adds
their objects. -/
theorem loadInto_objects : ∀ {fs : List NativeFunction} {r : Realm} {o : HeapObject},
    (∀ f ∈ fs, registry.find? f.name = some f) → r.heap.object? x = some o → o.kind = .ordinary →
    r.heap.size + objectCount fs ≤ UInt32.size →
    loadInto registry (.object x) (fs.map (·.name)) r = (.ok (), r.onHeap fun h =>
      (h.modify x (holdAll r.heap.size fs)).append
        (madeObjects r.objectPrototype r.functionPrototype r.heap.size fs))
  | [], r, o, _, _, _, _ => by
    have hheap : (r.heap.modify x (holdAll r.heap.size [])).append [] = r.heap := by
      rw [Heap.append_nil]
      exact Heap.modify_id r.heap x
    exact congrArg (fun h => (Except.ok (), { r with heap := h })) hheap.symm
  | f :: fs, r, o, hfound, ho, hk, hsize => by
    obtain ⟨hf, hfound⟩ := List.forall_mem_cons.mp hfound
    let made : List HeapObject :=
      functionObjects r.objectPrototype r.functionPrototype r.heap.size f
    let hold : HeapObject → HeapObject := (·.write f.name (.object r.heap.nextHandle))
    let r1 : Realm := r.onHeap (·.append made)
    let r2 : Realm := r1.onHeap (·.modify x hold)
    rw [objectCount_cons] at hsize
    have hx : r.heap.Contains x := Heap.contains_of_object? ho
    have hmade : instantiateRegistered registry f.name r =
        (.ok (.object r.heap.nextHandle), r1) := by
      unfold instantiateRegistered
      rw [hf]
      exact instantiate_objects f (by omega)
    have ho1 : r1.heap.object? x = some o := (Heap.object?_append_of_contains hx).trans ho
    obtain ⟨-, hpos, -⟩ := write_ordinary hk f.name (.object r.heap.nextHandle)
    have hheld : setProperty (.object x) f.name (.object r.heap.nextHandle) r1 = (.ok (), r2) :=
      setProperty_object ho1 (HeapObject.writeFault?_of_not_position hpos)
    have hheap : r2.heap = (r.heap.modify x hold).append made := Heap.modify_append hx
    have ho2 : r2.heap.object? x = some (hold o) := Heap.object?_modify_self ho1
    have hkind : (hold o).kind = .ordinary := kind_write_ordinary hk f.name _
    have hsize2 : r2.heap.size = r.heap.size + f.objectCount := by
      rw [hheap, Heap.size_append, Heap.size_modify]
      exact congrArg (r.heap.size + ·) length_functionObjects
    have hrest := loadInto_objects hfound ho2 hkind (by omega)
    -- both the objects and the writes of the first function go in front of those of the others
    have hall : (r2.heap.modify x (holdAll r2.heap.size fs)).append
        (madeObjects r.objectPrototype r.functionPrototype r2.heap.size fs) =
          (r.heap.modify x (holdAll r.heap.size (f :: fs))).append
            (madeObjects r.objectPrototype r.functionPrototype r.heap.size (f :: fs)) := by
      have hx' : (r.heap.modify x hold).Contains x := Heap.contains_modify.mpr hx
      rw [hsize2, hheap, Heap.modify_append hx', Heap.modify_modify, Heap.append_append]
      rfl
    refine Eq.trans (Action.bind_of_ok hmade) (Eq.trans (Action.bind_of_ok hheld) ?_)
    refine Eq.trans hrest ?_
    exact congrArg (fun h => (Except.ok (), { r with heap := h })) hall

theorem loadExports_objects
    (hsize : r.heap.size + 1 + objectCount registry.functions ≤ UInt32.size) :
    loadExports registry r = (.ok (.object r.heap.nextHandle), r.onHeap
      (·.append (holdAll (r.heap.size + 1) registry.functions
        { prototype := some r.objectPrototype } ::
          madeObjects r.objectPrototype r.functionPrototype (r.heap.size + 1)
            registry.functions))) := by
  let exports : HeapObject := { prototype := some r.objectPrototype }
  let r1 : Realm := r.onHeap fun h => (h.alloc exports).2
  have hsmall : r.heap.size < UInt32.size := by omega
  have ho : r1.heap.object? r.heap.nextHandle = some exports := Heap.object?_alloc_new hsmall
  have hsize1 : r1.heap.size = r.heap.size + 1 := Heap.size_alloc
  have hload := loadInto_objects (fun f => Registry.mem_functions_iff.mp) ho rfl
    (show r1.heap.size + objectCount registry.functions ≤ UInt32.size by omega)
  rw [registry.map_name_functions] at hload
  have hheap : (r1.heap.modify r.heap.nextHandle (holdAll r1.heap.size registry.functions)).append
      (madeObjects r.objectPrototype r.functionPrototype r1.heap.size registry.functions) =
        r.heap.append (holdAll (r.heap.size + 1) registry.functions exports ::
          madeObjects r.objectPrototype r.functionPrototype (r.heap.size + 1)
            registry.functions) := by
    have hchange : r1.heap.modify r.heap.nextHandle (holdAll (r.heap.size + 1) registry.functions) =
        r.heap.append [holdAll (r.heap.size + 1) registry.functions exports] :=
      (Heap.modify_alloc hsmall).trans (Heap.alloc_eq_append _ _)
    rw [hsize1, hchange, Heap.append_append]
    rfl
  refine Eq.trans (Action.bind_of_ok (createObject_eq r)) ?_
  refine Eq.trans (Action.bind_of_ok hload) ?_
  exact congrArg (fun h => (Except.ok (Value.object r.heap.nextHandle), { r with heap := h })) hheap

/-! ### What loading gives -/

/-- The function object of a name, when a registry is loaded into a realm. -/
def loadedFunction (r : Realm) (registry : Registry) (name : String) : ObjectHandle :=
  handleAt (positionOf name (r.heap.size + 1) registry.functions)

/-- The prototype of its instances, if it constructs. -/
def loadedInstances (r : Realm) (registry : Registry) (name : String) : ObjectHandle :=
  handleAt (positionOf name (r.heap.size + 1) registry.functions + 1)

/-- The handles of all that loading makes. -/
def loadedHandles (r : Realm) (registry : Registry) : List ObjectHandle :=
  r.heap.nextHandle :: registry.functions.flatMap fun f =>
    loadedFunction r registry f.name ::
      if f.constructible then [loadedInstances r registry f.name] else []

/-- What loading a registry makes of a realm. Nothing but the heap changes, and there only new
objects are added, whose handles are all different. The first is the exports object: its own
properties are the functions under their names. Each function is an object of its own with the name
and the length of its registration, and with an own `prototype` exactly if it constructs; that is
one more object, with nothing but a `constructor`, which is the function. -/
structure Loads (registry : Registry) (r r' : Realm) : Prop where
  realm : r' = { r with heap := r'.heap }
  size : r'.heap.size = r.heap.size + 1 + objectCount registry.functions
  kept : ∀ x, r.heap.Contains x → r'.heap.object? x = r.heap.object? x
  fresh : ∀ x ∈ loadedHandles r registry, ¬ r.heap.Contains x
  distinct : (loadedHandles r registry).Nodup
  exports : ∃ o, r'.heap.object? r.heap.nextHandle = some o ∧ o.kind = .ordinary ∧
    o.prototype = some r.objectPrototype ∧
    o.properties.keys = registry.names.map .text ∧
    ∀ f ∈ registry.functions,
      o.ownProperty? f.name = some (.object (loadedFunction r registry f.name))
  functions : ∀ f ∈ registry.functions, ∃ o,
    r'.heap.object? (loadedFunction r registry f.name) = some o ∧ o.kind = .native f ∧
    o.prototype = some r.functionPrototype ∧ o.HasSignature f.name f.length.toNat ∧
    o.ownProperty? "prototype" =
      if f.constructible then some (.object (loadedInstances r registry f.name)) else none
  instances : ∀ f ∈ registry.functions, f.constructible = true → ∃ o,
    r'.heap.object? (loadedInstances r registry f.name) = some o ∧ o.kind = .ordinary ∧
    o.prototype = some r.objectPrototype ∧ o.properties.keys = ["constructor"] ∧
    o.ownProperty? "constructor" = some (.object (loadedFunction r registry f.name))

/-- The new handles are those from the end of the heap on. -/
theorem loadedHandles_eq (r : Realm) (registry : Registry) : loadedHandles r registry =
    (List.range' r.heap.size (objectCount registry.functions + 1)).map handleAt := by
  have heach : ∀ f : NativeFunction, (loadedFunction r registry f.name ::
      if f.constructible then [loadedInstances r registry f.name] else []) =
        (List.range' (positionOf f.name (r.heap.size + 1) registry.functions)
          f.objectCount).map handleAt := by
    intro f
    unfold NativeFunction.objectCount
    split <;> rfl
  have hall : (registry.functions.flatMap fun f => loadedFunction r registry f.name ::
      if f.constructible then [loadedInstances r registry f.name] else []) =
        (List.range' (r.heap.size + 1) (objectCount registry.functions)).map handleAt := by
    simp only [heach]
    rw [← List.map_flatMap, positions_eq registry.functions_nodup]
  unfold loadedHandles
  rw [hall, List.range'_succ, List.map_cons]
  rfl

theorem functionObjects_function (objects functions : ObjectHandle) (n : Nat) (f : NativeFunction) :
    ∃ o, (functionObjects objects functions n f)[0]? = some o ∧ o.kind = .native f ∧
      o.prototype = some functions ∧ o.HasSignature f.name f.length.toNat ∧
      o.ownProperty? "prototype" =
        if f.constructible then some (.object (handleAt (n + 1))) else none := by
  have hs := nativeObject_signature functions f
  unfold functionObjects
  by_cases hk : f.constructible = true
  · rw [if_pos hk, if_pos hk]
    refine ⟨_, rfl, rfl, rfl, hs.write (by decide) (by decide) _, ?_⟩
    rw [HeapObject.ownProperty?_write_function hs.isFunction, if_pos rfl]
  · rw [if_neg hk, if_neg hk]
    exact ⟨_, rfl, rfl, rfl, hs, rfl⟩

variable {n i : Nat}

theorem object?_loaded (hsize : r.heap.size + 1 + objectCount registry.functions ≤ UInt32.size)
    (hf : f ∈ registry.functions) (hi : i < f.objectCount) :
    (r.heap.append (o :: madeObjects r.objectPrototype r.functionPrototype (r.heap.size + 1)
      registry.functions)).object?
        (handleAt (positionOf f.name (r.heap.size + 1) registry.functions + i)) =
      (functionObjects r.objectPrototype r.functionPrototype
        (positionOf f.name (r.heap.size + 1) registry.functions) f)[i]? := by
  obtain ⟨before, after, hpos, hmade⟩ := madeObjects_split r.objectPrototype
    r.functionPrototype registry.functions_nodup hf (r.heap.size + 1)
  generalize positionOf f.name (r.heap.size + 1) registry.functions = p at hpos hmade ⊢
  generalize hobjects : functionObjects r.objectPrototype r.functionPrototype p f = os at hmade
  have hlength : os.length = f.objectCount := by
    rw [← hobjects, length_functionObjects]
  have htotal : (before ++ (os ++ after)).length = objectCount registry.functions := by
    rw [← hmade, length_madeObjects]
  rw [List.length_append, List.length_append] at htotal
  have hindex : p + i = r.heap.size + (before.length + i + 1) := by omega
  rw [hindex, Heap.object?_append_new (by omega), List.getElem?_cons_succ, hmade,
    List.getElem?_append_right (Nat.le_add_right _ _), Nat.add_sub_cancel_left,
    List.getElem?_append_left (by omega)]

/-- Loading a registry while handles are left. -/
theorem loads (hsize : r.heap.size + 1 + objectCount registry.functions ≤ UInt32.size) :
    ∃ r', loadExports registry r = (.ok (.object r.heap.nextHandle), r') ∧ Loads registry r r' := by
  have hnodup : (registry.functions.map (·.name)).Nodup := registry.functions_nodup
  have hindex : ∀ n ∈ List.range' r.heap.size (objectCount registry.functions + 1),
      r.heap.size ≤ n ∧ (handleAt n).index.toNat = n := by
    intro n hn
    rw [List.mem_range'_1] at hn
    exact ⟨hn.1, Heap.index_handleAt (by omega)⟩
  refine ⟨_, loadExports_objects hsize, ?_⟩
  constructor
  case realm => rfl
  case size =>
    show (r.heap.append _).size = _
    rw [Heap.size_append, List.length_cons, length_madeObjects]
    omega
  case kept => exact fun x hx => Heap.object?_append_of_contains hx
  case fresh =>
    intro x hx
    rw [loadedHandles_eq] at hx
    obtain ⟨n, hn, rfl⟩ := List.mem_map.mp hx
    obtain ⟨hlow, hn⟩ := hindex n hn
    rw [Heap.Contains, hn]
    exact Nat.not_lt.mpr hlow
  case distinct =>
    rw [loadedHandles_eq]
    refine List.Nodup.map_on ?_ List.nodup_range'
    intro n hn m hm heq
    rw [← (hindex n hn).2, ← (hindex m hm).2, heq]
  case exports =>
    let exports : HeapObject := { prototype := some r.objectPrototype }
    obtain ⟨hkind, hproto⟩ :=
      holdAll_frame registry.functions (r.heap.size + 1) (o := exports) rfl
    refine ⟨holdAll (r.heap.size + 1) registry.functions exports, ?_, hkind, hproto, ?_, ?_⟩
    · exact Heap.object?_append_new (n := 0) (by omega)
    · rw [keys_holdAll hnodup _ rfl fun _ _ => List.not_mem_nil, ← registry.map_name_functions,
        List.map_map]
      rfl
    · exact fun f hf => ownProperty?_holdAll hnodup hf _ rfl
  case functions =>
    intro f hf
    obtain ⟨o, ho, hrest⟩ := functionObjects_function r.objectPrototype r.functionPrototype
      (positionOf f.name (r.heap.size + 1) registry.functions) f
    refine ⟨o, ?_, hrest⟩
    rw [← ho]
    refine object?_loaded hsize hf (i := 0) ?_
    unfold NativeFunction.objectCount
    split <;> omega
  case instances =>
    intro f hf hk
    refine ⟨({ prototype := some r.objectPrototype } : HeapObject).write "constructor"
      (.object (loadedFunction r registry f.name)), ?_, rfl, rfl, rfl, rfl⟩
    have hcount : f.objectCount = 2 := if_pos hk
    refine (object?_loaded hsize hf (i := 1) (by omega)).trans ?_
    unfold functionObjects
    rw [if_pos hk]
    rfl

/-! ### Whatever the order -/

theorem loadInto_congr {registry' : Registry}
    (h : ∀ name, registry.find? name = registry'.find? name) (exports : Value) :
    ∀ names : List String, loadInto registry exports names = loadInto registry' exports names
  | [] => rfl
  | name :: names => by
    unfold loadInto instantiateRegistered
    rw [h name, loadInto_congr h exports names]

/-- Registries that hold the same under every name are loaded alike. -/
theorem loadExports_congr {registry' : Registry}
    (h : ∀ name, registry.find? name = registry'.find? name) :
    loadExports registry = loadExports registry' := by
  unfold loadExports
  rw [Registry.names_congr h]
  simp only [loadInto_congr h]

/-- Loading the functions that some registrations leave, in any realm that has room for their
objects. It never fails. The result is a new object with the functions as its properties, one for
each name that was registered: the last function registered under it. The names are in strict order.
Nothing that was there changes, and all that is made is new and different. A registry gives the same
result and the same realm, in whatever order its entries stand and whatever registrations they come
from, as long as these agree on the last function of each name. -/
theorem loading_exports (fs : List NativeFunction) (r : Realm)
    (hsize : r.heap.size + 1 + objectCount (Registry.ofList fs).functions < UInt32.size) :
    ∃ r', loadExports (.ofList fs) r = (.ok (.object r.heap.nextHandle), r') ∧
      Loads (.ofList fs) r r' ∧
      (∀ f, f ∈ (Registry.ofList fs).functions ↔ Registry.latest? fs f.name = some f) ∧
      (Registry.ofList fs).names.Pairwise (· < ·) ∧
      (∀ name, name ∈ (Registry.ofList fs).names ↔ name ∈ fs.map (·.name)) ∧
      ∀ gs (registry : Registry), registry.entries.Perm (Registry.ofList gs).entries →
        (∀ name, Registry.latest? gs name = Registry.latest? fs name) →
        loadExports registry r = loadExports (.ofList fs) r := by
  obtain ⟨r', hload, hloads⟩ := loads (Nat.le_of_lt hsize)
  refine ⟨r', hload, hloads, ?_, Registry.names_sorted _, ?_, ?_⟩
  · intro f
    rw [Registry.mem_functions_iff, Registry.find?_ofList]
  · exact fun name => Registry.mem_names_ofList
  · intro gs registry hperm hlatest
    have hsame : ∀ name, registry.find? name = (Registry.ofList fs).find? name := by
      intro name
      rw [Registry.find?_perm hperm, Registry.find?_ofList, Registry.find?_ofList, hlatest]
    rw [loadExports_congr hsame]

def lowering : NativeFunction :=
  { name := "lower", constructible := false, adapter := fun _ => pure .undefined }

def raising : NativeFunction := { name := "raise", adapter := fun _ => pure .undefined }

/-- A function that replaces it. -/
def raisingBoth : NativeFunction :=
  { name := "raise", length := 2, adapter := fun _ => pure .undefined }

/-- The functions that stay, in another order than they were registered in. -/
def turnedRound : Registry := ⟨[lowering, raisingBoth], by decide⟩

/-- In other orders and without what was replaced, the same functions are loaded to the
same places. -/
theorem loading_replaced : ∃ r',
    loadExports (.ofList [raising, lowering, raisingBoth]) (ofOptions {}) =
      (.ok (.object ⟨4⟩), r') ∧
    loadExports turnedRound (ofOptions {}) = (.ok (.object ⟨4⟩), r') ∧
    ∃ o, r'.heap.object? ⟨6⟩ = some o ∧ o.kind = .native raisingBoth := by
  have hlatest : ∀ name, Registry.latest? [raisingBoth, lowering] name =
      Registry.latest? [raising, lowering, raisingBoth] name := by
    intro name
    simp only [Registry.latest?_cons]
    by_cases hname : raisingBoth.name = name
    · have hother : ¬ lowering.name = name := by
        rw [← hname]
        decide
      simp [hname, hother, Registry.latest?]
    · have hother : ¬ raising.name = name := hname
      simp [hname, hother, Registry.latest?]
  have hturned : ∀ name, (Registry.ofList [raising, lowering, raisingBoth]).find? name =
      turnedRound.find? name := by
    intro name
    rw [Registry.find?_ofList, ← hlatest, ← Registry.find?_ofList]
    exact Registry.find?_perm (.swap _ _ _) name
  have hnames : (Registry.ofList [raising, lowering, raisingBoth]).names = ["lower", "raise"] :=
    (Registry.names_congr hturned).trans (List.mergeSort_of_pairwise (by decide))
  have hfunctions : (Registry.ofList [raising, lowering, raisingBoth]).functions =
      [lowering, raisingBoth] := by
    rw [Registry.functions, hnames]
    rfl
  obtain ⟨r', hload, hloads, -, -, -, hsame⟩ :=
    loading_exports [raising, lowering, raisingBoth] (ofOptions {}) (by rw [hfunctions]; decide)
  obtain ⟨o, ho, hk, -⟩ := hloads.functions raisingBoth (Registry.mem_functions_iff.mpr rfl)
  rw [loadedFunction, hfunctions] at ho
  refine ⟨r', hload, ?_, o, ho, hk⟩
  rw [hsame [raisingBoth, lowering] turnedRound (.swap _ _ _) hlatest]
  exact hload

end Realm
end Invocation
