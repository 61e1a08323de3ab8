/-
# The realm of a fresh session

Loading the argument adapters into a fresh realm always succeeds and leaves the
same eight objects, whatever the options are: the four of every realm, the exports
object, and the two function objects with the prototype of the instances of the
first. Objects that a session makes follow them, so what a session does to its
heap is said by the list of these: `Session.holding options more`. Each operation
that a session makes has one equation on such realms (`*_holding`).

Key definitions: `Session.holding`, `Session.fresh`.
Key theorems: `Session.start_eq`, `Session.exportFrom_inspecting`,
`Session.exportFrom_identity`, `Session.onHeap_alloc`, `Session.onHeap_modify`.
-/
import Invocation.Session
import Invocation.Proofs.ArgumentAdapters
import Invocation.Proofs.Realm.Signature

namespace Invocation
namespace Session

/-- The object that holds the loaded functions. -/
abbrev exportsHandle : ObjectHandle := ⟨4⟩

/-- The function object of the inspecting adapter. -/
abbrev inspectingHandle : ObjectHandle := ⟨5⟩

/-- The prototype of the instances that the inspecting adapter makes. -/
abbrev instancesHandle : ObjectHandle := ⟨6⟩

/-- The function object of the identity adapter. -/
abbrev identityHandle : ObjectHandle := ⟨7⟩

/-- The objects of a fresh session. -/
def loadedObjects : List HeapObject :=
  [ {}, { prototype := some ⟨0⟩ }, { prototype := some ⟨0⟩ }, { prototype := some ⟨0⟩ },
    { prototype := some ⟨0⟩
      properties := .ofList [(Inspect.functionName, .object inspectingHandle),
        (Identity.functionName, .object identityHandle)] },
    { prototype := some ⟨1⟩, kind := .native inspectFunction
      properties := .ofList [("name", .text Inspect.functionName), ("length", .int 0),
        ("prototype", .object instancesHandle)] },
    { prototype := some ⟨0⟩
      properties := .ofList [("constructor", .object inspectingHandle)] },
    { prototype := some ⟨1⟩, kind := .native identityFunction
      properties := .ofList [("name", .text Identity.functionName), ("length", .int 1)] } ]

/-- The realm of a fresh session to which objects were added. -/
def holding (options : Options) (more : List HeapObject) : Realm :=
  { Realm.ofOptions options with heap := ⟨(loadedObjects ++ more).toArray⟩ }

variable {options : Options} {more : List HeapObject} {x entry holder : ObjectHandle} {i : Nat}
  {o : HeapObject} {layers : Layers} {receiver v : Value} {arguments : List Value}

/-! ### Starting a session -/

open Realm

/-- A realm into which functions are loaded: the objects of every realm, the exports object as it is
by then, and the objects that were made since. -/
def loading (options : Options) (exports : HeapObject) (made : List HeapObject) : Realm :=
  { Realm.ofOptions options with heap := ⟨(loadedObjects.take 4 ++ exports :: made).toArray⟩ }

theorem argumentAdapters_names :
    argumentAdapters.names = [Inspect.functionName, Identity.functionName] :=
  List.mergeSort_of_pairwise (by decide)

theorem loadExports_eq (options : Options) :
    loadExports argumentAdapters (.ofOptions options) =
      (.ok (.object exportsHandle), holding options []) := by
  -- the exports object before anything is loaded, and with the first function
  let exports₀ : HeapObject := { prototype := some ⟨0⟩ }
  let exports₁ : HeapObject := exports₀.write Inspect.functionName (.object inspectingHandle)
  let inspecting : List HeapObject := (loadedObjects.drop 5).take 2
  have hexports : createObject (.ofOptions options) =
      (.ok (.object exportsHandle), loading options exports₀ []) := rfl
  have hinspecting : instantiate inspectFunction (loading options exports₀ []) =
      (.ok (.object inspectingHandle), loading options exports₀ inspecting) :=
    Eq.trans (instantiate_constructible rfl (Nat.lt_of_sub_eq_succ rfl)) rfl
  have hfirst : setProperty (.object exportsHandle) Inspect.functionName (.object inspectingHandle)
      (loading options exports₀ inspecting) = (.ok (), loading options exports₁ inspecting) :=
    Eq.trans (setProperty_name rfl (by decide)) rfl
  have hidentity : instantiate identityFunction (loading options exports₁ inspecting) =
      (.ok (.object identityHandle), loading options exports₁ (loadedObjects.drop 5)) :=
    Eq.trans (instantiate_plain rfl (Nat.lt_of_sub_eq_succ rfl)) rfl
  have hsecond : setProperty (.object exportsHandle) Identity.functionName (.object identityHandle)
      (loading options exports₁ (loadedObjects.drop 5)) = (.ok (), holding options []) :=
    Eq.trans (setProperty_name rfl (by decide)) rfl
  have hload : loadInto argumentAdapters (.object exportsHandle) argumentAdapters.names
      (loading options exports₀ []) = (.ok (), holding options []) := by
    rw [argumentAdapters_names]
    refine Eq.trans (Action.bind_of_ok hinspecting) (Eq.trans (Action.bind_of_ok hfirst) ?_)
    exact Eq.trans (Action.bind_of_ok hidentity) (Eq.trans (Action.bind_of_ok hsecond) rfl)
  exact Eq.trans (Action.bind_of_ok hexports) (Action.bind_of_ok hload)

/-- A fresh session. -/
def fresh (options : Options) : Session :=
  ⟨holding options [], argumentAdapters, .object exportsHandle⟩

/-- A session can always be started. -/
theorem start_eq (options : Options) : start options = .ok (fresh options) := by
  unfold start
  rw [loadExports_eq]
  rfl

/-! ### The objects of a session -/

theorem object?_holding (x : ObjectHandle) :
    (holding options more).heap.object? x = (loadedObjects ++ more)[x.index.toNat]? :=
  List.getElem?_toArray

/-- The eight objects stay where they are. -/
theorem object?_loaded (hx : x.index.toNat < 8) :
    (holding options more).heap.object? x = loadedObjects[x.index.toNat]? := by
  rw [object?_holding]
  exact List.getElem?_append_left hx

/-- The prototype of objects is empty and has no prototype itself. -/
theorem root_holding : (holding options more).heap.object? ⟨0⟩ = some {} :=
  object?_loaded (by decide)

/-- The global object is empty. -/
theorem global_holding :
    (holding options more).heap.object? ⟨3⟩ = some { prototype := some ⟨0⟩ } :=
  object?_loaded (by decide)

/-- The added objects follow them. -/
theorem object?_added (hx : x.index.toNat = i + 8) (ho : more[i]? = some o) :
    (holding options more).heap.object? x = some o := by
  have hlength : loadedObjects.length = 8 := rfl
  rw [object?_holding, hx, List.getElem?_append_right (by rw [hlength]; exact Nat.le_add_left 8 i),
    hlength, Nat.add_sub_cancel, ho]

/-- Adding one more object. -/
theorem onHeap_alloc (p : HeapObject) : (holding options more).onHeap (fun h => (h.alloc p).2) =
    holding options (more ++ [p]) := by
  unfold holding Realm.onHeap Heap.alloc
  simp only [List.push_toArray, List.append_assoc]

/-- Changing an added object. -/
theorem onHeap_modify (hx : x.index.toNat = i + 8) (f : HeapObject → HeapObject) :
    (holding options more).onHeap (·.modify x f) = holding options (more.modify i f) := by
  unfold holding Realm.onHeap Heap.modify
  have hlist : (loadedObjects ++ more).modify (i + 8) f = loadedObjects ++ more.modify i f := rfl
  simp only [hx, List.modify_toArray, hlist]

theorem size_holding : (holding options more).heap.size = more.length + 8 := by
  show (loadedObjects ++ more).toArray.size = more.length + 8
  rw [List.size_toArray, List.length_append, Nat.add_comm]
  rfl

theorem nextHandle_holding :
    (holding options more).heap.nextHandle = ⟨(more.length + 8).toUInt32⟩ :=
  congrArg (fun n => ObjectHandle.mk (Nat.toUInt32 n)) size_holding

/-! ### Exports -/

/-- A property of the exports object that is an object is the export of that name. -/
theorem exportFrom_object {r : Realm} {exports : Value} {name : String} {f : ObjectHandle}
    (hv : r.property exports name = .ok (.object f)) :
    exportFrom exports name r = .ok (.object f) := by
  unfold exportFrom
  rw [hv]
  rfl

theorem exportFrom_inspecting (hp : 1 ≤ options.maxPrototypeDepth) :
    exportFrom (.object exportsHandle) Inspect.functionName (holding options more) =
      .ok (.object inspectingHandle) :=
  exportFrom_object (Realm.property_own (object?_loaded (by decide)) rfl hp)

theorem exportFrom_identity (hp : 1 ≤ options.maxPrototypeDepth) :
    exportFrom (.object exportsHandle) Identity.functionName (holding options more) =
      .ok (.object identityHandle) :=
  exportFrom_object (Realm.property_own (object?_loaded (by decide)) rfl hp)

/-- Without room for the exports object itself nothing can be looked up on it. -/
theorem exportFrom_tooDeep (hp : options.maxPrototypeDepth = 0) (name : String) :
    exportFrom (.object exportsHandle) name (holding options more) = .error (.chainTooDeep 0) := by
  unfold exportFrom
  rw [Realm.property_tooDeep hp]
  rfl

/-! ### Steps -/

/-- What makes an object makes the next one. -/
theorem made_holding {x : Action Value}
    (hx : x (holding options more) = (.ok (.object (holding options more).heap.nextHandle),
      (holding options more).onHeap fun h => (h.alloc o).2)) :
    x (holding options more) =
      (.ok (.object ⟨(more.length + 8).toUInt32⟩), holding options (more ++ [o])) := by
  rw [hx, nextHandle_holding, onHeap_alloc]

theorem createObject_holding : createObject (holding options more) =
    (.ok (.object ⟨(more.length + 8).toUInt32⟩),
      holding options (more ++ [{ prototype := some ⟨0⟩ }])) :=
  made_holding (createObject_eq _)

theorem createObjectWithPrototype_holding (prototype : Option ObjectHandle) :
    createObjectWithPrototype prototype (holding options more) =
      (.ok (.object ⟨(more.length + 8).toUInt32⟩),
        holding options (more ++ [{ prototype := prototype }])) :=
  made_holding (createObjectWithPrototype_eq _ _)

theorem createRecord_holding (fields : List (PropertyKey × Value)) :
    createRecord fields (holding options more) =
      (.ok (.object ⟨(more.length + 8).toUInt32⟩),
        holding options (more ++ [{ prototype := some ⟨0⟩, properties := .ofList fields }])) :=
  made_holding (createRecord_eq _ _)

theorem createArray_holding (items : List Value) : createArray items (holding options more) =
    (.ok (.object ⟨(more.length + 8).toUInt32⟩),
      holding options (more ++ [{ prototype := some ⟨2⟩, kind := .array items.toArray }])) :=
  made_holding (createArray_eq _ _)

theorem setProperty_holding {name : String} (hx : x.index.toNat = i + 8)
    (ho : more[i]? = some o) (hname : arrayIndex? name = none) :
    setProperty (.object x) name v (holding options more) =
      (.ok (), holding options (more.modify i (·.write name v))) := by
  rw [setProperty_name (object?_added hx ho) hname, onHeap_modify hx]

theorem hasFunction_inspecting : (holding options more).heap.HasFunction inspectingHandle :=
  ⟨_, object?_loaded (by decide), rfl⟩

/-- Making the inspecting function a method of an added object. -/
theorem installMethod_holding (hx : x.index.toNat = i + 8) (ho : more[i]? = some o) :
    installMethod (.object x) "inspect" (.object inspectingHandle) (holding options more) =
      (.ok (), holding options (more.modify i (·.write "inspect" (.object inspectingHandle)))) := by
  rw [installMethod_name hasFunction_inspecting (object?_added hx ho) (by decide), onHeap_modify hx]

/-! ### Calls -/

theorem unwraps_inspecting :
    (holding options more).heap.Unwraps inspectingHandle [] inspectingHandle inspectFunction :=
  .native (object?_loaded (by decide)) rfl

/-- An added object that was bound to the inspecting function. -/
theorem unwraps_bound {b : BoundFunction} (hx : x.index.toNat = i + 8) (ho : more[i]? = some o)
    (hk : o.kind = .bound b) (hb : b.target = inspectingHandle) :
    (holding options more).heap.Unwraps x [(x, b)] inspectingHandle inspectFunction := by
  refine .bound (object?_added hx ho) hk ?_
  rw [hb]
  exact unwraps_inspecting

theorem unwraps_identity :
    (holding options more).heap.Unwraps identityHandle [] identityHandle identityFunction :=
  .native (object?_loaded (by decide)) rfl

/-- An added object that inherits from the prototype of objects has a chain of two scopes. -/
theorem path_added (hx : x.index.toNat = i + 8) (ho : more[i]? = some o)
    (hproto : o.prototype = some ⟨0⟩) :
    (holding options more).heap.Path (some x) [x, ⟨0⟩] none := by
  refine .scope (object?_added hx ho) ?_
  rw [hproto]
  exact .scope root_holding (.stop none)

/-- A property that such an object has not. -/
theorem property_added_missing {key : PropertyKey} (hp : 2 ≤ options.maxPrototypeDepth)
    (hx : x.index.toNat = i + 8) (ho : more[i]? = some o) (hproto : o.prototype = some ⟨0⟩)
    (hv : o.ownProperty? key = none) :
    (holding options more).property (.object x) key = .ok .undefined := by
  refine property_missing (path_added hx ho hproto) hp ?_
  refine (Heap.passes_cons (object?_added hx ho)).mpr ⟨hv, ?_⟩
  exact (Heap.passes_cons root_holding).mpr ⟨rfl, Heap.passes_nil⟩

/-- The inspecting function cannot be called on such an object that does not declare it. -/
theorem callInspecting_unheld (hp : 2 ≤ options.maxPrototypeDepth) (hc : 1 ≤ options.maxCallDepth)
    (hx : x.index.toNat = i + 8) (ho : more[i]? = some o) (hproto : o.prototype = some ⟨0⟩)
    (hd : o.declares [inspectingHandle] = false) :
    callWithReceiver (.object inspectingHandle) (.object x) [] (holding options more) =
      (.error (.binding Inspect.functionName), holding options more) := by
  refine callWithReceiver_unheld unwraps_inspecting hc hc ?_ []
  refine Heap.holder_undeclared (path_added hx ho hproto) hp ?_
  refine List.forall_mem_cons.mpr ⟨Heap.not_declares (object?_added hx ho) hd, ?_⟩
  exact List.forall_mem_singleton.mpr (Heap.not_declares root_holding rfl)

/-- What the inspecting adapter sees of a plain call. -/
def seenPlain (receiver holder : ObjectHandle) (arguments : List Value) : Context :=
  ⟨.plain, inspectingHandle, Inspect.functionName, .object receiver, .object holder, arguments⟩

/-- What the inspecting adapter sees of a construct call. -/
def seenConstruct (made : ObjectHandle) (arguments : List Value) : Context :=
  ⟨.construct, inspectingHandle, Inspect.functionName, .object made, .object made, arguments⟩

/-- Calling the inspecting function, possibly bound, where the receiver is an added object and has
a holder. -/
theorem callInspecting_holding
    (hl : (holding options more).heap.Unwraps entry layers inspectingHandle inspectFunction)
    (hroom : layers.length + 1 ≤ options.maxCallDepth) (hr : layers.receiverD receiver = .object x)
    (hx : x.index.toNat = i + 8)
    (hh : (holding options more).heap.holder options.maxPrototypeDepth (.object x)
      (layers.candidates inspectingHandle) Inspect.functionName .strict = .ok (.object holder)) :
    callWithReceiver (.object entry) receiver arguments (holding options more) =
      (.ok .undefined, holding options (more.modify i
        (Inspect.record (seenPlain x holder (layers.arguments ++ arguments))))) := by
  have hdepth : (holding options more).callDepth < options.maxCallDepth :=
    Nat.lt_of_lt_of_le (Nat.succ_pos _) hroom
  rw [call_inspecting rfl hl hroom hdepth hr hh, onHeap_modify hx]
  rfl

/-- Constructing with the inspecting function, possibly bound. -/
theorem constructInspecting_holding
    (hl : (holding options more).heap.Unwraps entry layers inspectingHandle inspectFunction)
    (hroom : layers.length + 1 ≤ options.maxCallDepth) (hp : 1 ≤ options.maxPrototypeDepth)
    (hsmall : more.length + 8 < UInt32.size) :
    construct (.object entry) arguments (holding options more) =
      (.ok (.object ⟨(more.length + 8).toUInt32⟩), holding options (more ++ [Inspect.record
        (seenConstruct ⟨(more.length + 8).toUInt32⟩ (layers.arguments ++ arguments))
        { prototype := some instancesHandle }])) := by
  have hproto : (holding options more).property (.object inspectingHandle) "prototype" =
      .ok (.object instancesHandle) := property_own (object?_loaded (by decide)) rfl hp
  have hsize : (holding options more).heap.size < UInt32.size := by
    rw [size_holding]
    exact hsmall
  have hdepth : (holding options more).callDepth < options.maxCallDepth :=
    Nat.lt_of_lt_of_le (Nat.succ_pos _) hroom
  refine Eq.trans (made_holding (construct_inspecting rfl rfl hl hroom hdepth hsize hproto)) ?_
  rw [nextHandle_holding]
  rfl

/-- Calling the identity function on the implicit receiver, which declares it nowhere. Symbols and
foreign values that were made do not matter. -/
theorem callIdentity_holding {symbols : Array (Option String)} {foreignCount : Nat}
    (hp : 2 ≤ options.maxPrototypeDepth) (hc : 1 ≤ options.maxCallDepth) :
    call (.object identityHandle) arguments
      { holding options more with symbols := symbols, foreignCount := foreignCount } =
      (match arguments with
        | [] => .error (.arity Identity.functionName 1 0)
        | v :: _ => .ok v,
        { holding options more with symbols := symbols, foreignCount := foreignCount }) := by
  let r : Realm := { holding options more with symbols := symbols, foreignCount := foreignCount }
  have hheap : r.heap = (holding options more).heap := rfl
  have hl : r.heap.Unwraps identityHandle [] identityHandle identityFunction := by
    rw [hheap]
    exact unwraps_identity
  cases hi : options.implicitReceiver with
  | undefined =>
    rw [call_undefined hi]
    exact call_identity rfl hl hc hc rfl
  | global =>
    have hholder : r.heap.holder options.maxPrototypeDepth (.object ⟨3⟩) [identityHandle]
        Identity.functionName .lenient = .ok (.object ⟨3⟩) := by
      rw [hheap]
      refine Heap.holder_undeclared (.scope global_holding (.scope root_holding (.stop none))) hp ?_
      refine List.forall_mem_cons.mpr ⟨Heap.not_declares global_holding rfl, ?_⟩
      exact List.forall_mem_singleton.mpr (Heap.not_declares root_holding rfl)
    rw [call_global hi]
    exact call_identity rfl hl hc hc hholder

theorem signature_inspecting : (loadedObjects[5]).HasSignature Inspect.functionName 0 :=
  ⟨rfl, rfl, rfl⟩

theorem signature_identity : (loadedObjects[7]).HasSignature Identity.functionName 1 :=
  ⟨rfl, rfl, rfl⟩

/-- Binding one of the loaded functions. -/
theorem bind_holding {f : ObjectHandle} {name : String} {length : Nat}
    (hp : 1 ≤ options.maxPrototypeDepth) (hsmall : more.length + 8 < UInt32.size)
    (hf : f.index.toNat < 8) (ho : loadedObjects[f.index.toNat]? = some o)
    (hs : o.HasSignature name length) (hlt : length < 0x20000000000000) :
    bind (.object f) receiver arguments (holding options more) =
      (.ok (.object ⟨(more.length + 8).toUInt32⟩), holding options (more ++ [boundObject o
        ⟨f, receiver, arguments⟩ ("bound " ++ name) (length - arguments.length)])) := by
  have hobject : (holding options more).heap.object? f = some o := by
    rw [object?_loaded hf, ho]
  have hsize : (holding options more).heap.size < UInt32.size := by
    rw [size_holding]
    exact hsmall
  exact made_holding
    (bind_object hobject hs.isFunction (binds_own hobject hs hlt hp arguments) hsize)

end Session
end Invocation
