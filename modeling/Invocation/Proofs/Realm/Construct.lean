/-
# Construct calls through bound layers

A construct call takes the layers off like a plain call, but their receivers are
of no account: the instance is receiver and holder. It is made before the adapter
is entered, inherits from the `prototype` of the native function object, whatever
the layers around that have, and is the result unless the adapter returns an
object.

That the receivers are of no account is said by erasing them. A realm and the same
realm without the receivers of its bound functions have the same lookup chains and
the same layers but for the receivers (`property_eraseReceivers`,
`Unwraps.eraseReceivers`); so realms that differ in such receivers alone construct
in the same context.

Key definitions: `Realm.eraseReceivers`, `Realm.withInstance`, `Realm.Constructs`.
Key theorems: `Realm.property_eraseReceivers`, `Realm.construct_behind`, `Realm.construct_cases`.
-/
import Invocation.Proofs.Realm.Layers
import Invocation.Proofs.Heap.Handles

namespace Invocation

/-! ### Without receivers -/

def BoundFunction.eraseReceiver (b : BoundFunction) : BoundFunction :=
  { b with receiver := .undefined }

namespace HeapObject

/-- The object, without the receiver if it is a bound function. -/
def eraseReceiver (o : HeapObject) : HeapObject :=
  match o.kind with
  | .bound b => { o with kind := .bound b.eraseReceiver }
  | _ => o

variable (o : HeapObject)

@[simp] theorem prototype_eraseReceiver : o.eraseReceiver.prototype = o.prototype := by
  unfold eraseReceiver
  split <;> rfl

@[simp] theorem ownProperty?_eraseReceiver (key : PropertyKey) :
    o.eraseReceiver.ownProperty? key = o.ownProperty? key := by
  unfold eraseReceiver
  split
  · rename_i b hk
    unfold ownProperty?
    rw [hk]
  · rfl

variable {o}

theorem kind_eraseReceiver_bound {b : BoundFunction} (hk : o.kind = .bound b) :
    o.eraseReceiver.kind = .bound b.eraseReceiver := by
  unfold eraseReceiver
  rw [hk]

/-- Every other object stays as it is. -/
theorem eraseReceiver_of_not_bound (hk : ∀ b, o.kind ≠ .bound b) : o.eraseReceiver = o := by
  unfold eraseReceiver
  split
  · rename_i b hb
    exact absurd hb (hk b)
  · rfl

/-- A bound function without its receiver was a bound function. -/
theorem kind_of_eraseReceiver_bound {b : BoundFunction} (hk : o.eraseReceiver.kind = .bound b) :
    ∃ c, o.kind = .bound c ∧ c.eraseReceiver = b := by
  cases ho : o.kind with
  | bound c =>
    rw [kind_eraseReceiver_bound ho] at hk
    cases hk
    exact ⟨c, rfl, rfl⟩
  | _ =>
    rw [eraseReceiver_of_not_bound (by simp [ho]), ho] at hk
    cases hk

end HeapObject

namespace Heap

/-- The heap without the receivers of its bound functions. -/
def eraseReceivers (h : Heap) : Heap := ⟨h.objects.map HeapObject.eraseReceiver⟩

variable {h : Heap} {start target : ObjectHandle} {layers : Layers} {f : NativeFunction}

@[simp] theorem size_eraseReceivers : h.eraseReceivers.size = h.size := by
  simp [eraseReceivers, size]

theorem object?_eraseReceivers (x : ObjectHandle) :
    h.eraseReceivers.object? x = (h.object? x).map HeapObject.eraseReceiver := by
  simp [eraseReceivers, object?]

theorem object?_of_eraseReceivers {x : ObjectHandle} {o : HeapObject}
    (ho : h.eraseReceivers.object? x = some o) :
    ∃ p, h.object? x = some p ∧ p.eraseReceiver = o := by
  rw [object?_eraseReceivers] at ho
  exact Option.map_eq_some_iff.mp ho

theorem eraseReceivers_alloc (o : HeapObject) :
    (h.alloc o).2.eraseReceivers = (h.eraseReceivers.alloc o.eraseReceiver).2 := by
  simp [eraseReceivers, alloc, Array.map_push]

/-- A walk that pays no heed to receivers goes the same way without them. -/
theorem findScopeFrom?_eraseReceivers {α : Type} {limit : Nat}
    {found : ObjectHandle → HeapObject → Option α}
    (hfound : ∀ x o, found x (HeapObject.eraseReceiver o) = found x o) :
    ∀ (left : Nat) (link : Option ObjectHandle),
      h.eraseReceivers.findScopeFrom? limit found left link = h.findScopeFrom? limit found left link
  | left, none => by cases left <;> rfl
  | 0, some x => rfl
  | left + 1, some x => by
    unfold findScopeFrom? object
    rw [object?_eraseReceivers]
    cases h.object? x with
    | none => rfl
    | some o =>
      simp only [Option.map_some, hfound, HeapObject.prototype_eraseReceiver]
      rw [findScopeFrom?_eraseReceivers hfound left o.prototype]

end Heap

namespace Layers

/-- The layers without their receivers. -/
def eraseReceivers (layers : Layers) : Layers := layers.map fun p => (p.1, p.2.eraseReceiver)

@[simp] theorem length_eraseReceivers (layers : Layers) :
    layers.eraseReceivers.length = layers.length := by
  simp [eraseReceivers]

/-- The arguments of the layers are those that they have without their receivers. -/
@[simp] theorem arguments_eraseReceivers (layers : Layers) :
    layers.eraseReceivers.arguments = layers.arguments := by
  simp [eraseReceivers, arguments, BoundFunction.eraseReceiver, List.flatMap_def, Function.comp_def]

end Layers

namespace Heap.Unwraps

variable {h : Heap} {start target : ObjectHandle} {layers : Layers} {f : NativeFunction}

theorem eraseReceivers (hl : h.Unwraps start layers target f) :
    h.eraseReceivers.Unwraps start layers.eraseReceivers target f := by
  induction hl with
  | @native target o f ho hk =>
    have hsame : o.eraseReceiver = o :=
      HeapObject.eraseReceiver_of_not_bound fun b hb => by rw [hk] at hb; cases hb
    have hobject : h.eraseReceivers.object? target = some o := by
      rw [object?_eraseReceivers, ho, Option.map_some, hsame]
    exact .native hobject hk
  | @bound start target o b layers f ho hk _ ih =>
    have hobject : h.eraseReceivers.object? start = some o.eraseReceiver := by
      rw [object?_eraseReceivers, ho, Option.map_some]
    exact .bound hobject (HeapObject.kind_eraseReceiver_bound hk) ih

/-- Layers without their receivers are those of the heap, which have some. -/
theorem of_eraseReceivers (hl : h.eraseReceivers.Unwraps start layers target f) :
    ∃ full : Layers, full.eraseReceivers = layers ∧ h.Unwraps start full target f := by
  induction hl with
  | @native target o f ho hk =>
    obtain ⟨p, hp, rfl⟩ := object?_of_eraseReceivers ho
    refine ⟨[], rfl, .native hp ?_⟩
    have hsame : p.eraseReceiver = p := by
      refine HeapObject.eraseReceiver_of_not_bound fun b hb => ?_
      rw [HeapObject.kind_eraseReceiver_bound hb] at hk
      cases hk
    rw [← hsame]
    exact hk
  | @bound start target o b layers f ho hk _ ih =>
    obtain ⟨p, hp, rfl⟩ := object?_of_eraseReceivers ho
    obtain ⟨full, rfl, hfull⟩ := ih
    obtain ⟨c, hc, rfl⟩ := HeapObject.kind_of_eraseReceiver_bound hk
    exact ⟨(start, c) :: full, rfl, .bound hp hc hfull⟩

end Heap.Unwraps

namespace Realm

/-- The realm without the receivers of its bound functions. -/
def eraseReceivers (r : Realm) : Realm := { r with heap := r.heap.eraseReceivers }

/-- A realm with a new object that has nothing but a prototype, one level deeper: where the adapter
of a construct call starts. -/
def withInstance (prototype : ObjectHandle) (r : Realm) : Realm :=
  { r with heap := (r.heap.alloc { prototype := some prototype }).2, callDepth := r.callDepth + 1 }

variable {r r' : Realm} {start target : ObjectHandle} {layers : Layers} {f : NativeFunction}

theorem property_eraseReceivers (r : Realm) (target : Value) (key : PropertyKey) :
    r.eraseReceivers.property target key = r.property target key := by
  cases target with
  | object x =>
    have hwalk : r.heap.eraseReceivers.findScope? r.options.maxPrototypeDepth
        (fun _ o => o.ownProperty? key) x =
          r.heap.findScope? r.options.maxPrototypeDepth (fun _ o => o.ownProperty? key) x :=
      Heap.findScopeFrom?_eraseReceivers (fun _ o => o.ownProperty?_eraseReceiver key) _ _
    exact congrArg (Except.map (·.getD .undefined)) hwalk
  | _ => rfl

/-! ### What realms have in common that differ in receivers alone -/

section Alike

variable (he : r'.eraseReceivers = r.eraseReceivers)
include he

theorem options_alike : r'.options = r.options :=
  calc r'.options = r'.eraseReceivers.options := rfl
    _ = r.eraseReceivers.options := by rw [he]
    _ = r.options := rfl

theorem callDepth_alike : r'.callDepth = r.callDepth :=
  calc r'.callDepth = r'.eraseReceivers.callDepth := rfl
    _ = r.eraseReceivers.callDepth := by rw [he]
    _ = r.callDepth := rfl

theorem objectPrototype_alike : r'.objectPrototype = r.objectPrototype :=
  calc r'.objectPrototype = r'.eraseReceivers.objectPrototype := rfl
    _ = r.eraseReceivers.objectPrototype := by rw [he]
    _ = r.objectPrototype := rfl

theorem size_alike : r'.heap.size = r.heap.size :=
  calc r'.heap.size = r'.eraseReceivers.heap.size := Heap.size_eraseReceivers.symm
    _ = r.eraseReceivers.heap.size := by rw [he]
    _ = r.heap.size := Heap.size_eraseReceivers

theorem property_alike (target : Value) (key : PropertyKey) :
    r'.property target key = r.property target key := by
  rw [← property_eraseReceivers r', he, property_eraseReceivers]

/-- The layers of a function differ in their receivers alone. -/
theorem unwraps_alike (hl : r.heap.Unwraps start layers target f) :
    ∃ other : Layers, other.eraseReceivers = layers.eraseReceivers ∧
      r'.heap.Unwraps start other target f := by
  have herased := hl.eraseReceivers
  have hheap : r'.heap.eraseReceivers = r.heap.eraseReceivers := congrArg heap he
  rw [← hheap] at herased
  exact herased.of_eraseReceivers

theorem withInstance_alike (prototype : ObjectHandle) :
    (r'.withInstance prototype).eraseReceivers = (r.withInstance prototype).eraseReceivers := by
  have hentered : ∀ s : Realm, (s.withInstance prototype).eraseReceivers =
      s.eraseReceivers.withInstance prototype := by
    intro s
    unfold withInstance eraseReceivers
    simp only [Heap.eraseReceivers_alloc]
    rfl
  rw [hentered, hentered, he]

end Alike

/-! ### Constructing -/

/-- The prototype of instances, from what was read. -/
theorem instancePrototype_of_property {v : Value}
    (hproto : r.property (.object target) "prototype" = .ok v) :
    r.instancePrototype target = .ok (v.object?.getD r.objectPrototype) := by
  unfold instancePrototype
  rw [hproto]
  cases v <;> rfl

/-- The instance has the next position, and every object stays where it was. -/
theorem object?_withInstance (prototype : ObjectHandle) (hsize : r.heap.size < UInt32.size) :
    r.heap.nextHandle.index.toNat = r.heap.size ∧
    (r.withInstance prototype).heap.size = r.heap.size + 1 ∧
    (r.withInstance prototype).heap.object? r.heap.nextHandle =
        some { prototype := some prototype } ∧
    ∀ x, r.heap.Contains x → (r.withInstance prototype).heap.object? x = r.heap.object? x :=
  ⟨Heap.nextHandle_index hsize, Heap.size_alloc, Heap.object?_alloc_new hsize,
    fun _ hx => Heap.object?_alloc_of_contains hx⟩

/-- A construct call of a function behind layers: one run of its adapter, which sees the instance
that was just made, and the instance for a result that is no object. -/
theorem construct_behind {v : Value} (hl : r.heap.Unwraps start layers target f)
    (hk : f.constructible = true) (hroom : layers.length + 1 ≤ r.options.maxCallDepth)
    (hdepth : r.callDepth < r.options.maxCallDepth)
    (hproto : r.property (.object target) "prototype" = .ok v) (arguments : List Value) :
    construct (.object start) arguments r =
      match (f.adapter
        { kind := .construct, callee := target, name := f.name
          receiver := .object r.heap.nextHandle, holder := .object r.heap.nextHandle
          arguments := layers.arguments ++ arguments }).run respond
            (r.withInstance (v.object?.getD r.objectPrototype)) with
      | (.ok w, r') =>
        (.ok (if w.isObject then w else .object r.heap.nextHandle),
          { r' with callDepth := r.callDepth })
      | (.error e, r') => (.error e, { r' with callDepth := r.callDepth }) := by
  have hres := resolve_behind hl hroom
  have hinstance := instancePrototype_of_property hproto
  rw [construct, dispatch_eq, openCall_construct hres hdepth hk]
  simp only [behind, hinstance]
  rw [enter_eq]
  unfold withInstance
  generalize (f.adapter _).run respond _ = result
  obtain ⟨e | w, r'⟩ := result
  · rfl
  · cases w <;> rfl

/-- A construct call of a function that does not construct. -/
theorem construct_notConstructor (hl : r.heap.Unwraps start layers target f)
    (hk : f.constructible = false) (hroom : layers.length < r.options.maxCallDepth)
    (hdepth : r.callDepth < r.options.maxCallDepth) (arguments : List Value) :
    construct (.object start) arguments r =
      (.error (.notConstructor (r.describe (.object start))), r) := by
  have hno : ¬ (behind layers target f).function.constructible = true := by
    rw [behind, hk]
    exact Bool.false_ne_true
  rw [construct, dispatch_eq, openCall_notConstructor (resolve_behind hl hroom) hdepth hno]

/-- What a construct call of a function behind layers needs to come to its adapter: a function that
constructs, levels for the layers and for the adapter, and what the instance inherits from. -/
structure Constructs (r : Realm) (layers : Layers) (target : ObjectHandle) (f : NativeFunction)
    (v : Value) : Prop where
  constructible : f.constructible = true
  room : layers.length < r.options.maxCallDepth
  depth : r.callDepth < r.options.maxCallDepth
  proto : r.property (.object target) "prototype" = .ok v

/-- A construct call either comes to the adapter or fails and changes nothing. -/
theorem construct_cases (hl : r.heap.Unwraps start layers target f) (arguments : List Value) :
    (∃ v, r.Constructs layers target f v) ∨
      ∃ e, construct (.object start) arguments r = (.error e, r) := by
  by_cases hroom : layers.length < r.options.maxCallDepth
  · have hres := resolve_behind hl hroom
    by_cases hdepth : r.callDepth < r.options.maxCallDepth
    · cases hk : f.constructible with
      | false => exact Or.inr ⟨_, construct_notConstructor hl hk hroom hdepth arguments⟩
      | true =>
        cases hproto : r.property (.object target) "prototype" with
        | ok v => exact Or.inl ⟨v, hk, hroom, hdepth, hproto⟩
        | error e =>
          have hinstance : r.instancePrototype (behind layers target f).target = .error e := by
            rw [behind, instancePrototype, hproto]
            rfl
          refine Or.inr ⟨e, ?_⟩
          rw [construct, dispatch_eq, openCall_construct hres hdepth hk, hinstance]
    · refine Or.inr ⟨.stackExceeded r.options.maxCallDepth, ?_⟩
      rw [construct, dispatch_eq, openCall_exceeded hres (Nat.le_of_not_lt hdepth)]
  · refine Or.inr ⟨.stackExceeded r.options.maxCallDepth, ?_⟩
    rw [construct, dispatch_eq,
      openCall_unresolved (resolve_exceeded hl (Nat.le_of_not_lt hroom))]

/-- A construct call through layers. It makes one object, the instance, with the next position and
nothing but a prototype: what the native function object has as its `prototype` if that is an
object, and the prototype of objects otherwise. Then the adapter runs once, with the instance as
receiver and holder and the arguments of all layers. The result is what the adapter returned if
that is an object, and the instance otherwise. The receivers of the layers are of no account: all
this is so, with the same context, in every realm that differs from `r` in receivers of bound
functions alone. -/
theorem construct_layers {v : Value} (hl : r.heap.Unwraps start layers target f)
    (hk : f.constructible = true) (hroom : layers.length + 1 ≤ r.options.maxCallDepth)
    (hdepth : r.callDepth < r.options.maxCallDepth) (hsize : r.heap.size < UInt32.size)
    (hproto : r.property (.object target) "prototype" = .ok v) (arguments : List Value) :
    ∃ (made prototype : ObjectHandle) (c : Context),
      made.index.toNat = r.heap.size ∧
      prototype = v.object?.getD r.objectPrototype ∧
      c = { kind := .construct, callee := target, name := f.name
            receiver := .object made, holder := .object made
            arguments := layers.arguments ++ arguments } ∧
      ∀ r1 : Realm, r1.eraseReceivers = r.eraseReceivers →
        (r1.withInstance prototype).eraseReceivers = (r.withInstance prototype).eraseReceivers ∧
        (r1.withInstance prototype).heap.size = r.heap.size + 1 ∧
        (r1.withInstance prototype).heap.object? made = some { prototype := some prototype } ∧
        (∀ x, r1.heap.Contains x →
          (r1.withInstance prototype).heap.object? x = r1.heap.object? x) ∧
        construct (.object start) arguments r1 =
          match (f.adapter c).run respond (r1.withInstance prototype) with
          | (.ok w, r') =>
            (.ok (if w.isObject then w else .object made), { r' with callDepth := r.callDepth })
          | (.error e, r') => (.error e, { r' with callDepth := r.callDepth }) := by
  have hindex : r.heap.nextHandle.index.toNat = r.heap.size := Heap.nextHandle_index hsize
  refine ⟨r.heap.nextHandle, _, _, hindex, rfl, rfl, fun r1 he => ?_⟩
  have hsize1 := size_alike he
  have hnext : r1.heap.nextHandle = r.heap.nextHandle :=
    congrArg (fun n => ObjectHandle.mk (Nat.toUInt32 n)) hsize1
  obtain ⟨other, hother, hl1⟩ := unwraps_alike he hl
  have hlength : other.length = layers.length := by
    rw [← Layers.length_eraseReceivers, hother, Layers.length_eraseReceivers]
  have harguments : other.arguments = layers.arguments := by
    rw [← Layers.arguments_eraseReceivers, hother, Layers.arguments_eraseReceivers]
  have hroom1 : other.length + 1 ≤ r1.options.maxCallDepth := by
    rw [hlength, options_alike he]
    exact hroom
  have hdepth1 : r1.callDepth < r1.options.maxCallDepth := by
    rw [callDepth_alike he, options_alike he]
    exact hdepth
  have hproto1 : r1.property (.object target) "prototype" = .ok v := by
    rw [property_alike he, hproto]
  have hrun := construct_behind hl1 hk hroom1 hdepth1 hproto1 arguments
  rw [hnext, harguments, objectPrototype_alike he, callDepth_alike he] at hrun
  have hlarge : r1.heap.size < UInt32.size := by
    rw [hsize1]
    exact hsize
  obtain ⟨-, hgrow, hmade, hkeep⟩ := object?_withInstance (v.object?.getD r.objectPrototype) hlarge
  rw [hnext] at hmade
  rw [hsize1] at hgrow
  exact ⟨withInstance_alike he _, hgrow, hmade, hkeep, hrun⟩

/-- A constructor that keeps its arguments as the instance's `seen`. -/
def keeping : NativeFunction :=
  { name := "keeping"
    adapter := fun c => do
      let seen ← Program.ask (.createArray c.arguments)
      Program.ask (.setProperty c.receiver "seen" seen)
      pure .undefined }

/-- A realm with the constructor behind two layers, whose receivers are the given ones. -/
def twoLayersTo (inner outer : Value) : Realm :=
  { ofOptions {} with
    heap := ⟨#[
      { properties := .ofList [("prototype", .object ⟨1⟩)], kind := .native keeping },
      {},
      { properties := .ofList [("prototype", .null)], kind := .bound ⟨⟨0⟩, inner, [.int 1]⟩ },
      { kind := .bound ⟨⟨2⟩, outer, [.int 2]⟩ }]⟩ }

/-- The instance is made and the same for all receivers of the layers. -/
theorem construct_twoLayersTo :
    construct (.object ⟨3⟩) [.int 3] (twoLayersTo .null .undefined) =
      (.ok (.object ⟨4⟩), { twoLayersTo .null .undefined with
        heap := ⟨(twoLayersTo .null .undefined).heap.objects ++ #[
          { prototype := some ⟨1⟩, properties := .ofList [("seen", .object ⟨5⟩)] },
          { prototype := some (twoLayersTo .null .undefined).arrayPrototype
            kind := .array #[.int 1, .int 2, .int 3] }]⟩ }) ∧
    (construct (.object ⟨3⟩) [.int 3] (twoLayersTo (.object ⟨1⟩) (.bool true))).1 =
      .ok (.object ⟨4⟩) := by
  have hl : (twoLayersTo .null .undefined).heap.Unwraps ⟨3⟩
      [(⟨3⟩, ⟨⟨2⟩, .undefined, [.int 2]⟩), (⟨2⟩, ⟨⟨0⟩, .null, [.int 1]⟩)] ⟨0⟩ keeping :=
    .bound rfl rfl (.bound rfl rfl (.native rfl rfl))
  have hproto : (twoLayersTo .null .undefined).property (.object ⟨0⟩) "prototype" =
      .ok (.object ⟨1⟩) := rfl
  obtain ⟨made, prototype, c, hmade, rfl, rfl, hrun⟩ :=
    construct_layers hl rfl (by decide) (by decide) (by decide) hproto [.int 3]
  obtain rfl : made = ⟨4⟩ := Heap.index_inj.mp hmade
  obtain ⟨-, -, -, -, hfirst⟩ := hrun (twoLayersTo .null .undefined) rfl
  obtain ⟨-, -, -, -, hsecond⟩ := hrun (twoLayersTo (.object ⟨1⟩) (.bool true)) (by
    simp [twoLayersTo, eraseReceivers, Heap.eraseReceivers, HeapObject.eraseReceiver,
      BoundFunction.eraseReceiver])
  rw [hfirst, hsecond]
  exact ⟨rfl, rfl⟩

end Realm
end Invocation
