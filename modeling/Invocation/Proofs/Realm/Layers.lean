/-
# Calls through bound layers

A function object is a native function behind any number of bound functions, its
layers. A plain call takes all of them off: the arguments of the layers come first,
those of the innermost layer before those of the one around it, the receiver is
that of the innermost layer, and the holder is sought for every handle under which
the function was called, from the outermost layer to the native function. The
layers and the native function object count against the limit of the call depth.

Key definitions: `Heap.Unwraps`, `Layers.receiverD`, `Layers.arguments`,
`Layers.candidates`, `Realm.Admits`.
Key theorems: `Realm.resolve_layers`, `Realm.callWithReceiver_layers`,
`Realm.callWithReceiver_cases`.
-/
import Invocation.Proofs.Realm.Dispatch

namespace Invocation

/-- Bound functions and their handles, from the outside in. -/
abbrev Layers : Type := List (ObjectHandle × BoundFunction)

namespace Layers

variable (layers : Layers)

/-- The receiver that a call has behind the layers: that of the innermost. -/
def receiverD (receiver : Value) : Value := (layers.getLast?.map (·.2.receiver)).getD receiver

/-- The arguments that the layers put in front, those of the innermost first. -/
def arguments : List Value := layers.reverse.flatMap (·.2.arguments)

/-- The handles under which the native function object behind the layers was called. -/
def candidates (target : ObjectHandle) : List ObjectHandle := layers.map Prod.fst ++ [target]

end Layers

/-- From the object `start`, bound functions lead through `layers` to the native function
object `target`. -/
inductive Heap.Unwraps (h : Heap) :
    ObjectHandle → Layers → ObjectHandle → NativeFunction → Prop
  | native {target : ObjectHandle} {o : HeapObject} {f : NativeFunction} :
      h.object? target = some o → o.kind = .native f → Unwraps h target [] target f
  | bound {start target : ObjectHandle} {o : HeapObject} {b : BoundFunction}
      {layers : Layers} {f : NativeFunction} :
      h.object? start = some o → o.kind = .bound b → Unwraps h b.target layers target f →
      Unwraps h start ((start, b) :: layers) target f

namespace Realm

variable {r : Realm} {start target : ObjectHandle} {layers : Layers} {f : NativeFunction}

/-! ### Taking layers off -/

/-- What a function behind layers comes down to. -/
def behind (layers : Layers) (target : ObjectHandle) (f : NativeFunction) : ResolvedCallee :=
  { target, function := f, receiver := layers.getLast?.map (·.2.receiver)
    arguments := layers.arguments, candidates := layers.candidates target }

theorem wrap_behind (x : ObjectHandle) (b : BoundFunction) :
    (behind layers target f).wrap x b = behind ((x, b) :: layers) target f := by
  have hreceiver : (((x, b) :: layers).getLast?.map (·.2.receiver)) =
      some ((layers.getLast?.map (·.2.receiver)).getD b.receiver) := by
    rw [List.getLast?_cons]
    cases layers.getLast? <;> rfl
  have harguments : Layers.arguments ((x, b) :: layers) = layers.arguments ++ b.arguments := by
    simp [Layers.arguments]
  simp only [behind, ResolvedCallee.wrap, Layers.candidates, hreceiver, harguments, List.map_cons,
    List.cons_append]

/-- Layers come off as long as the limit has room for them and for the native function object. -/
theorem resolveWithin_layers (callee : Value) (hl : r.heap.Unwraps start layers target f) :
    ∀ room : Nat, r.resolveWithin callee room start =
      if layers.length < room then .ok (behind layers target f)
      else .error (.stackExceeded r.options.maxCallDepth) := by
  induction hl with
  | native ho hk =>
    intro room
    cases room with
    | zero => rfl
    | succ room =>
      rw [if_pos (by simp)]
      simp only [resolveWithin, Heap.object, ho, hk]
      rfl
  | @bound start target o b layers f ho hk _ ih =>
    intro room
    cases room with
    | zero => rfl
    | succ room =>
      have hrest := ih room
      by_cases hroom : layers.length < room
      · have hmore : ((start, b) :: layers).length < room + 1 := by
          rw [List.length_cons]
          omega
        rw [if_pos hroom] at hrest
        rw [if_pos hmore]
        simp only [resolveWithin, Heap.object, ho, hk, hrest, wrap_behind]
      · have hmore : ¬ ((start, b) :: layers).length < room + 1 := by
          rw [List.length_cons]
          omega
        rw [if_neg hroom] at hrest
        rw [if_neg hmore]
        simp only [resolveWithin, Heap.object, ho, hk, hrest]

theorem resolve_layers (hl : r.heap.Unwraps start layers target f) :
    r.resolve (.object start) =
      if layers.length + 1 ≤ r.options.maxCallDepth then .ok (behind layers target f)
      else .error (.stackExceeded r.options.maxCallDepth) :=
  resolveWithin_layers (.object start) hl r.options.maxCallDepth

theorem resolve_behind (hl : r.heap.Unwraps start layers target f)
    (hroom : layers.length < r.options.maxCallDepth) :
    r.resolve (.object start) = .ok (behind layers target f) := by
  rw [resolve_layers hl, if_pos (Nat.succ_le_of_lt hroom)]

theorem resolve_exceeded (hl : r.heap.Unwraps start layers target f)
    (hroom : r.options.maxCallDepth ≤ layers.length) :
    r.resolve (.object start) = .error (.stackExceeded r.options.maxCallDepth) := by
  rw [resolve_layers hl, if_neg (Nat.not_le_of_lt (Nat.lt_succ_of_le hroom))]

/-! ### Calls -/

/-- Entering an adapter for a plain call: its outcome is the outcome of the call. -/
theorem enter_plain (f : NativeFunction) {c : Context} (hc : c.kind = .plain) (r : Realm) :
    enter respond f c r =
      match (f.adapter c).run respond { r with callDepth := r.callDepth + 1 } with
      | (outcome, r') => (outcome, { r' with callDepth := r.callDepth }) := by
  have hresult : ∀ outcome : Except Fault Value, outcome.map c.result = outcome := by
    intro outcome
    have hid : c.result = id := by
      funext v
      simp [Context.result, Context.isConstructCall, hc]
    rw [hid]
    cases outcome <;> rfl
  rw [enter_eq]
  simp only [hresult]

/-- A plain call of a function behind layers for which a holder is found. -/
theorem callWithReceiver_layers (hl : r.heap.Unwraps start layers target f)
    (hroom : layers.length + 1 ≤ r.options.maxCallDepth)
    (hdepth : r.callDepth < r.options.maxCallDepth) {receiver holder : Value}
    (hh : r.heap.holder r.options.maxPrototypeDepth (layers.receiverD receiver)
      (layers.candidates target) f.name f.policy = .ok holder) (arguments : List Value) :
    callWithReceiver (.object start) receiver arguments r =
      enter respond f ⟨.plain, target, f.name, layers.receiverD receiver, holder,
        layers.arguments ++ arguments⟩ r := by
  have hres := resolve_behind hl hroom
  have hopen : openCall (.plain receiver) (.object start) arguments r =
      (.ok (f, ⟨.plain, target, f.name, layers.receiverD receiver, holder,
        layers.arguments ++ arguments⟩), r) := by
    rw [openCall_plain hres hdepth]
    unfold Layers.receiverD at hh ⊢
    simp only [behind, hh, Except.map]
  rw [callWithReceiver, dispatch_eq, hopen]

theorem callWithReceiver_exceeded (hl : r.heap.Unwraps start layers target f)
    (hroom : r.options.maxCallDepth < layers.length + 1) (receiver : Value)
    (arguments : List Value) :
    callWithReceiver (.object start) receiver arguments r =
      (.error (.stackExceeded r.options.maxCallDepth), r) := by
  rw [callWithReceiver, dispatch_eq,
    openCall_unresolved (resolve_exceeded hl (Nat.le_of_lt_succ hroom))]

theorem callWithReceiver_unheld (hl : r.heap.Unwraps start layers target f)
    (hroom : layers.length + 1 ≤ r.options.maxCallDepth)
    (hdepth : r.callDepth < r.options.maxCallDepth) {receiver : Value} {e : Fault}
    (hh : r.heap.holder r.options.maxPrototypeDepth (layers.receiverD receiver)
      (layers.candidates target) f.name f.policy = .error e) (arguments : List Value) :
    callWithReceiver (.object start) receiver arguments r = (.error e, r) := by
  have hres := resolve_behind hl hroom
  have hopen : openCall (.plain receiver) (.object start) arguments r = (.error e, r) := by
    rw [openCall_plain hres hdepth]
    unfold Layers.receiverD at hh
    simp only [behind, hh, Except.map]
  rw [callWithReceiver, dispatch_eq, hopen]

theorem callWithReceiver_noLevel (hl : r.heap.Unwraps start layers target f)
    (hdepth : r.options.maxCallDepth ≤ r.callDepth) (receiver : Value) (arguments : List Value) :
    callWithReceiver (.object start) receiver arguments r =
      (.error (.stackExceeded r.options.maxCallDepth), r) := by
  by_cases hroom : layers.length < r.options.maxCallDepth
  · rw [callWithReceiver, dispatch_eq, openCall_exceeded (resolve_behind hl hroom) hdepth]
  · exact callWithReceiver_exceeded hl (Nat.lt_succ_of_le (Nat.le_of_not_lt hroom)) receiver
      arguments

/-- What a plain call of a function behind layers needs to come to its adapter: levels for the
layers and for the adapter, and a holder. -/
structure Admits (r : Realm) (layers : Layers) (target : ObjectHandle) (f : NativeFunction)
    (receiver holder : Value) : Prop where
  room : layers.length < r.options.maxCallDepth
  depth : r.callDepth < r.options.maxCallDepth
  held : r.heap.holder r.options.maxPrototypeDepth (layers.receiverD receiver)
    (layers.candidates target) f.name f.policy = .ok holder

theorem Admits.held_of {receiver holder v : Value} (ha : r.Admits layers target f receiver holder)
    (hv : layers.receiverD receiver = v) : r.heap.holder r.options.maxPrototypeDepth v
      (layers.candidates target) f.name f.policy = .ok holder := by
  rw [← hv]
  exact ha.held

/-- A plain call either comes to the adapter or fails and changes nothing. -/
theorem callWithReceiver_cases (hl : r.heap.Unwraps start layers target f) (receiver : Value)
    (arguments : List Value) : (∃ holder, r.Admits layers target f receiver holder) ∨
      ∃ e, callWithReceiver (.object start) receiver arguments r = (.error e, r) := by
  by_cases hroom : layers.length < r.options.maxCallDepth
  · by_cases hdepth : r.callDepth < r.options.maxCallDepth
    · cases hh : r.heap.holder r.options.maxPrototypeDepth (layers.receiverD receiver)
          (layers.candidates target) f.name f.policy with
      | ok holder => exact Or.inl ⟨holder, hroom, hdepth, hh⟩
      | error e => exact Or.inr ⟨e, callWithReceiver_unheld hl hroom hdepth hh arguments⟩
    · exact Or.inr ⟨_, callWithReceiver_noLevel hl (Nat.le_of_not_lt hdepth) receiver arguments⟩
  · exact Or.inr ⟨_, callWithReceiver_exceeded hl (Nat.lt_succ_of_le (Nat.le_of_not_lt hroom))
      receiver arguments⟩

theorem apply_array {list : ObjectHandle} {o : HeapObject} {items : Array Value}
    (ho : r.heap.object? list = some o) (hk : o.kind = .array items) (callee receiver : Value) :
    apply callee receiver (.object list) r = callWithReceiver callee receiver items.toList r := by
  have hobject : r.object (.object list) = .ok o := by
    show r.heap.object list = .ok o
    rw [Heap.object, ho]
  have hkind : o.items? = some items := by rw [HeapObject.items?, hk]
  have hitems : r.listedArguments (.object list) = .ok items.toList := by
    unfold listedArguments arrayItems
    simp only [hobject, Bind.bind, Except.bind, hkind, Except.map]
  rw [apply, Action.bind_apply]
  simp only [Action.read, hitems]

/-- A plain call through layers. If the limit has room for them and a holder is found, the call is
one run of the adapter of the native function, for the receiver of the innermost layer and the
arguments of all layers, and its outcome is the outcome of that run. If there are more layers than
the limit has room for, no adapter is entered and the realm stays as it is. A call that names no
receiver has the implicit one, and one with a list of arguments has the elements of the array, or
none for undefined and null. -/
theorem call_layers (hl : r.heap.Unwraps start layers target f) :
    (layers.length + 1 ≤ r.options.maxCallDepth → r.callDepth < r.options.maxCallDepth →
      ∀ (receiver : Value) (arguments : List Value) (holder : Value),
        r.heap.holder r.options.maxPrototypeDepth (layers.receiverD receiver)
          (layers.candidates target) f.name f.policy = .ok holder →
        callWithReceiver (.object start) receiver arguments r =
          match (f.adapter
            { kind := .plain, callee := target, name := f.name
              receiver := layers.receiverD receiver, holder
              arguments := layers.arguments ++ arguments }).run respond
                { r with callDepth := r.callDepth + 1 } with
          | (outcome, r') => (outcome, { r' with callDepth := r.callDepth })) ∧
    (r.options.maxCallDepth < layers.length + 1 →
      ∀ (receiver : Value) (arguments : List Value),
        callWithReceiver (.object start) receiver arguments r =
          (.error (.stackExceeded r.options.maxCallDepth), r)) ∧
    (∀ arguments : List Value, call (.object start) arguments r =
      callWithReceiver (.object start) r.implicitReceiver arguments r) ∧
    (∀ (receiver : Value) (list : ObjectHandle) (o : HeapObject) (items : Array Value),
      r.heap.object? list = some o → o.kind = .array items →
        apply (.object start) receiver (.object list) r =
          callWithReceiver (.object start) receiver items.toList r) ∧
    (∀ receiver none : Value, none.isNullish = true →
      apply (.object start) receiver none r = callWithReceiver (.object start) receiver [] r) := by
  refine ⟨?_, ?_, ?_, ?_, ?_⟩
  · intro hroom hdepth receiver arguments holder hh
    rw [callWithReceiver_layers hl hroom hdepth hh arguments]
    exact enter_plain f rfl r
  · intro hroom receiver arguments
    exact callWithReceiver_exceeded hl hroom receiver arguments
  · intro arguments
    rfl
  · intro receiver list o items ho hk
    exact apply_array ho hk (.object start) receiver
  · intro receiver none hnone
    cases none <;> first | rfl | cases hnone

/-- A realm with a function behind two layers. The receiver of the inner layer declares the outer
one, and the function answers with an array of its holder and its arguments. -/
def twoLayers : Realm :=
  { ofOptions {} with
    heap := ⟨#[
      { properties := .ofList [("list", .object ⟨3⟩)] },
      { kind := .native
          { name := "list", adapter := fun c => .ask (.createArray (c.holder :: c.arguments)) } },
      { kind := .bound ⟨⟨1⟩, .object ⟨0⟩, [.int 1]⟩ },
      { kind := .bound ⟨⟨2⟩, .null, [.int 2]⟩ }]⟩ }

theorem call_twoLayers :
    callWithReceiver (.object ⟨3⟩) .undefined [.int 3] twoLayers =
      (.ok (.object ⟨4⟩), { twoLayers with
        heap := ⟨twoLayers.heap.objects.push
          { prototype := some twoLayers.arrayPrototype
            kind := .array #[.object ⟨0⟩, .int 1, .int 2, .int 3] }⟩ }) := by
  have hl : twoLayers.heap.Unwraps ⟨3⟩
      [(⟨3⟩, ⟨⟨2⟩, .null, [.int 2]⟩), (⟨2⟩, ⟨⟨1⟩, .object ⟨0⟩, [.int 1]⟩)] ⟨1⟩
      { name := "list", adapter := fun c => .ask (.createArray (c.holder :: c.arguments)) } :=
    .bound rfl rfl (.bound rfl rfl (.native rfl rfl))
  rw [(call_layers hl).1 (by decide) (by decide) .undefined [.int 3] (.object ⟨0⟩) rfl]
  rfl

end Realm
end Invocation
