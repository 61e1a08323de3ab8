/-
# What holds in every state of a run

The invariant of runs: the realm came about by changes of a fresh one, every
handle that the host or an adapter was given names an object, and no operation
failed for a handle that names none. Each step keeps it, since operations on
handles of objects are sound; what an adapter uses was given to it or names an
object anyway.

So the heap is closed in every state of a run, whatever adapters do and however
calls fail, and prototype links never form a cycle: a chain ends after at most as
many scopes as there are objects.

Key definitions: `Run.Inv`.
Key theorems: `Run.step_inv`, `Run.reachable_inv`.
-/
import Invocation.Proofs.Run

namespace Invocation
namespace Run

/-- The handles that an adapter which waits was given. -/
def Waiting.handles (w : Waiting) : List ObjectHandle := w.context.handles ++ w.received

/-- The handles that whoever is at work was given, and those that wait. -/
def Control.handles : Control → List ObjectHandle
  | .host outcome => handlesOf Value.handles outcome
  | .adapter a waiting =>
    a.context.handles ++ a.received ++ waiting.flatMap Waiting.handles

/-- The invariant of runs. -/
structure Inv (options : Options) (s : State) : Prop where
  changes : Realm.Changes (.ofOptions options) s.realm
  handles : ∀ x ∈ s.control.handles, s.realm.heap.Contains x
  raised : ∀ i, .invalidHandle i ∉ s.raised

variable {options : Options} {s s' : State} {r r' : Realm} {raised : List Fault}
  {waiting : List Waiting} {outcome : Except Fault Value}

theorem Inv.closed (hi : Inv options s) : s.realm.Closed :=
  hi.changes.closed (Realm.closed_ofOptions options)

/-! ### Outcomes -/

/-- The handles in an answer name objects. -/
theorem contains_of_answers {α : Type} {h : Heap} {f : α → List ObjectHandle}
    {outcome : Except Fault α} (ha : Answers h f outcome) :
    ∀ x ∈ handlesOf f outcome, h.Contains x := by
  rcases outcome with e | a
  · intro x hx
    cases hx
  · exact ha

/-- An answer adds no fault that a handle names no object. -/
theorem raised_of_answers {α : Type} {h : Heap} {f : α → List ObjectHandle}
    {outcome : Except Fault α} (ha : Answers h f outcome) (hr : ∀ i, .invalidHandle i ∉ raised)
    (i : UInt32) : .invalidHandle i ∉ faultsOf outcome ++ raised := by
  rcases outcome with e | a
  · intro hm
    rcases List.mem_cons.mp hm with he | hm
    · exact ha i he.symm
    · exact hr i hm
  · exact hr i

/-! ### The parts of a step -/

theorem deliver_inv (hch : Realm.Changes (.ofOptions options) r)
    (hr : ∀ i, .invalidHandle i ∉ raised)
    (ho : ∀ x ∈ handlesOf Value.handles outcome, r.heap.Contains x)
    (hw : ∀ x ∈ waiting.flatMap Waiting.handles, r.heap.Contains x) :
    Inv options (.deliver r raised outcome waiting) := by
  rcases waiting with _ | ⟨w, ws⟩
  · exact ⟨hch, ho, hr⟩
  · refine ⟨hch, fun x hx => ?_, hr⟩
    have hx' : x ∈ w.context.handles ++ (handlesOf Value.handles outcome ++ w.received) ++
        ws.flatMap Waiting.handles := hx
    have hmem : x ∈ handlesOf Value.handles outcome ∨ x ∈ (w :: ws).flatMap Waiting.handles := by
      rw [List.flatMap_cons, Waiting.handles]
      simp only [List.mem_append] at hx' ⊢
      grind
    exact hmem.elim (ho x) (hw x)

/-- The result of an invocation is what its adapter returned or the receiver. -/
theorem handles_result (c : Context) (v : Value) :
    ∀ x ∈ (c.result v).handles, x ∈ v.handles ∨ x ∈ c.handles := by
  intro x hx
  unfold Context.result at hx
  split at hx
  · exact Or.inr (List.mem_cons_of_mem _ (List.mem_append_left _ (List.mem_append_left _ hx)))
  · exact Or.inl hx

theorem leave_inv {c : Context} (hch : Realm.Changes (.ofOptions options) r)
    (hr : ∀ i, .invalidHandle i ∉ raised) (hc : ∀ x ∈ c.handles, r.heap.Contains x)
    (ho : ∀ x ∈ handlesOf Value.handles outcome, r.heap.Contains x)
    (hw : ∀ x ∈ waiting.flatMap Waiting.handles, r.heap.Contains x) :
    Inv options (.leave r raised c outcome waiting) := by
  refine deliver_inv (hch.tail (.depth _)) hr ?_ hw
  rcases outcome with e | v
  · exact ho
  · intro x hx
    exact (handles_result c v x hx).elim (ho x) (hc x)

theorem dispatch_inv {mode : CallMode} {callee : Value} {arguments : List Value}
    (hch : Realm.Changes (.ofOptions options) r) (hr : ∀ i, .invalidHandle i ∉ raised)
    (hm : ∀ x ∈ mode.handles, r.heap.Contains x) (hf : ∀ x ∈ callee.handles, r.heap.Contains x)
    (ha : ∀ x ∈ arguments.flatMap Value.handles, r.heap.Contains x)
    (hw : ∀ x ∈ waiting.flatMap Waiting.handles, r.heap.Contains x) :
    Inv options (.dispatch r raised mode callee arguments waiting) := by
  have hopen := Realm.sound_openCall (hch.closed (Realm.closed_ofOptions options)) hm hf ha
  have hw' := hopen.changes.keep hw
  have hch' := hch.trans hopen.changes
  have hans := hopen.answers
  unfold State.dispatch
  generalize Realm.openCall mode callee arguments r = opened at hw' hch' hans
  obtain ⟨e | ⟨f, c⟩, r'⟩ := opened
  · exact deliver_inv hch' (raised_of_answers hans hr) (fun x hx => by cases hx) hw'
  · refine ⟨hch'.tail (.depth _), fun x hx => ?_, hr⟩
    simp only [Control.handles, List.mem_append] at hx
    rcases hx with (hx | hx) | hx
    · exact hans x hx
    · exact hans x hx
    · exact hw' x hx

/-- An operation that is no call is sound. -/
theorem sound_respond {op : Operation} (hleaf : op.isCall = false) (hc : r.Closed)
    (hx : ∀ x ∈ op.handles, r.heap.Contains x) :
    Action.Sound op.replyHandles (Realm.respond op) r := by
  cases op with
  | createObject => exact Realm.sound_createObject hc
  | createArray items => exact Realm.sound_createArray hc hx
  | concat left right => exact .read Realm.answers_concat
  | property target key => exact .read (Realm.answers_property hc hx)
  | setProperty target key value =>
    exact Realm.sound_setProperty (fun x h => hx x (List.mem_append_left _ h))
      (fun x h => hx x (List.mem_append_right _ h))
  | hasOwnProperty target key => exact .read (Realm.answers_hasOwnProperty hc hx)
  | prototypeOf target => exact .read (Realm.answers_prototypeOf hc hx)
  | typeOf value => exact ⟨.refl, fun x h => by cases h⟩
  | symbolDescription id => exact ⟨.refl, fun x h => by cases h⟩
  | arrayLength target => exact .read (Realm.answers_arrayLength hc hx)
  | arrayElement target i => exact .read (Realm.answers_arrayElement hc hx)
  | call callee receiver arguments => cases hleaf

/-- A task of the host is sound. -/
theorem sound_task {t : Task} (hc : r.Closed) (hx : ∀ x ∈ t.handles, r.heap.Contains x) :
    ∃ handles, Action.Sound handles t.act r := by
  cases t with
  | operation op leaf => exact ⟨_, sound_respond leaf hc hx⟩
  | createObjectWithPrototype prototype =>
    exact ⟨_, Realm.sound_createObjectWithPrototype hc fun y hy => hx y (Option.mem_toList.mpr hy)⟩
  | createRecord fields => exact ⟨_, Realm.sound_createRecord hc hx⟩
  | createSymbol description => exact ⟨_, Realm.sound_createSymbol⟩
  | createForeign typeName data => exact ⟨_, Realm.sound_createForeign⟩
  | ownProperty target key => exact ⟨_, .read (Realm.answers_ownProperty? hc hx)⟩
  | setPrototype target prototype =>
    exact ⟨_, Realm.sound_setPrototype hc (fun y hy => hx y (List.mem_append_left _ hy))
      fun y hy => hx y (List.mem_append_right _ (Option.mem_toList.mpr hy))⟩
  | instantiate f => exact ⟨_, Realm.sound_instantiate f hc⟩
  | instantiateRegistered registry name =>
    exact ⟨_, Realm.sound_instantiateRegistered registry name hc⟩
  | loadExports registry => exact ⟨_, Realm.sound_loadExports registry hc⟩
  | installMethod target key function =>
    exact ⟨_, Realm.sound_installMethod (fun y hy => hx y (List.mem_append_left _ hy))
      fun y hy => hx y (List.mem_append_right _ hy)⟩
  | bind callee receiver arguments =>
    simp only [Task.handles, List.mem_append] at hx
    exact ⟨_, Realm.sound_bind hc (fun y hy => hx y (Or.inl (Or.inl hy)))
      (fun y hy => hx y (Or.inl (Or.inr hy))) fun y hy => hx y (Or.inr hy)⟩
  | exportValue value receiver bindFunctions =>
    exact ⟨_, Realm.sound_exportValue hc (fun y hy => hx y (List.mem_append_left _ hy))
      fun y hy => hx y (List.mem_append_right _ hy)⟩

/-- What a call looks up is made of objects. -/
theorem answers_prepare {c : Call} (hc : r.Closed) (hx : ∀ x ∈ c.handles, r.heap.Contains x) :
    Answers r.heap (fun p => p.1.handles ++ p.2.1.handles ++ p.2.2.flatMap Value.handles)
      (c.prepare r) := by
  cases c with
  | call callee arguments =>
    intro x h
    simp only [Call.handles, CallMode.handles, List.mem_append] at hx h
    rcases h with (h | h) | h
    · unfold Realm.implicitReceiver at h
      split at h
      · rw [List.mem_singleton.mp h]
        exact hc.globalObject
      · cases h
    · exact hx x (Or.inl h)
    · exact hx x (Or.inr h)
  | callWithReceiver callee receiver arguments =>
    intro x h
    simp only [Call.handles, CallMode.handles, List.mem_append] at hx h
    grind
  | apply callee receiver list =>
    simp only [Call.handles, List.mem_append] at hx
    have hl : ∀ x ∈ list.handles, r.heap.Contains x := fun x h => hx x (Or.inr h)
    refine (Realm.answers_listedArguments hc hl).map_of fun arguments ha x h => ?_
    simp only [CallMode.handles, List.mem_append] at h
    rcases h with (h | h) | h
    · exact hx x (Or.inl (Or.inr h))
    · exact hx x (Or.inl (Or.inl h))
    · exact ha x h
  | invokeMethod receiver key arguments =>
    simp only [Call.handles, List.mem_append] at hx
    have hr : ∀ x ∈ receiver.handles, r.heap.Contains x := fun x h => hx x (Or.inl h)
    refine (Realm.answers_property hc hr).map_of fun callee ha x h => ?_
    simp only [CallMode.handles, List.mem_append] at h
    rcases h with (h | h) | h
    · exact hr x h
    · exact ha x h
    · exact hx x (Or.inr h)
  | construct callee arguments =>
    intro x h
    simp only [Call.handles, CallMode.handles, List.mem_append, List.not_mem_nil, false_or] at hx h
    exact hx x h

/-! ### Steps -/

theorem perform_inv {t : Task} (hi : Inv options s)
    (hx : ∀ x ∈ t.handles, s.realm.heap.Contains x) :
    Inv options (s.perform t) := by
  obtain ⟨f, hch, hans⟩ := sound_task hi.closed hx
  have hh := hch.keep hi.handles
  unfold State.perform
  generalize t.act s.realm = result at hch hans hh
  obtain ⟨outcome, r⟩ := result
  exact ⟨hi.changes.trans hch, hh, raised_of_answers hans hi.raised⟩

theorem serve_inv {c : Call} (hi : Inv options s) (hx : ∀ x ∈ c.handles, s.realm.heap.Contains x) :
    Inv options (s.serve c) := by
  have ha := answers_prepare hi.closed hx
  have hno : ∀ x ∈ ([] : List Waiting).flatMap Waiting.handles, s.realm.heap.Contains x :=
    fun x h => by simp at h
  unfold State.serve
  cases hp : c.prepare s.realm with
  | error e =>
    rw [hp] at ha
    exact deliver_inv hi.changes (raised_of_answers ha hi.raised) (fun x h => by cases h) hno
  | ok p =>
    obtain ⟨mode, callee, arguments⟩ := p
    rw [hp] at ha
    simp only [Answers, List.mem_append] at ha
    exact dispatch_inv hi.changes hi.raised (fun x h => ha x (Or.inl (Or.inl h)))
      (fun x h => ha x (Or.inl (Or.inr h))) (fun x h => ha x (Or.inr h)) hno

/-- The adapter at work uses handles that it was given and handles of objects only. -/
theorem advance_inv {a : Activation} (hi : Inv options s) (hs : s.control = .adapter a waiting)
    (hx : ∀ x ∈ a.supplied, x ∉ a.received → s.realm.heap.Contains x) :
    Inv options s.advance := by
  have hheld := hi.handles
  rw [hs] at hheld
  simp only [Control.handles, List.mem_append] at hheld
  have hcontext : ∀ x ∈ a.context.handles, s.realm.heap.Contains x :=
    fun x h => hheld x (Or.inl (Or.inl h))
  have hreceived : ∀ x ∈ a.received, s.realm.heap.Contains x :=
    fun x h => hheld x (Or.inl (Or.inr h))
  have hwaiting : ∀ x ∈ waiting.flatMap Waiting.handles, s.realm.heap.Contains x :=
    fun x h => hheld x (Or.inr h)
  have hused : ∀ x ∈ a.supplied, s.realm.heap.Contains x := by
    intro x h
    by_cases hm : x ∈ a.received
    · exact hreceived x hm
    · exact hx x h hm
  refine State.advance_cases hs ?_ ?_ ?_
  · intro outcome hsupplied
    rw [hsupplied] at hused
    exact leave_inv hi.changes hi.raised hcontext hused hwaiting
  · -- the adapter waits for the call and keeps what it was given
    intro callee receiver arguments next hsupplied
    rw [hsupplied] at hused
    simp only [Operation.handles, List.mem_append] at hused
    refine dispatch_inv hi.changes hi.raised (fun x h => hused x (Or.inl (Or.inr h)))
      (fun x h => hused x (Or.inl (Or.inl h))) (fun x h => hused x (Or.inr h)) fun x h => ?_
    simp only [List.flatMap_cons, Waiting.handles, List.mem_append] at h
    rcases h with (h | h) | h
    · exact hcontext x h
    · exact hreceived x h
    · exact hwaiting x h
  · intro op next hleaf hprogram
    rw [Activation.supplied, hprogram] at hused
    obtain ⟨hch, hans⟩ := sound_respond hleaf hi.closed hused
    refine ⟨hi.changes.trans hch, fun x h => ?_, raised_of_answers hans hi.raised⟩
    simp only [Control.handles, List.mem_append] at h
    rcases h with (h | h | h) | h
    · exact hch.contains (hcontext x h)
    · exact contains_of_answers hans x h
    · exact hch.contains (hreceived x h)
    · exact hch.contains (hwaiting x h)

/-- Every step keeps the invariant. -/
theorem step_inv (hi : Inv options s) (step : Step s s') : Inv options s' := by
  cases step with
  | task t _ hx => exact perform_inv hi hx
  | call c _ hx => exact serve_inv hi hx
  | adapter hs hx => exact advance_inv hi hs hx

theorem start_inv (options : Options) : Inv options (.start options) where
  changes := .refl
  handles := fun _ hx => absurd hx List.not_mem_nil
  raised := fun _ => List.not_mem_nil

/-- The invariant holds in every state of a run. -/
theorem reachable_inv (hs : Reachable options s) : Inv options s := by
  induction hs with
  | refl => exact start_inv options
  | tail _ step ih => exact step_inv ih step

/-! ### What it says of heaps -/

/-- In every state of a run, every handle that is stored in the heap names an object, and no
operation of the realm failed for a handle that names none. -/
theorem reachable_closed (hs : Reachable options s) :
    s.realm.heap.Closed ∧ ∀ i, .invalidHandle i ∉ s.raised := by
  have hi := reachable_inv hs
  exact ⟨hi.closed.heap, hi.raised⟩

/-- A function that makes an array of its receiver and calls itself on that array. -/
def nesting : NativeFunction :=
  { name := "nesting", constructible := false, policy := .lenient
    adapter := fun c => do
      let list ← Program.ask (.createArray [c.receiver])
      Program.ask (.call (.object c.callee) list []) }

/-- The state in which the nesting function has called itself once and both calls have made
their arrays. -/
def nested : State :=
  (((State.start {}).perform (.instantiate nesting)).serve
    (.callWithReceiver (.object ⟨4⟩) (.object ⟨0⟩) [])).advance.advance.advance

theorem reachable_nested : Reachable {} nested := by
  refine .head (.task (.instantiate nesting) rfl (by decide)) ?_
  refine .head (.call (.callWithReceiver (.object ⟨4⟩) (.object ⟨0⟩) []) rfl (by decide)) ?_
  refine .head (.adapter rfl (by decide)) ?_
  refine .head (.adapter rfl (by decide)) ?_
  exact .single (.adapter rfl (by decide))

theorem nested_closed :
    nested.realm.heap.Closed ∧ ∀ i, .invalidHandle i ∉ nested.raised :=
  reachable_closed reachable_nested

/-- In every state of a run, every object begins a chain that ends, after at most as many scopes
as there are objects. So a chain is listed in full under any limit that covers the heap. A
prototype is set to an object exactly if the complete chain of that object is within the limit and
avoids the target. -/
theorem reachable_acyclic (hs : Reachable options s) :
    (∀ start, s.realm.heap.Contains start →
      ∃ scopes, s.realm.heap.Path (some start) scopes none ∧ scopes.length ≤ s.realm.heap.size) ∧
    (∀ start limit l, s.realm.heap.size ≤ limit →
      .error (.chainTooDeep l) ∉ s.realm.heap.chain limit start) ∧
    (∀ target start, (Realm.setPrototype (.object target) (some start) s.realm).1 = .ok () ↔
      s.realm.heap.Contains target ∧ ∃ scopes, s.realm.heap.Path (some start) scopes none ∧
        scopes.length ≤ s.realm.options.maxPrototypeDepth ∧ target ∉ scopes) := by
  have hi := reachable_inv hs
  have ha : s.realm.heap.Acyclic := hi.changes.acyclic (Realm.acyclic_ofOptions options)
  refine ⟨?_, ?_, ?_⟩
  · intro start hx
    obtain ⟨scopes, hp⟩ := ha start hx
    exact ⟨scopes, hp, hp.length_le⟩
  · intro start limit l hl
    have hpos : 0 < s.realm.heap.size := Nat.zero_lt_of_lt hi.closed.objectPrototype
    exact ha.chain_ends hl (Nat.lt_of_lt_of_le hpos hl)
  · intro target start
    exact Realm.setPrototype_ok

theorem nested_acyclic :
    (∃ scopes, nested.realm.heap.Path (some ⟨6⟩) scopes none ∧ scopes.length ≤ 7) ∧
      .error (.chainTooDeep 7) ∉ nested.realm.heap.chain 7 ⟨6⟩ :=
  ⟨(reachable_acyclic reachable_nested).1 ⟨6⟩ (by decide),
    (reachable_acyclic reachable_nested).2.1 ⟨6⟩ 7 7 (by decide)⟩

end Run
end Invocation
