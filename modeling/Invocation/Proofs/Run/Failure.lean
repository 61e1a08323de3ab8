/-
# Failures change nothing

An operation that changes a realm reads and checks first and writes last: when it
fails, the realm is as it was (`Action.Atomic`). For operations of several steps
this is so because every step after the first change is one that always succeeds.

A call looks up what it calls, takes bound layers off, checks the call depth and
finds the holder or the prototype of its instance, and a fault in any of this ends
it: no adapter is entered and the realm is as it was. The faults by which this
happens are those of `Fault.stopsCall` (`openCall_error`, `Call.prepare_error`).

Key definitions: `Action.Atomic`, `Fault.stopsCall`.
Key theorems: `Realm.atomic_bind`, `Realm.openCall_error`.
-/
import Invocation.Proofs.Realm.Writing
import Invocation.Proofs.Run.CallDepth

namespace Invocation

/-! ### Atomic actions -/

namespace Action

variable {α β : Type} {r : Realm}

/-- If the action fails in a realm, it leaves the realm as it is. -/
def Atomic (x : Action α) (r : Realm) : Prop := ∀ e r', x r = (.error e, r') → r' = r

namespace Atomic

theorem fail {x : Action α} {e : Fault} (hx : x r = (.error e, r)) : x.Atomic r := by
  intro e' r' h
  rw [hx] at h
  exact (Prod.mk.inj h).2.symm

/-- What succeeds does not fail. -/
theorem of_ok {x : Action α} {a : α} {r1 : Realm} (hx : x r = (.ok a, r1)) : x.Atomic r := by
  intro e r' h
  rw [hx] at h
  cases (Prod.mk.inj h).1

theorem of_yields {x : Action α} {Q : α → Realm → Prop} (hx : x.Yields r Q) : x.Atomic r := by
  obtain ⟨a, r1, hx, -⟩ := hx
  exact of_ok hx

/-- Going on with what was looked up. -/
theorem read_bind {q : Realm → Except Fault α} {k : α → Action β}
    (hk : ∀ a, q r = .ok a → (k a).Atomic r) : (Action.read q >>= k).Atomic r := by
  have hstep := bind_apply (Action.read q) k r
  unfold Action.read at hstep
  intro e r' h
  cases ho : q r with
  | ok a =>
    rw [ho] at hstep
    exact hk a ho e r' (hstep.symm.trans h)
  | error e' =>
    rw [ho] at hstep
    exact fail hstep e r' h

end Atomic
end Action

/-! ### Operations -/

namespace Realm

open Invocation.Action (Atomic)

theorem atomic_setProperty (target : Value) (key : PropertyKey) (value : Value) (r : Realm) :
    (setProperty target key value).Atomic r := by
  rcases setProperty_cases target key value r with ⟨e, he⟩ | ⟨x, o, -, -, -, hok⟩
  · exact .fail he
  · exact .of_ok hok

theorem atomic_setPrototype (target : Value) (prototype : Option ObjectHandle) (r : Realm) :
    (setPrototype target prototype).Atomic r := by
  rcases setPrototype_cases target prototype r with ⟨e, he⟩ | ⟨x, scopes, -, -, -, -, hok⟩
  · exact .fail he
  · exact .of_ok hok

theorem atomic_installMethod (target : Value) (key : PropertyKey) (function : Value) (r : Realm) :
    (installMethod target key function).Atomic r := by
  intro e r' h
  unfold installMethod at h
  split at h
  · exact atomic_setProperty target key function r e r' h
  · exact (Prod.mk.inj h).2.symm

/-- Binding reads the function, its length and its name before it makes the bound function. -/
theorem atomic_bind (callee receiver : Value) (arguments : List Value) (r : Realm) :
    (bind callee receiver arguments).Atomic r := by
  refine .read_bind fun target _ => .read_bind fun length _ => .read_bind fun left _ => ?_
  refine .read_bind fun name _ => .read_bind fun object _ => ?_
  exact .of_yields (yields_boundFunction _ _ _ r)

theorem atomic_instantiateRegistered (registry : Registry) (name : String) (r : Realm) :
    (instantiateRegistered registry name).Atomic r := by
  unfold instantiateRegistered
  cases registry.find? name with
  | none => exact .fail rfl
  | some f => exact .of_yields (yields_instantiate f r)

theorem atomic_exportValue (value receiver : Value) (bindFunctions : Bool) (r : Realm) :
    (exportValue value receiver bindFunctions).Atomic r := by
  intro e r' h
  unfold exportValue at h
  split at h
  · exact (Prod.mk.inj h).2.symm
  · split at h
    · exact atomic_bind _ _ _ r e r' h
    · cases (Prod.mk.inj h).1
  · cases (Prod.mk.inj h).1

end Realm

/-! ### Calls that enter no adapter -/

/-- The faults by which a call ends before an adapter is entered. -/
def Fault.stopsCall : Fault → Bool
  | .notCallable _ => true
  | .notConstructor _ => true
  | .invalidHandle _ => true
  | .typeMismatch _ _ => true
  | .stackExceeded _ => true
  | .binding _ => true
  | .chainTooDeep _ => true
  | _ => false

namespace Realm

variable {r r' : Realm} {e : Fault}

theorem heapObject_error {h : Heap} {x : ObjectHandle} (he : h.object x = .error e) :
    e.stopsCall = true := by
  obtain ⟨-, rfl⟩ := Heap.object_eq_error.mp he
  rfl

theorem findScope?_error {α : Type} {h : Heap} {limit : Nat}
    {found : ObjectHandle → HeapObject → Option α} {start : ObjectHandle}
    (he : h.findScope? limit found start = .error e) : e.stopsCall = true := by
  obtain ⟨_, _, _, _, ⟨-, rfl⟩ | ⟨-, -, rfl⟩⟩ := Heap.findScopeFrom?_eq_error.mp he
  · rfl
  · rfl

theorem property_error {target : Value} {key : PropertyKey}
    (he : r.property target key = .error e) : e.stopsCall = true := by
  cases target with
  | object x => exact findScope?_error (error_of_map he)
  | undefined =>
    cases he
    rfl
  | null =>
    cases he
    rfl
  | _ => cases he

theorem listedArguments_error {list : Value} (he : r.listedArguments list = .error e) :
    e.stopsCall = true := by
  cases list with
  | undefined => cases he
  | null => cases he
  | object x =>
    have hitems : r.arrayItems (.object x) = .error e := error_of_map he
    unfold arrayItems at hitems
    cases ho : r.object (.object x) with
    | error e' =>
      rw [ho] at hitems
      cases hitems
      exact heapObject_error ho
    | ok o =>
      rw [ho] at hitems
      simp only [Bind.bind, Except.bind] at hitems
      split at hitems
      · cases hitems
      · cases hitems
        rfl
  | _ =>
    cases he
    rfl

/-- Taking layers off fails at a handle, at something that is no function, or at the limit. -/
theorem resolveWithin_error {callee : Value} : ∀ {layers : Nat} {x : ObjectHandle},
    r.resolveWithin callee layers x = .error e → e.stopsCall = true
  | 0, x, he => by
    cases he
    rfl
  | layers + 1, x, he => by
    unfold resolveWithin at he
    cases ho : r.heap.object x with
    | error e' =>
      rw [ho] at he
      cases he
      exact heapObject_error ho
    | ok o =>
      rw [ho] at he
      simp only at he
      split at he
      · cases he
      · rename_i b _
        cases hin : r.resolveWithin callee layers b.target with
        | error e' =>
          rw [hin] at he
          cases he
          exact resolveWithin_error hin
        | ok c =>
          rw [hin] at he
          cases he
      · cases he
        rfl

theorem resolve_error {callee : Value} (he : r.resolve callee = .error e) : e.stopsCall = true := by
  cases callee with
  | object x => exact resolveWithin_error he
  | _ =>
    cases he
    rfl

theorem holder_error {h : Heap} {limit : Nat} {receiver : Value} {functions : List ObjectHandle}
    {name : String} {policy : HolderPolicy}
    (he : h.holder limit receiver functions name policy = .error e) : e.stopsCall = true := by
  unfold Heap.holder at he
  cases hd : h.declaringScope? limit receiver functions with
  | error e' =>
    rw [hd] at he
    cases he
    cases receiver with
    | object x => exact findScope?_error hd
    | _ => cases hd
  | ok found =>
    rw [hd] at he
    cases found with
    | some scope => cases he
    | none =>
      cases policy with
      | lenient => cases he
      | strict =>
        cases he
        rfl

/-- A call that cannot be opened leaves the realm as it is. -/
theorem openCall_error {mode : CallMode} {callee : Value} {arguments : List Value}
    (he : openCall mode callee arguments r = (.error e, r')) : r' = r ∧ e.stopsCall = true := by
  cases hres : r.resolve callee with
  | error e' =>
    rw [openCall_unresolved hres] at he
    cases he
    exact ⟨rfl, resolve_error hres⟩
  | ok c =>
    rcases Nat.lt_or_ge r.callDepth r.options.maxCallDepth with hlow | hd
    · cases mode with
      | plain receiver =>
        rw [openCall_plain hres hlow] at he
        obtain ⟨houtcome, rfl⟩ := Prod.mk.inj he
        exact ⟨rfl, holder_error (error_of_map houtcome)⟩
      | construct =>
        by_cases hk : c.function.constructible = true
        · rw [openCall_construct hres hlow hk] at he
          cases hi : r.instancePrototype c.target with
          | error e' =>
            rw [hi] at he
            cases he
            exact ⟨rfl, property_error (error_of_map hi)⟩
          | ok prototype =>
            rw [hi] at he
            cases he
        · rw [openCall_notConstructor hres hlow hk] at he
          cases he
          exact ⟨rfl, rfl⟩
    · rw [openCall_exceeded hres hd] at he
      cases he
      exact ⟨rfl, rfl⟩

end Realm

namespace Run

theorem Call.prepare_error {c : Call} {r : Realm} {e : Fault} (he : c.prepare r = .error e) :
    e.stopsCall = true := by
  cases c with
  | apply callee receiver list => exact Realm.listedArguments_error (error_of_map he)
  | invokeMethod receiver key arguments => exact Realm.property_error (error_of_map he)
  | _ => cases he

/-- A call of the host after which no adapter is at work. -/
theorem State.serve_stopped {s : State} {c : Call} {outcome : Except Fault Value}
    (h : (s.serve c).control = .host outcome) : ∃ e, e.stopsCall = true ∧
      c.act s.realm = (.error e, s.realm) ∧
        s.serve c = ⟨s.realm, .host (.error e), e :: s.raised⟩ := by
  have hact := c.act_eq s.realm
  unfold serve at h ⊢
  cases hp : c.prepare s.realm with
  | error e =>
    rw [hp] at hact
    exact ⟨e, Call.prepare_error hp, hact, rfl⟩
  | ok p =>
    obtain ⟨mode, callee, arguments⟩ := p
    rw [hp] at hact h
    simp only at hact h ⊢
    rw [Realm.dispatch_eq] at hact
    unfold dispatch at h ⊢
    rcases hopen : Realm.openCall mode callee arguments s.realm with ⟨e | ⟨f, ctx⟩, r'⟩
    · obtain ⟨rfl, hstops⟩ := Realm.openCall_error hopen
      rw [hopen] at hact
      exact ⟨e, hstops, hact, rfl⟩
    · rw [hopen] at h
      cases h

/-- Failures are all or nothing. An operation that fails leaves the realm as it is, whatever it was
given. A call after which no adapter is at work, so that none was entered, has failed while it was
opened, and it leaves the realm as it is too. -/
theorem failures_change_nothing :
    (∀ target key value r, (Realm.setProperty target key value).Atomic r) ∧
    (∀ target prototype r, (Realm.setPrototype target prototype).Atomic r) ∧
    (∀ target key function r, (Realm.installMethod target key function).Atomic r) ∧
    (∀ callee receiver arguments r, (Realm.bind callee receiver arguments).Atomic r) ∧
    (∀ registry name r, (Realm.instantiateRegistered registry name).Atomic r) ∧
    (∀ value receiver bindFunctions r, (Realm.exportValue value receiver bindFunctions).Atomic r) ∧
    (∀ (s : State) (c : Call) (outcome : Except Fault Value),
      (s.serve c).control = .host outcome →
      ∃ e, e.stopsCall = true ∧ c.act s.realm = (.error e, s.realm) ∧
        s.serve c = ⟨s.realm, .host (.error e), e :: s.raised⟩) :=
  ⟨Realm.atomic_setProperty, Realm.atomic_setPrototype, Realm.atomic_installMethod,
    Realm.atomic_bind, Realm.atomic_instantiateRegistered, Realm.atomic_exportValue,
    fun _ _ _ => State.serve_stopped⟩

/-- A realm of one function that is its own prototype, so that every miss on its chain is too deep.
It has no length, and no prototype for its instances. -/
def ownPrototype : Realm :=
  { Realm.ofOptions { maxPrototypeDepth := 2 } with
    heap := ⟨#[{ prototype := some ⟨0⟩
                 kind := .native { name := "f", adapter := fun _ => .done .undefined } }]⟩ }

/-- Binding the function and constructing with it fail, and so do operations on what is
not there. -/
theorem ownPrototype_unchanged :
    Realm.setProperty (.object ⟨7⟩) "k" .null ownPrototype =
      (.error (.invalidHandle 7), ownPrototype) ∧
    Realm.setPrototype (.object ⟨0⟩) (some ⟨0⟩) ownPrototype =
      (.error (.argument "cyclic prototype chain"), ownPrototype) ∧
    Realm.installMethod (.object ⟨0⟩) "k" .null ownPrototype =
      (.error (.notCallable "null"), ownPrototype) ∧
    Realm.bind (.object ⟨0⟩) .undefined [] ownPrototype = (.error (.chainTooDeep 2), ownPrototype) ∧
    Realm.instantiateRegistered .empty "f" ownPrototype =
      (.error (.argument "Unknown native function: f"), ownPrototype) ∧
    Realm.exportValue (.object ⟨0⟩) (.object ⟨0⟩) true ownPrototype =
      (.error (.chainTooDeep 2), ownPrototype) ∧
    State.serve ⟨ownPrototype, .host (.ok .undefined), []⟩ (.construct (.object ⟨0⟩) []) =
      ⟨ownPrototype, .host (.error (.chainTooDeep 2)), [.chainTooDeep 2]⟩ := by
  obtain ⟨hset, hlink, hinstall, hbind, hmake, hexport, hcall⟩ := failures_change_nothing
  have known : ∀ {α : Type} {x : Action α} {e : Fault}, x.Atomic ownPrototype →
      (x ownPrototype).1 = .error e → x ownPrototype = (.error e, ownPrototype) := by
    intro α x e hx he
    have hpair : x ownPrototype = (.error e, (x ownPrototype).2) := by rw [← he]
    rw [hpair, hx e _ hpair]
  refine ⟨known (hset _ _ _ _) rfl, known (hlink _ _ _) rfl, known (hinstall _ _ _ _) rfl,
    known (hbind _ _ _ _) rfl, known (hmake _ _ _) rfl, known (hexport _ _ _ _) rfl, ?_⟩
  obtain ⟨e, -, hact, hserve⟩ := hcall ⟨ownPrototype, .host (.ok .undefined), []⟩
    (.construct (.object ⟨0⟩) []) _ rfl
  have he : (Except.error e : Except Fault Value) = .error (.chainTooDeep 2) :=
    (Prod.mk.inj hact).1.symm
  cases he
  exact hserve

end Run
end Invocation
