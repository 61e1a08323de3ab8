/-
# Raising the limit of walks

The limit says how many scopes a walk along a lookup chain may visit, and nothing else
hangs on it. A walk that came to its outcome under one limit comes to the same outcome
under every larger one, whatever lies beyond it: what it found, that it took the whole
chain, or that a link named no object. Only the outcome that the chain is too deep may
change (`Raised`), and with room for every link of the chain there is no such outcome.

So it is with everything that walks: reading a property, finding the holder of a call,
and setting a prototype.

Key definitions: `Raised`, `Realm.limitedTo`.
Key theorems: `Heap.findScope?_raised`, `Heap.findScope?_ne_tooDeep`, `Realm.raising_limit`.
-/
import Invocation.Holder
import Invocation.Proofs.Heap.Walk

namespace Invocation

section Outcomes

variable {α β : Type} {limit : Nat} {before after : Except Fault α}

/-- How outcomes before and after a raise of the limit go together: they are the same, unless the
chain was too deep before. -/
def Raised (limit : Nat) (before after : Except Fault α) : Prop :=
  after = before ∨ before = .error (.chainTooDeep limit)

theorem Raised.refl (outcome : Except Fault α) : Raised limit outcome outcome := Or.inl rfl

theorem Raised.map (k : α → β) (h : Raised limit before after) :
    Raised limit (before.map k) (after.map k) := by
  rcases h with rfl | rfl
  · exact .refl _
  · exact Or.inr rfl

end Outcomes

/-! ### Walks -/

namespace Heap

variable {α : Type} {h : Heap} {limit limit' : Nat} {start : ObjectHandle}

theorem findScope?_raised (hle : limit ≤ limit') (h : Heap)
    (found : ObjectHandle → HeapObject → Option α) (start : ObjectHandle) :
    Raised limit (h.findScope? limit found start) (h.findScope? limit' found start) := by
  cases hf : h.findScope? limit found start with
  | ok outcome =>
    refine Or.inl ?_
    cases outcome with
    | some a =>
      obtain ⟨before, s, o, hp, hl, hpass, ho, ha⟩ := findScopeFrom?_eq_some.mp hf
      exact findScopeFrom?_eq_some.mpr ⟨before, s, o, hp, by omega, hpass, ho, ha⟩
    | none =>
      obtain ⟨scopes, hp, hl, hpass⟩ := findScopeFrom?_eq_none.mp hf
      exact findScopeFrom?_eq_none.mpr ⟨scopes, hp, by omega, hpass⟩
  | error e =>
    obtain ⟨before, s, hp, hpass, ⟨-, rfl⟩ | ⟨hl, hs, rfl⟩⟩ := findScopeFrom?_eq_error.mp hf
    · exact Or.inr rfl
    · exact Or.inl (findScopeFrom?_eq_error.mpr ⟨before, s, hp, hpass, Or.inr ⟨by omega, hs, rfl⟩⟩)

/-- With room for every link a walk is not too deep. -/
theorem findScope?_ne_tooDeep (hend : h.linkAt start limit = none)
    (found : ObjectHandle → HeapObject → Option α) :
    h.findScope? limit found start ≠ .error (.chainTooDeep limit) := by
  intro hf
  obtain ⟨before, s, hp, -, ⟨hl, -⟩ | ⟨-, -, he⟩⟩ := findScopeFrom?_eq_error.mp hf
  · have hlink : h.linkAt start before.length = some s := hp.linkAt_length start rfl
    rw [hl, hend] at hlink
    cases hlink
  · cases he

/-! ### Holders -/

theorem declaringScope?_raised (hle : limit ≤ limit') (h : Heap) (receiver : Value)
    (functions : List ObjectHandle) :
    Raised limit (h.declaringScope? limit receiver functions)
      (h.declaringScope? limit' receiver functions) := by
  cases receiver with
  | object start => exact findScope?_raised hle h _ start
  | _ => exact .refl _

theorem holder_raised (hle : limit ≤ limit') (h : Heap) (receiver : Value)
    (functions : List ObjectHandle) (name : String) (policy : HolderPolicy) :
    Raised limit (h.holder limit receiver functions name policy)
      (h.holder limit' receiver functions name policy) := by
  rcases declaringScope?_raised hle h receiver functions with hsame | hdeep
  · refine Or.inl ?_
    unfold holder
    rw [hsame]
  · refine Or.inr ?_
    unfold holder
    rw [hdeep]

theorem holder_ne_tooDeep (hend : h.linkAt start limit = none) (functions : List ObjectHandle)
    (name : String) (policy : HolderPolicy) :
    h.holder limit (.object start) functions name policy ≠ .error (.chainTooDeep limit) := by
  have hwalk : h.declaringScope? limit (.object start) functions ≠ .error (.chainTooDeep limit) :=
    findScope?_ne_tooDeep hend _
  unfold holder
  cases hscope : h.declaringScope? limit (.object start) functions with
  | error e =>
    intro he
    cases he
    exact hwalk hscope
  | ok scope => cases scope <;> cases policy <;> exact nofun

end Heap

/-! ### Realms -/

namespace Realm

open Heap (twoLoop)

/-- The same realm under another limit of walks. -/
def limitedTo (r : Realm) (limit : Nat) : Realm :=
  { r with options := { r.options with maxPrototypeDepth := limit } }

variable {r : Realm} {limit limit' : Nat} {start : ObjectHandle}

theorem property_raised (hle : limit ≤ limit') (r : Realm) (target : Value) (key : PropertyKey) :
    Raised limit ((r.limitedTo limit).property target key)
      ((r.limitedTo limit').property target key) := by
  cases target with
  | object start => exact (Heap.findScope?_raised hle r.heap _ start).map _
  | _ => exact .refl _

theorem property_ne_tooDeep (hend : r.heap.linkAt start limit = none) (key : PropertyKey) :
    (r.limitedTo limit).property (.object start) key ≠ .error (.chainTooDeep limit) := by
  intro he
  exact Heap.findScope?_ne_tooDeep hend _ (error_of_map he)

theorem chainVisits_raised (hle : limit ≤ limit') (r : Realm) (start handle : ObjectHandle) :
    Raised limit ((r.limitedTo limit).chainVisits start handle)
      ((r.limitedTo limit').chainVisits start handle) :=
  (Heap.findScope?_raised hle r.heap _ start).map _

/-- Setting a prototype has the same outcome and leaves the same heap under a larger limit, unless
the chain was too deep; then the heap stays as it was. -/
theorem setPrototype_raised (hle : limit ≤ limit') (r : Realm) (target : Value)
    (prototype : Option ObjectHandle) :
    ((setPrototype target prototype (r.limitedTo limit')).1 =
        (setPrototype target prototype (r.limitedTo limit)).1 ∧
      (setPrototype target prototype (r.limitedTo limit')).2.heap =
        (setPrototype target prototype (r.limitedTo limit)).2.heap) ∨
    ((setPrototype target prototype (r.limitedTo limit)).1 = .error (.chainTooDeep limit) ∧
      (setPrototype target prototype (r.limitedTo limit)).2.heap = r.heap) := by
  have hheap : ∀ n, (r.limitedTo n).heap = r.heap := fun _ => rfl
  cases target with
  | object x =>
    cases ho : r.heap.object x with
    | error e => simp [setPrototype, hheap, ho]
    | ok o =>
      cases prototype with
      | none => simp [setPrototype, hheap, ho]
      | some start =>
        rcases chainVisits_raised hle r start x with hsame | hdeep
        · refine Or.inl ?_
          cases hvisits : (r.limitedTo limit).chainVisits start x with
          | error e => simp [setPrototype, hheap, ho, hsame, hvisits]
          | ok visits => cases visits <;> simp [setPrototype, hheap, ho, hsame, hvisits]
        · simp [setPrototype, hheap, ho, hdeep]
  | _ => exact Or.inl ⟨rfl, rfl⟩

theorem setPrototype_ne_tooDeep (hend : r.heap.linkAt start limit = none) (target : Value) :
    (setPrototype target (some start) (r.limitedTo limit)).1 ≠ .error (.chainTooDeep limit) := by
  have hheap : (r.limitedTo limit).heap = r.heap := rfl
  cases target with
  | object x =>
    have hwalk : (r.limitedTo limit).chainVisits start x ≠ .error (.chainTooDeep limit) := by
      intro he
      exact Heap.findScope?_ne_tooDeep hend _ (error_of_map he)
    cases ho : r.heap.object x with
    | error e =>
      obtain ⟨-, rfl⟩ := Heap.object_eq_error.mp ho
      simp [setPrototype, hheap, ho]
    | ok o =>
      cases hvisits : (r.limitedTo limit).chainVisits start x with
      | error e =>
        rw [hvisits] at hwalk
        simpa [setPrototype, hheap, ho, hvisits] using hwalk
      | ok visits => cases visits <;> simp [setPrototype, hheap, ho, hvisits]
  | _ => exact nofun

/-- Raising the limit of walks changes no answer, for every realm, cyclic and dangling links
included. Whatever comes of reading a property, of finding the holder of a call under either
policy, and of setting a prototype, be it a value or a fault, comes of it under every larger limit
too, and the prototype is set in the same heap; the only outcome that may change is that the chain
is too deep. And that outcome is not there to change under a limit that has room for every link of
the chain. -/
theorem raising_limit (hle : limit ≤ limit') (r : Realm) :
    (∀ target key, Raised limit ((r.limitedTo limit).property target key)
      ((r.limitedTo limit').property target key)) ∧
    (∀ receiver functions name policy,
      Raised limit (r.heap.holder limit receiver functions name policy)
        (r.heap.holder limit' receiver functions name policy)) ∧
    (∀ target prototype,
      ((setPrototype target prototype (r.limitedTo limit')).1 =
          (setPrototype target prototype (r.limitedTo limit)).1 ∧
        (setPrototype target prototype (r.limitedTo limit')).2.heap =
          (setPrototype target prototype (r.limitedTo limit)).2.heap) ∨
      ((setPrototype target prototype (r.limitedTo limit)).1 = .error (.chainTooDeep limit) ∧
        (setPrototype target prototype (r.limitedTo limit)).2.heap = r.heap)) ∧
    ∀ start, r.heap.linkAt start limit = none →
      (∀ key, (r.limitedTo limit).property (.object start) key ≠ .error (.chainTooDeep limit)) ∧
      (∀ functions name policy,
        r.heap.holder limit (.object start) functions name policy ≠ .error (.chainTooDeep limit)) ∧
      ∀ target, (setPrototype target (some start) (r.limitedTo limit)).1 ≠
        .error (.chainTooDeep limit) :=
  ⟨property_raised hle r, Heap.holder_raised hle r.heap, setPrototype_raised hle r,
    fun _ hend => ⟨property_ne_tooDeep hend, Heap.holder_ne_tooDeep hend,
      setPrototype_ne_tooDeep hend⟩⟩

/-- On a loop of two objects, and beside it at a link that names no object, everything that was
answered with room for two scopes is answered with room for five: a property, the lack of a holder
that the link ends, and that an object is not made a prototype of its own. -/
theorem raising_limit_twoLoop :
    (twoLoop.limitedTo 5).property (.object ⟨0⟩) "m" = .ok .null ∧
      twoLoop.heap.holder 5 (.object ⟨2⟩) [⟨0⟩] "n" .lenient = .error (.invalidHandle 7) ∧
      (setPrototype (.object ⟨0⟩) (some ⟨1⟩) (twoLoop.limitedTo 5)).1 =
        .error (.argument "cyclic prototype chain") ∧
      (twoLoop.limitedTo 2).property (.object ⟨2⟩) "m" ≠ .error (.chainTooDeep 2) := by
  obtain ⟨hread, hholder, hset, hroom⟩ := raising_limit (by decide : 2 ≤ 5) twoLoop
  refine ⟨?_, ?_, ?_, (hroom ⟨2⟩ rfl).1 "m"⟩
  · exact (hread (.object ⟨0⟩) "m").resolve_right nofun
  · exact (hholder (.object ⟨2⟩) [⟨0⟩] "n" .lenient).resolve_right nofun
  · rcases hset (.object ⟨0⟩) (some ⟨1⟩) with ⟨hsame, -⟩ | ⟨hdeep, -⟩
    · exact hsame
    · cases hdeep

/-- What a larger limit may change: an object two scopes up has the property. -/
example : ((twoLoop.limitedTo 1).property (.object ⟨0⟩) "m",
    (twoLoop.limitedTo 2).property (.object ⟨0⟩) "m") =
      (.error (.chainTooDeep 1), .ok .null) := rfl

end Realm
end Invocation
