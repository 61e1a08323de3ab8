/-
# Sound actions

An action is sound in a realm if it changes the realm in steps of `Change` only,
the handles in its result name objects, and it does not fail for a handle that
names none. In a closed realm every operation on handles of objects is sound:
there is one lemma for each, `sound_*` for those that may change the realm and
`answers_*` for those that only look something up. Operations made of others are
followed with the rules here.

Key definitions: `Answers`, `Action.Sound`.
Key theorems: `Action.Sound.bind`, `Action.Sound.read_bind`.
-/
import Invocation.Proofs.Realm.Change

namespace Invocation

variable {α β : Type}

/-- The handles in a result name objects, and a fault is not that a handle names none. -/
def Answers (h : Heap) (handles : α → List ObjectHandle) : Except Fault α → Prop
  | .ok a => ∀ x ∈ handles a, h.Contains x
  | .error e => ∀ i, e ≠ .invalidHandle i

/-- An answer passed on by a function that makes handles of objects from such. -/
theorem Answers.map_of {h : Heap} {f : α → List ObjectHandle} {g : β → List ObjectHandle}
    {k : α → β}
    {outcome : Except Fault α} (ha : Answers h f outcome)
    (hk : ∀ a, (∀ x ∈ f a, h.Contains x) → ∀ x ∈ g (k a), h.Contains x) :
    Answers h g (outcome.map k) := by
  cases outcome with
  | error e => exact ha
  | ok a => exact hk a ha

theorem Answers.map {h : Heap} {f : α → List ObjectHandle} {g : β → List ObjectHandle} {k : α → β}
    {outcome : Except Fault α} (ha : Answers h f outcome) (hk : ∀ a, ∀ x ∈ g (k a), x ∈ f a) :
    Answers h g (outcome.map k) :=
  ha.map_of fun a hf x hx => hf x (hk a x hx)

theorem Answers.ok {h : Heap} {handles : α → List ObjectHandle} {outcome : Except Fault α} {a : α}
    (ha : Answers h handles outcome) (he : outcome = .ok a) : ∀ x ∈ handles a, h.Contains x := by
  rw [he] at ha
  exact ha

theorem Answers.error {h : Heap} {handles : α → List ObjectHandle} {outcome : Except Fault α}
    {e : Fault} (ha : Answers h handles outcome) (he : outcome = .error e) :
    ∀ i, e ≠ .invalidHandle i := by
  rw [he] at ha
  exact ha

namespace Action

/-- In a realm, an action only takes steps of `Change` and answers with handles of objects. -/
structure Sound (handles : α → List ObjectHandle) (x : Action α) (r : Realm) : Prop where
  changes : Realm.Changes r (x r).2
  answers : Answers (x r).2.heap handles (x r).1

namespace Sound

variable {r : Realm} {f : α → List ObjectHandle} {g : β → List ObjectHandle}

theorem pure {a : α} (ha : ∀ x ∈ f a, r.heap.Contains x) : Sound f (Pure.pure a) r :=
  ⟨.refl, ha⟩

/-- What only looks something up is sound if its answer is. -/
theorem read {q : Realm → Except Fault α} (hq : Answers r.heap f (q r)) : Sound f (read q) r :=
  ⟨.refl, hq⟩

theorem of_eq {x : Action α} {outcome : Except Fault α} {r' : Realm} (hx : x r = (outcome, r'))
    (hch : Realm.Changes r r') (hans : Answers r'.heap f outcome) : Sound f x r := by
  constructor
  · rw [hx]
    exact hch
  · rw [hx]
    exact hans

/-- An action that fails for anything but a handle, and before it changed the realm. -/
theorem fail {x : Action α} {e : Fault} (hx : x r = (.error e, r))
    (he : ∀ i, e ≠ .invalidHandle i) :
    Sound f x r := of_eq hx .refl he

theorem congr {x y : Action α} (hxy : x r = y r) (hy : Sound f y r) : Sound f x r := by
  obtain ⟨hch, hans⟩ := hy
  exact of_eq hxy hch hans

/-- Two sound actions, one after the other. -/
theorem bind {x : Action α} {k : α → Action β} (hc : r.Closed) (hx : Sound f x r)
    (hk : ∀ a r', Realm.Changes r r' → r'.Closed → (∀ y ∈ f a, r'.heap.Contains y) →
      Sound g (k a) r') : Sound g (x >>= k) r := by
  obtain ⟨hch, hans⟩ := hx
  have hstep := bind_apply x k r
  generalize x r = result at hch hans hstep
  obtain ⟨e | a, r'⟩ := result
  · exact of_eq hstep hch hans
  · obtain ⟨hch', hans'⟩ := hk a r' hch (hch.closed hc) hans
    exact of_eq hstep (hch.trans hch') hans'

/-- Going on with what was looked up. -/
theorem read_bind {q : Realm → Except Fault α} {k : α → Action β} (hq : Answers r.heap f (q r))
    (hk : ∀ a, q r = .ok a → Sound g (k a) r) : Sound g (Action.read q >>= k) r := by
  have hstep := bind_apply (Action.read q) k r
  unfold Action.read at hstep
  cases ho : q r with
  | ok a =>
    rw [ho] at hstep
    exact congr hstep (hk a ho)
  | error e =>
    rw [ho] at hstep
    exact fail hstep (hq.error ho)

theorem inspect_bind {q : Realm → α} {k : α → Action β} (hk : Sound g (k (q r)) r) :
    Sound g (Action.inspect q >>= k) r := ⟨hk.changes, hk.answers⟩

end Sound
end Action

end Invocation
