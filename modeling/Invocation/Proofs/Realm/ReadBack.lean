/-
# Reading a property back

A write that succeeds is read back: the property that was written is an own property
of the object and has the written value, whatever the kind of the object and the form
of the key. The one exception is the length of an array: a write there succeeds and no
read sees it.

Key theorems: `Realm.ownProperty?_object`, `Realm.read_back`.
-/
import Invocation.Proofs.Realm.Reading

namespace Invocation
namespace Realm

variable {r r' : Realm} {target v : Value} {key : PropertyKey}

theorem ownProperty?_object {x : ObjectHandle} {o : HeapObject} (ho : r.heap.object? x = some o)
    (key : PropertyKey) : r.ownProperty? (.object x) key = .ok (o.ownProperty? key) := by
  show (r.heap.object x).map _ = _
  rw [Heap.object_eq_ok.mpr ho]
  rfl

theorem hasOwnProperty_object {x : ObjectHandle} {o : HeapObject}
    (ho : r.heap.object? x = some o) (key : PropertyKey) :
    r.hasOwnProperty (.object x) key = .ok (o.hasOwnProperty key) := by
  show (r.heap.object x).map _ = _
  rw [Heap.object_eq_ok.mpr ho]
  rfl

/-- Reading back what was written. After a write that succeeds, the object has the key as a property
of its own. Unless that is the length of an array, its value is the written one, and so is what is
read along the lookup chain, which begins at the object. The length of an array is not changed by a
write, and neither is anything else that is read from the array; so a value that was written there
is read back only if it is the length already. -/
theorem read_back (h : setProperty target key v r = (.ok (), r')) :
    ∃ x o, target = .object x ∧ r.heap.object? x = some o ∧
      r'.hasOwnProperty target key = .ok true ∧
      (r'.ownProperty? target key = .ok (some v) ↔
        o.isLength key = false ∨ o.ownProperty? key = some v) ∧
      (1 ≤ r'.options.maxPrototypeDepth →
        (r'.property target key = .ok v ↔ o.isLength key = false ∨ o.ownProperty? key = some v)) ∧
      (o.isLength key = true → ∀ k, r'.ownProperty? target k = r.ownProperty? target k) := by
  obtain ⟨x, o, rfl, ho, -, rfl⟩ := setProperty_ok h
  have hobject : (r.heap.modify x (·.write key v)).object? x = some (o.write key v) :=
    Heap.object?_modify_self ho
  obtain ⟨w, hw, hv⟩ : ∃ w, (o.write key v).ownProperty? key = some w ∧
      (w = v ↔ o.isLength key = false ∨ o.ownProperty? key = some v) := by
    rw [HeapObject.ownProperty?_write_self]
    cases hlen : o.isLength key with
    | false => exact ⟨v, rfl, by simp⟩
    | true =>
      obtain ⟨⟨items, hk⟩, rfl⟩ := HeapObject.kind_of_isLength hlen
      exact ⟨_, HeapObject.ownProperty?_length hk, by simp [HeapObject.ownProperty?_length hk]⟩
  refine ⟨x, o, rfl, ho, ?_, ?_, ?_, ?_⟩
  · rw [hasOwnProperty_object hobject, HeapObject.hasOwnProperty, hw]
    rfl
  · rw [ownProperty?_object hobject, hw, ← hv]
    simp
  · intro hl
    rw [property_own hobject hw hl, ← hv]
    simp
  · intro hlen k
    rw [ownProperty?_object hobject, ownProperty?_object ho,
      HeapObject.ownProperty?_write_length hlen]

/-- A run that makes an array of one element and writes a property of it. -/
def oneElement (key : PropertyKey) (v : Value) : Run.State :=
  ((Run.State.start {}).perform (.operation (.createArray [.int 1]) rfl)).perform
    (.operation (.setProperty (.object ⟨4⟩) key v) rfl)

theorem read_back_oneElement :
    (oneElement "3" .null).realm.hasOwnProperty (.object ⟨4⟩) "3" = .ok true ∧
      (oneElement "3" .null).realm.ownProperty? (.object ⟨4⟩) "3" = .ok (some .null) ∧
      (oneElement "3" .null).realm.property (.object ⟨4⟩) "3" = .ok .null := by
  have hset : setProperty (.object ⟨4⟩) "3" .null
      ((Run.State.start {}).perform (.operation (.createArray [.int 1]) rfl)).realm =
        (.ok (), (oneElement "3" .null).realm) := rfl
  obtain ⟨x, o, hx, ho, hhas, hown, hget, -⟩ := read_back hset
  cases hx
  cases ho
  exact ⟨hhas, hown.mpr (Or.inl rfl), (hget (by decide)).mpr (Or.inl rfl)⟩

/-- A write at the length of an array succeeds in a run, but what is read there is still the number
of elements. -/
theorem length_not_read_back :
    Run.Reachable {} (oneElement "length" (.int 7)) ∧ (oneElement "length" (.int 7)).raised = [] ∧
      (oneElement "length" (.int 7)).realm.ownProperty? (.object ⟨4⟩) "length" =
        .ok (some (.int 1)) ∧
      (oneElement "length" (.int 7)).realm.property (.object ⟨4⟩) "length" = .ok (.int 1) ∧
      (oneElement "length" (.int 7)).realm.ownProperty? (.object ⟨4⟩) "length" ≠
        .ok (some (.int 7)) := by
  refine ⟨?_, rfl, rfl, rfl, fun h => ?_⟩
  · refine .head (.task (.operation (.createArray [.int 1]) rfl) rfl (by decide)) ?_
    exact .single (.task (.operation (.setProperty (.object ⟨4⟩) "length" (.int 7)) rfl) rfl
      (by decide))
  · have hread : (oneElement "length" (.int 7)).realm.ownProperty? (.object ⟨4⟩) "length" =
        .ok (some (.int 1)) := rfl
    rw [hread] at h
    cases h

end Realm
end Invocation
