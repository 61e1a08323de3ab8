/-
# The handles in a heap

An object holds handles in six places: its prototype, the values of its
properties, the elements of an array, and the target, the receiver and the
arguments of a bound function. A heap is closed when every handle that one of its
objects holds names an object of the heap. Adding an object whose handles name
objects, writing such a value and setting such a prototype keep a heap closed.

The handle of a new object always names an object, also when there are more
objects than handles: positions wrap, and a wrapped position is taken.

Key definitions: `HeapObject.handles`, `Heap.Contains`, `Heap.Closed`.
Key theorems: `Heap.closed_alloc`, `Heap.closed_write`, `Heap.closed_link`.
-/
import Invocation.Proofs.Heap.Writes

namespace Invocation

/-- The handle in a value: the one of an object. -/
def Value.handles : Value → List ObjectHandle
  | .object handle => [handle]
  | _ => []

@[simp] theorem Value.handles_text (s : String) : (Value.text s).handles = [] := rfl

@[simp] theorem Value.handles_ofLength (n : Nat) : (Value.ofLength n).handles = [] := by
  unfold Value.ofLength
  split <;> rfl

/-- The handles in the elements of an array, or in what a bound function holds. -/
def ObjectKind.handles : ObjectKind → List ObjectHandle
  | .ordinary => []
  | .array items => items.toList.flatMap Value.handles
  | .native _ => []
  | .bound b => b.target :: (b.receiver.handles ++ b.arguments.flatMap Value.handles)

/-- All handles that an object holds. -/
def HeapObject.handles (o : HeapObject) : List ObjectHandle :=
  o.prototype.toList ++ o.properties.values.flatMap Value.handles ++ o.kind.handles

/-! ### Property tables -/

namespace Properties

theorem mem_of_read {key : PropertyKey} {v : Value} :
    ∀ {ps : List (PropertyKey × Value)}, read key ps = some v → v ∈ ps.map Prod.snd
  | [], h => by simp [read] at h
  | p :: ps, h => by
    unfold read at h
    split at h
    · simp only [Option.some.injEq] at h
      simp [h]
    · exact List.mem_cons_of_mem _ (mem_of_read h)

/-- If each key is there once, every value is read at its key. -/
theorem read_of_mem {key : PropertyKey} {v : Value} : ∀ {ps : List (PropertyKey × Value)},
    (ps.map Prod.fst).Nodup → (key, v) ∈ ps → read key ps = some v
  | p :: ps, hnd, hm => by
    obtain ⟨hp, hnd⟩ := List.nodup_cons.mp hnd
    unfold read
    rcases List.mem_cons.mp hm with rfl | hm
    · rw [if_pos rfl]
    · have hne : p.1 ≠ key := fun heq => hp (heq ▸ List.mem_map_of_mem hm)
      rw [if_neg hne]
      exact read_of_mem hnd hm

theorem read_of_not_mem {key : PropertyKey} :
    ∀ {ps : List (PropertyKey × Value)}, key ∉ ps.map Prod.fst → read key ps = none
  | [], _ => rfl
  | p :: ps, h => by
    rw [List.map_cons, List.mem_cons, not_or] at h
    rw [read, if_neg (Ne.symm h.1)]
    exact read_of_not_mem h.2

/-- Writing a value where it is changes nothing. -/
theorem write_of_read {key : PropertyKey} {v : Value} : ∀ {ps : List (PropertyKey × Value)},
    read key ps = some v → write key v ps = ps
  | [], h => by cases h
  | p :: ps, h => by
    unfold read at h
    unfold write
    by_cases hp : p.1 = key
    · rw [if_pos hp] at h ⊢
      rw [← hp, ← Option.some.inj h]
    · rw [if_neg hp] at h ⊢
      rw [write_of_read h]

theorem mem_write {key : PropertyKey} {v w : Value} : ∀ {ps : List (PropertyKey × Value)},
    w ∈ (write key v ps).map Prod.snd → w = v ∨ w ∈ ps.map Prod.snd
  | [], h => by simpa [write] using h
  | p :: ps, h => by
    unfold write at h
    split at h
    · rcases List.mem_cons.mp h with rfl | h
      · exact Or.inl rfl
      · exact Or.inr (List.mem_cons_of_mem _ h)
    · rcases List.mem_cons.mp h with rfl | h
      · exact Or.inr List.mem_cons_self
      · rcases mem_write h with rfl | h
        · exact Or.inl rfl
        · exact Or.inr (List.mem_cons_of_mem _ h)

end Properties

namespace PropertyTable

/-- What is read at a key is one of the values. -/
theorem mem_values_of_get? {t : PropertyTable} {key : PropertyKey} {v : Value}
    (h : t.get? key = some v) : v ∈ t.values := Properties.mem_of_read h

/-- There is nothing at a key that is none of the keys. -/
theorem get?_of_not_mem_keys {t : PropertyTable} {key : PropertyKey} (h : key ∉ t.keys) :
    t.get? key = none := Properties.read_of_not_mem h

/-- The values of a table are those that it holds under some key. -/
theorem mem_values_iff {t : PropertyTable} {v : Value} :
    v ∈ t.values ↔ ∃ key, t.get? key = some v := by
  constructor
  · intro hv
    obtain ⟨⟨key, w⟩, hp, rfl⟩ := List.mem_map.mp hv
    exact ⟨key, Properties.read_of_mem t.nodup hp⟩
  · rintro ⟨key, hkey⟩
    exact mem_values_of_get? hkey

/-- Writing a value where it is changes nothing. -/
theorem insert_of_get? {t : PropertyTable} {key : PropertyKey} {v : Value}
    (h : t.get? key = some v) : t.insert key v = t := by
  obtain ⟨entries, nodup⟩ := t
  simp only [insert, Properties.write_of_read h]

/-- A write adds no value but the written one. -/
theorem mem_values_insert {t : PropertyTable} {key : PropertyKey} {v w : Value}
    (h : w ∈ (t.insert key v).values) : w = v ∨ w ∈ t.values := Properties.mem_write h

/-- Every value of the table of a list is one of the list. -/
theorem mem_values_ofList {fields : List (PropertyKey × Value)} {w : Value}
    (h : w ∈ (ofList fields).values) : w ∈ fields.map Prod.snd := by
  have key : ∀ (ps : List (PropertyKey × Value)) (t : PropertyTable),
      w ∈ (ps.foldl (fun t p => t.insert p.1 p.2) t).values →
        w ∈ t.values ∨ w ∈ ps.map Prod.snd := by
    intro ps
    induction ps with
    | nil => exact fun t hw => Or.inl hw
    | cons p ps ih =>
      intro t hw
      rcases ih (t.insert p.1 p.2) hw with hw | hw
      · rcases mem_values_insert hw with rfl | hw
        · exact Or.inr List.mem_cons_self
        · exact Or.inl hw
      · exact Or.inr (List.mem_cons_of_mem _ hw)
  rcases key fields empty h with h | h
  · simp [values, empty] at h
  · exact h

end PropertyTable

/-! ### Objects -/

namespace HeapObject

variable {o : HeapObject} {x : ObjectHandle}

theorem mem_handles : x ∈ o.handles ↔
    o.prototype = some x ∨ (∃ v ∈ o.properties.values, x ∈ v.handles) ∨ x ∈ o.kind.handles := by
  simp [handles]

/-- What is read from an object holds no handle that the object does not hold. -/
theorem mem_handles_of_ownProperty? {key : PropertyKey} {v : Value}
    (h : o.ownProperty? key = some v) (hx : x ∈ v.handles) : x ∈ o.handles := by
  cases hlen : o.isLength key with
  | true =>
    -- a length is a number
    obtain ⟨⟨items, hk⟩, rfl⟩ := kind_of_isLength hlen
    rw [ownProperty?_length hk, Option.some.injEq] at h
    rw [← h, Value.handles_ofLength] at hx
    cases hx
  | false =>
    cases hpos : o.isPosition key with
    | true =>
      obtain ⟨items, name, i, hk, rfl, hi⟩ := exists_of_isPosition hpos
      rw [ownProperty?_element hk hi] at h
      refine mem_handles.mpr (Or.inr (Or.inr ?_))
      rw [hk]
      exact List.mem_flatMap.mpr ⟨v, Array.mem_toList_iff.mpr (Array.mem_of_getElem? h), hx⟩
    | false =>
      rw [ownProperty?_table hlen hpos] at h
      exact mem_handles.mpr (Or.inr (Or.inl ⟨v, PropertyTable.mem_values_of_get? h, hx⟩))

theorem mem_writeElement {items : Array Value} {i : Nat} {v w : Value}
    (h : w ∈ writeElement items i v) : w = v ∨ w = .undefined ∨ w ∈ items := by
  unfold writeElement at h
  split at h
  · rcases Array.mem_or_eq_of_mem_setIfInBounds h with h | rfl
    · exact Or.inr (Or.inr h)
    · exact Or.inl rfl
  · simp only [Array.mem_push, Array.mem_append, Array.mem_replicate] at h
    rcases h with (h | h) | h
    · exact Or.inr (Or.inr h)
    · exact Or.inr (Or.inl h.2)
    · exact Or.inl h

/-- A write adds no handle but that of the written value. -/
theorem mem_handles_write {key : PropertyKey} {v : Value} (h : x ∈ (o.write key v).handles) :
    x ∈ o.handles ∨ x ∈ v.handles := by
  cases hpos : o.isPosition key with
  | true =>
    obtain ⟨items, name, i, hk, rfl, hi⟩ := exists_of_isPosition hpos
    rw [write_element hk hi] at h
    rcases mem_handles.mp h with hp | ht | he
    · exact Or.inl (mem_handles.mpr (Or.inl hp))
    · exact Or.inl (mem_handles.mpr (Or.inr (Or.inl ht)))
    · obtain ⟨w, hw, hxw⟩ := List.mem_flatMap.mp he
      rcases mem_writeElement (Array.mem_toList_iff.mp hw) with rfl | rfl | hw
      · exact Or.inr hxw
      · simp [Value.handles] at hxw
      · refine Or.inl (mem_handles.mpr (Or.inr (Or.inr ?_)))
        rw [hk]
        exact List.mem_flatMap.mpr ⟨w, Array.mem_toList_iff.mpr hw, hxw⟩
  | false =>
    rw [write_table hpos] at h
    rcases mem_handles.mp h with hp | ⟨w, hw, hxw⟩ | hk
    · exact Or.inl (mem_handles.mpr (Or.inl hp))
    · rcases PropertyTable.mem_values_insert hw with rfl | hw
      · exact Or.inr hxw
      · exact Or.inl (mem_handles.mpr (Or.inr (Or.inl ⟨w, hw, hxw⟩)))
    · exact Or.inl (mem_handles.mpr (Or.inr (Or.inr hk)))

end HeapObject

/-! ### Heaps -/

namespace Heap

/-- A handle names an object of the heap. -/
def Contains (h : Heap) (x : ObjectHandle) : Prop := x.index.toNat < h.size

instance (h : Heap) (x : ObjectHandle) : Decidable (h.Contains x) :=
  inferInstanceAs (Decidable (x.index.toNat < h.size))

/-- Every handle that an object of the heap holds names an object of the heap. -/
def Closed (h : Heap) : Prop := ∀ o ∈ h.objects, ∀ x ∈ o.handles, h.Contains x

variable {h : Heap} {x y : ObjectHandle} {o : HeapObject}

theorem contains_iff : h.Contains x ↔ ∃ o, h.object? x = some o := by
  rw [object?, Contains, size]
  constructor
  · intro hx
    exact ⟨_, Array.getElem?_eq_getElem hx⟩
  · rintro ⟨o, ho⟩
    exact (Array.getElem?_eq_some_iff.mp ho).1

theorem contains_of_object? (ho : h.object? x = some o) : h.Contains x := contains_iff.mpr ⟨o, ho⟩

theorem object_eq_ok : h.object x = .ok o ↔ h.object? x = some o := by
  unfold object
  split
  · simp_all
  · simp_all

theorem object_eq_error {e : Fault} :
    h.object x = .error e ↔ h.object? x = none ∧ e = .invalidHandle x.index := by
  unfold object
  split
  · simp_all
  · simp_all [eq_comm]

theorem mem_objects (ho : h.object? x = some o) : o ∈ h.objects := Array.mem_of_getElem? ho

/-- In a closed heap the handles of an object name objects. -/
theorem Closed.contains (hc : h.Closed) (ho : h.object? x = some o) (hy : y ∈ o.handles) :
    h.Contains y := hc o (mem_objects ho) y hy

theorem Closed.prototype (hc : h.Closed) (ho : h.object? x = some o) (hy : o.prototype = some y) :
    h.Contains y := hc.contains ho (HeapObject.mem_handles.mpr (Or.inl hy))

@[simp] theorem size_alloc : (h.alloc o).2.size = h.size + 1 := by simp [alloc, size]

@[simp] theorem size_modify {f : HeapObject → HeapObject} : (h.modify x f).size = h.size := by
  simp [modify, size]

theorem object?_alloc : (h.alloc o).2.object? x =
    if x.index.toNat = h.size then some o else h.object? x := by
  rw [object?, alloc, Array.getElem?_push]
  rfl

/-- An object that was there stays as it is when another one is added. -/
theorem object?_alloc_of_contains (hx : h.Contains x) :
    (h.alloc o).2.object? x = h.object? x := by
  rw [object?_alloc, if_neg (Nat.ne_of_lt hx)]

theorem index_inj : x.index.toNat = y.index.toNat ↔ x = y := by
  obtain ⟨x⟩ := x
  obtain ⟨y⟩ := y
  simp [UInt32.toNat_inj]

theorem object?_modify {f : HeapObject → HeapObject} : (h.modify x f).object? y =
    if x = y then (h.object? y).map f else h.object? y := by
  simp only [modify, object?, Array.getElem?_modify, index_inj]

theorem object?_modify_self {f : HeapObject → HeapObject} (ho : h.object? x = some o) :
    (h.modify x f).object? x = some (f o) := by
  rw [object?_modify, if_pos rfl, ho]
  rfl

/-- Two changes of one object are one. -/
theorem modify_modify (h : Heap) (x : ObjectHandle) (f g : HeapObject → HeapObject) :
    (h.modify x f).modify x g = h.modify x (g ∘ f) := by
  unfold modify
  congr 1
  refine Array.ext (by simp) fun i hi _ => ?_
  simp only [Array.getElem_modify]
  split <;> simp_all

theorem nextHandle_index (hsize : h.size < UInt32.size) : h.nextHandle.index.toNat = h.size :=
  UInt32.toNat_ofNat_of_lt' hsize

theorem object?_alloc_new (hsize : h.size < UInt32.size) :
    (h.alloc o).2.object? h.nextHandle = some o := by
  rw [object?_alloc, if_pos (nextHandle_index hsize)]

/-- Changing the object that was added last. -/
theorem modify_alloc {f : HeapObject → HeapObject} (hsize : h.size < UInt32.size) :
    (h.alloc o).2.modify h.nextHandle f = (h.alloc (f o)).2 := by
  unfold modify
  rw [nextHandle_index hsize]
  unfold alloc size
  congr 1
  refine Array.ext (by simp) fun i hi hi' => ?_
  rw [Array.size_push] at hi'
  simp only [Array.getElem_modify, Array.getElem_push]
  split <;> split <;> first | rfl | omega

/-- Changing an object that was there before another one was added. -/
theorem modify_alloc_of_contains {f : HeapObject → HeapObject} (hx : h.Contains x) :
    (h.alloc o).2.modify x f = ((h.modify x f).alloc o).2 := by
  have hx' : x.index.toNat < h.objects.size := hx
  unfold modify alloc
  congr 1
  refine Array.ext (by simp) fun i hi hi' => ?_
  simp only [Array.getElem_modify, Array.getElem_push, Array.size_modify]
  split <;> split <;> first | rfl | omega

theorem Contains.alloc (hx : h.Contains x) : (h.alloc o).2.Contains x := by
  rw [Contains, size_alloc]
  exact Nat.lt_succ_of_lt hx

theorem contains_modify {f : HeapObject → HeapObject} :
    (h.modify x f).Contains y ↔ h.Contains y := by
  rw [Contains, Contains, size_modify]

/-- The next handle names an object of every larger heap, whether or not it wrapped. -/
theorem contains_nextHandle_of_lt {h' : Heap} (hlt : h.size < h'.size) :
    h'.Contains h.nextHandle := by
  have : h.objects.size.toUInt32.toNat ≤ h.objects.size := by
    simp only [Nat.toUInt32_eq, UInt32.toNat_ofNat']
    exact Nat.mod_le _ _
  exact Nat.lt_of_le_of_lt this hlt

/-- The handle of a new object names an object once it is added. -/
theorem contains_nextHandle : (h.alloc o).2.Contains h.nextHandle :=
  contains_nextHandle_of_lt (by simp)

/-- While handles are left, the next one names nothing yet. -/
theorem not_contains_nextHandle (hsize : h.size < UInt32.size) : ¬ h.Contains h.nextHandle := by
  rw [Contains, nextHandle_index hsize]
  exact Nat.lt_irrefl _

theorem closed_alloc (hc : h.Closed) (ho : ∀ x ∈ o.handles, h.Contains x) :
    (h.alloc o).2.Closed := by
  intro p hp y hy
  refine Contains.alloc ?_
  rcases Array.mem_push.mp hp with hp | rfl
  · exact hc p hp y hy
  · exact ho y hy

theorem closed_modify {f : HeapObject → HeapObject} (hc : h.Closed)
    (hf : ∀ o, h.object? x = some o → ∀ y ∈ (f o).handles, h.Contains y) :
    (h.modify x f).Closed := by
  intro p hp y hy
  rw [contains_modify]
  obtain ⟨i, hi, rfl⟩ := Array.mem_iff_getElem.mp hp
  rw [← size, size_modify] at hi
  have hget : (h.modify x f).objects[i] =
      if x.index.toNat = i then f h.objects[i] else h.objects[i] :=
    Array.getElem_modify _
  rw [hget] at hy
  split at hy
  · rename_i hxi
    refine hf _ ?_ y hy
    subst hxi
    exact Array.getElem?_eq_getElem hi
  · exact hc _ (Array.getElem_mem hi) y hy

theorem closed_write {key : PropertyKey} {v : Value} (hc : h.Closed)
    (hv : ∀ y ∈ v.handles, h.Contains y) : (h.modify x (·.write key v)).Closed :=
  closed_modify hc fun _ ho y hy =>
    (HeapObject.mem_handles_write hy).elim (hc.contains ho) (hv y)

theorem closed_link {prototype : Option ObjectHandle} (hc : h.Closed)
    (hp : ∀ y ∈ prototype, h.Contains y) :
    (h.modify x fun o => { o with prototype }).Closed := by
  refine closed_modify hc fun o ho y hy => ?_
  rcases HeapObject.mem_handles.mp hy with hy | hy
  · exact hp y hy
  · exact hc.contains ho (HeapObject.mem_handles.mpr (Or.inr hy))

end Heap
end Invocation
