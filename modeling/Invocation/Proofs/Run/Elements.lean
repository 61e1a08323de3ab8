/-
# Writing the elements of an array

The keys that are positions of an array are the decimal forms of the numbers up to the
largest position. A write there puts the value into the elements, extends them if the
position is at or past the end, and is refused only if the gap would be too long
(`setProperty_position`, `setProperty_tooFar`). Nothing else of the array and no other
object changes, and what is read at the position, by each of the ways to read it, is the
value. A write at any other key goes to the table of the array and leaves its elements
(`setProperty_elsewhere`).

So the table of an array never gets a property at a position (`HeapObject.Clear`): each
edit of a realm keeps that, and with it every run.

Key definitions: `HeapObject.Clear`, `Heap.Clear`.
Key theorems: `Realm.setProperty_position`, `Realm.setProperty_tooFar`,
`Realm.setProperty_elsewhere`, `Realm.Evolves.clear`, `Run.element_writes`.
-/
import Invocation.Proofs.ArrayIndex
import Invocation.Proofs.Realm.ReadBack
import Invocation.Proofs.Run.Growth

namespace Invocation

/-! ### Tables without positions -/

namespace HeapObject

variable {o : HeapObject} {key k : PropertyKey} {v : Value} {items : Array Value} {i : Nat}

/-- A key is a position of an array exactly if it is the decimal form of a number up to the
largest position. -/
theorem isPosition_iff (hk : o.kind = .array items) :
    o.isPosition key = true ↔ ∃ i ≤ maxArrayIndex, key = .text (toString i) := by
  constructor
  · intro hpos
    obtain ⟨-, name, i, -, rfl, hi⟩ := exists_of_isPosition hpos
    obtain ⟨hmax, rfl⟩ := arrayIndex?_eq_some_iff.mp hi
    exact ⟨i, hmax, rfl⟩
  · rintro ⟨i, hmax, rfl⟩
    rw [isPosition_array hk, arrayIndex?_toString hmax]
    rfl

/-- A position is refused if the elements end too far before it. -/
theorem writeFault?_position (hk : o.kind = .array items) (hi : i ≤ maxArrayIndex) :
    o.writeFault? (.text (toString i)) =
      if i ≤ items.size + maxArrayGrowth then none
      else some (.argument ("array index " ++ toString i ++ " is too far past length " ++
        toString items.size)) := by
  unfold writeFault?
  simp only [hk, arrayIndex?_toString hi, Nat.sub_le_iff_le_add']

theorem write_position (hk : o.kind = .array items) (hi : i ≤ maxArrayIndex) (v : Value) :
    o.write (.text (toString i)) v = { o with kind := .array (writeElement items i v) } :=
  write_element hk (arrayIndex?_toString hi) v

/-- The table of an object has nothing at its positions. -/
def Clear (o : HeapObject) : Prop := ∀ key, o.isPosition key = true → o.properties.get? key = none

/-- A write leaves an array an array, and anything else what it was. -/
theorem isPosition_write (o : HeapObject) (key : PropertyKey) (v : Value) (k : PropertyKey) :
    (o.write key v).isPosition k = o.isPosition k := by
  cases hpos : o.isPosition key with
  | true =>
    obtain ⟨items, name, i, hk, rfl, hi⟩ := exists_of_isPosition hpos
    rw [write_element hk hi]
    cases k with
    | text name' => simp only [isPosition, hk]
    | symbol id => simp only [isPosition, hk]
  | false =>
    rw [write_table hpos]
    rfl

theorem Clear.write (h : o.Clear) (key : PropertyKey) (v : Value) : (o.write key v).Clear := by
  intro k hk
  rw [isPosition_write] at hk
  cases hpos : o.isPosition key with
  | true =>
    obtain ⟨items, name, i, hkind, rfl, hi⟩ := exists_of_isPosition hpos
    rw [write_element hkind hi]
    exact h k hk
  | false =>
    have hne : k ≠ key := by
      rintro rfl
      rw [hk] at hpos
      cases hpos
    rw [write_table hpos]
    simp only [PropertyTable.get?_insert, if_neg hne]
    exact h k hk

theorem Clear.link (h : o.Clear) (prototype : Option ObjectHandle) :
    HeapObject.Clear { o with prototype } := h

/-- A table without properties. -/
theorem clear_empty (h : ∀ items, o.kind = .array items → o.properties = .empty) : o.Clear := by
  intro key hpos
  obtain ⟨items, -, -, hk, -, -⟩ := exists_of_isPosition hpos
  rw [h items hk]
  exact PropertyTable.get?_empty key

end HeapObject

/-- No array of the heap has a position in its table. -/
def Heap.Clear (h : Heap) : Prop := ∀ x o, h.object? x = some o → o.Clear

theorem Heap.Clear.modify {h : Heap} (hc : h.Clear) (x : ObjectHandle)
    {f : HeapObject → HeapObject} (hf : ∀ o : HeapObject, o.Clear → (f o).Clear) :
    (h.modify x f).Clear := by
  intro y o' ho'
  rw [Heap.object?_modify] at ho'
  split at ho'
  · obtain ⟨o, ho, rfl⟩ := Option.map_eq_some_iff.mp ho'
    exact hf o (hc y o ho)
  · exact hc y o' ho'

namespace Realm

variable {r r' : Realm} {a : ObjectHandle} {o : HeapObject} {items : Array Value} {i : Nat}
  {key : PropertyKey}

theorem Edit.clear (h : Edit r r') (hc : r.heap.Clear) : r'.heap.Clear := by
  cases h with
  | @alloc o hmade =>
    intro x o' ho'
    rw [Heap.object?_alloc] at ho'
    split at ho'
    · cases ho'
      exact HeapObject.clear_empty hmade.table
    · exact hc x o' ho'
  | write _ _ => exact hc.modify _ fun o ho => ho.write _ _
  | link _ _ _ => exact hc.modify _ fun o ho => ho.link _
  | symbol _ => exact hc
  | foreign => exact hc

theorem Evolves.clear (h : Evolves r r') (hc : r.heap.Clear) : r'.heap.Clear :=
  h.keeps Edit.clear hc

/-- A fresh realm has no array. -/
theorem clear_ofOptions (options : Options) : (ofOptions options).heap.Clear := by
  intro x o ho
  refine HeapObject.clear_empty fun items hk => ?_
  rw [kind_ofOptions ho] at hk
  cases hk

/-! ### Writes to arrays -/

/-- What is read from the elements of an array, under each of its ways. -/
theorem arrayItems_object (ho : r.heap.object? a = some o) (hk : o.kind = .array items) :
    r.arrayItems (.object a) = .ok items := by
  have hobject : r.object (.object a) = .ok o := Heap.object_eq_ok.mpr ho
  have hitems : o.items? = some items := by
    unfold HeapObject.items?
    rw [hk]
  unfold arrayItems
  simp only [hobject, hitems, Bind.bind, Except.bind]

theorem arrayLength_object (ho : r.heap.object? a = some o) (hk : o.kind = .array items) :
    r.arrayLength (.object a) = .ok items.size := by
  unfold arrayLength
  rw [arrayItems_object ho hk]
  rfl

theorem arrayElement_object (ho : r.heap.object? a = some o) (hk : o.kind = .array items)
    (i : Nat) :
    r.arrayElement (.object a) i = .ok (items.getD i .undefined) := by
  unfold arrayElement
  rw [arrayItems_object ho hk]
  rfl

/-- What a write of `v` at position `i` does to an array `a`, which is the object `o` with the
elements `items`: it gets the elements `items'`, and nothing else changes. -/
structure WritesElement (r : Realm) (a : ObjectHandle) (o : HeapObject) (items : Array Value)
    (i : Nat)
    (v : Value) (items' : Array Value) (r' : Realm) : Prop where
  frame : r' = { r with heap := r'.heap }
  size : r'.heap.size = r.heap.size
  others : ∀ y ≠ a, r'.heap.object? y = r.heap.object? y
  object : r'.heap.object? a = some { o with kind := .array items' }
  length : items'.size = if i < items.size then items.size else i + 1
  written : items'[i]? = some v
  gap : ∀ j, items.size ≤ j → j < i → items'[j]? = some .undefined
  kept : ∀ j, j < items.size → j ≠ i → items'[j]? = items[j]?
  element : r'.arrayElement (.object a) i = .ok v
  own : r'.ownProperty? (.object a) (.text (toString i)) = .ok (some v)
  arrayLength : r'.arrayLength (.object a) = .ok items'.size
  ownLength : r'.ownProperty? (.object a) "length" = .ok (some (.ofLength items'.size))
  properties : 1 ≤ r.options.maxPrototypeDepth →
    r'.property (.object a) (.text (toString i)) = .ok v ∧
      r'.property (.object a) "length" = .ok (.ofLength items'.size)

/-- A write changes one object of the heap. -/
theorem setProperty_frame (ho : r.heap.object? a = some o) (hw : o.writeFault? key = none)
    (v : Value) : ∃ r', setProperty (.object a) key v r = (.ok (), r') ∧
      r' = { r with heap := r'.heap } ∧ r'.heap.size = r.heap.size ∧
      (∀ y ≠ a, r'.heap.object? y = r.heap.object? y) ∧
      r'.heap.object? a = some (o.write key v) := by
  refine ⟨_, setProperty_object ho hw, rfl, Heap.size_modify, ?_, Heap.object?_modify_self ho⟩
  intro y hy
  exact (Heap.object?_modify).trans (if_neg (Ne.symm hy))

theorem setProperty_position (ho : r.heap.object? a = some o) (hk : o.kind = .array items)
    (hi : i ≤ maxArrayIndex) (hgap : i ≤ items.size + maxArrayGrowth) (v : Value) :
    ∃ items' r', setProperty (.object a) (.text (toString i)) v r = (.ok (), r') ∧
      r.WritesElement a o items i v items' r' := by
  have hw : o.writeFault? (.text (toString i)) = none := by
    rw [HeapObject.writeFault?_position hk hi, if_pos hgap]
  obtain ⟨r', hset, hframe, hsize, hothers, hobject⟩ := setProperty_frame ho hw v
  rw [HeapObject.write_position hk hi] at hobject
  have hget := HeapObject.getElem?_writeElement items i v
  have hself : (HeapObject.writeElement items i v)[i]? = some v := by rw [hget, if_pos rfl]
  have hown : HeapObject.ownProperty? { o with kind := .array (HeapObject.writeElement items i v) }
      (.text (toString i)) = some v := by
    rw [HeapObject.ownProperty?_element rfl (arrayIndex?_toString hi), hself]
  have hlength := HeapObject.ownProperty?_length
    (o := { o with kind := .array (HeapObject.writeElement items i v) }) rfl
  have hdepth : r'.options.maxPrototypeDepth = r.options.maxPrototypeDepth := by rw [hframe]
  refine ⟨HeapObject.writeElement items i v, r', hset, ⟨hframe, hsize, hothers, hobject, ?_, hself,
    ?_, ?_, ?_, ?_, arrayLength_object hobject rfl, ?_, ?_⟩⟩
  · rw [HeapObject.size_writeElement]
    split <;> omega
  · intro j hlow hhigh
    rw [hget, if_neg (by omega), if_pos ⟨hlow, hhigh⟩]
  · intro j hj hne
    rw [hget, if_neg hne, if_neg (by omega)]
  · rw [arrayElement_object hobject rfl, Array.getD_eq_getD_getElem?, hself]
    rfl
  · rw [ownProperty?_object hobject, hown]
  · rw [ownProperty?_object hobject, hlength]
  · intro hl
    exact ⟨property_own hobject hown (hdepth ▸ hl), property_own hobject hlength (hdepth ▸ hl)⟩

theorem setProperty_tooFar (ho : r.heap.object? a = some o) (hk : o.kind = .array items)
    (hi : i ≤ maxArrayIndex) (hgap : items.size + maxArrayGrowth < i) (v : Value) :
    setProperty (.object a) (.text (toString i)) v r =
      (.error (.argument ("array index " ++ toString i ++ " is too far past length " ++
        toString items.size)), r) := by
  have hw := HeapObject.writeFault?_position hk hi
  rw [if_neg (by omega)] at hw
  unfold setProperty
  simp only [Heap.object_eq_ok.mpr ho, hw]

theorem setProperty_elsewhere (ho : r.heap.object? a = some o) (hk : o.kind = .array items)
    (hkey : ∀ i ≤ maxArrayIndex, key ≠ .text (toString i)) (v : Value) :
    ∃ r', setProperty (.object a) key v r = (.ok (), r') ∧ r' = { r with heap := r'.heap } ∧
      r'.heap.size = r.heap.size ∧ (∀ y ≠ a, r'.heap.object? y = r.heap.object? y) ∧
      r'.heap.object? a = some { o with properties := o.properties.insert key v } ∧
      r'.arrayItems (.object a) = .ok items ∧
      r'.ownProperty? (.object a) "length" = .ok (some (.ofLength items.size)) := by
  have hpos : o.isPosition key = false := by
    refine Bool.eq_false_iff.mpr fun hpos => ?_
    obtain ⟨i, hi, rfl⟩ := (HeapObject.isPosition_iff hk).mp hpos
    exact hkey i hi rfl
  obtain ⟨r', hset, hframe, hsize, hothers, hobject⟩ :=
    setProperty_frame ho (HeapObject.writeFault?_of_not_position hpos) v
  rw [HeapObject.write_table hpos] at hobject
  refine ⟨r', hset, hframe, hsize, hothers, hobject, arrayItems_object hobject hk, ?_⟩
  rw [ownProperty?_object hobject]
  exact congrArg Except.ok (HeapObject.ownProperty?_length
    (o := { o with properties := o.properties.insert key v }) hk)

end Realm

namespace Run

variable {r : Realm} {a : ObjectHandle} {o : HeapObject} {items : Array Value}

/-- Writing a property of an array `a`. At the decimal form of a position, the write puts the value
into the elements, with Undefined in a gap before it; a gap of more than `maxArrayGrowth` elements
is refused, and then nothing changes. At any other key it goes to the table, and neither the
elements nor the length change. In either case no other object does. So in no state of a run the
table of an array has the decimal form of a position as a key. -/
theorem element_writes (ho : r.heap.object? a = some o) (hk : o.kind = .array items)
    (key : PropertyKey) (v : Value) :
    (∀ i ≤ maxArrayIndex, key = .text (toString i) →
      (i ≤ items.size + maxArrayGrowth →
        ∃ items' r', Realm.setProperty (.object a) key v r = (.ok (), r') ∧
          r.WritesElement a o items i v items' r') ∧
      (items.size + maxArrayGrowth < i →
        Realm.setProperty (.object a) key v r =
          (.error (.argument ("array index " ++ toString i ++ " is too far past length " ++
            toString items.size)), r))) ∧
    ((∀ i ≤ maxArrayIndex, key ≠ .text (toString i)) →
      ∃ r', Realm.setProperty (.object a) key v r = (.ok (), r') ∧ r' = { r with heap := r'.heap } ∧
        r'.heap.size = r.heap.size ∧ (∀ y ≠ a, r'.heap.object? y = r.heap.object? y) ∧
        r'.heap.object? a = some { o with properties := o.properties.insert key v } ∧
        r'.arrayItems (.object a) = .ok items ∧
        r'.ownProperty? (.object a) "length" = .ok (some (.ofLength items.size))) ∧
    (∀ options s, Turns (.start options) s → ∀ x p elements, s.realm.heap.object? x = some p →
      p.kind = .array elements → ∀ i ≤ maxArrayIndex,
        p.properties.get? (.text (toString i)) = none) := by
  refine ⟨?_, fun hkey => Realm.setProperty_elsewhere ho hk hkey v, ?_⟩
  · rintro i hi rfl
    exact ⟨fun hgap => Realm.setProperty_position ho hk hi hgap v,
      fun hgap => Realm.setProperty_tooFar ho hk hi hgap v⟩
  · intro options s hs x p elements hp hkind i hi
    have hclear : s.realm.heap.Clear := hs.evolves.clear (Realm.clear_ofOptions options)
    exact hclear x p hp _ ((HeapObject.isPosition_iff hkind).mpr ⟨i, hi, rfl⟩)

/-- A run that has made an array of two elements. -/
def madeArray : State := (State.start {}).perform (.operation (.createArray [.int 1, .int 2]) rfl)

/-- Written two positions past its end, an array has Undefined in the gap; a position too far past
it is refused; and a numeral with a leading zero is a key like any other. -/
theorem element_writes_madeArray :
    (∃ (items' : Array Value) (r' : Realm),
      Realm.setProperty (.object ⟨4⟩) "4" .null madeArray.realm = (.ok (), r') ∧
      items'.size = 5 ∧ items'[3]? = some .undefined ∧
      r'.ownProperty? (.object ⟨4⟩) "4" = .ok (some .null) ∧
      r'.property (.object ⟨4⟩) "length" = .ok (.ofLength items'.size)) ∧
    Realm.setProperty (.object ⟨4⟩) "1048579" .null madeArray.realm =
      (.error (.argument "array index 1048579 is too far past length 2"), madeArray.realm) ∧
    (∃ r', Realm.setProperty (.object ⟨4⟩) "01" .null madeArray.realm = (.ok (), r') ∧
      r'.arrayItems (.object ⟨4⟩) = .ok #[.int 1, .int 2]) ∧
    ∀ o items, madeArray.realm.heap.object? ⟨4⟩ = some o → o.kind = .array items →
      o.properties.get? "0" = none := by
  have harray : madeArray.realm.heap.object? ⟨4⟩ =
      some { prototype := some ⟨2⟩, kind := .array #[.int 1, .int 2] } := rfl
  have hrun : Turns (.start {}) madeArray :=
    .single (.task (.operation (.createArray [.int 1, .int 2]) rfl) rfl)
  have at_key := fun key => element_writes harray rfl key .null
  refine ⟨?_, ?_, ?_, ?_⟩
  · obtain ⟨items', r', hset, hw⟩ := ((at_key "4").1 4 (by decide) rfl).1 (by decide)
    exact ⟨items', r', hset, hw.length, hw.gap 3 (by decide) (by decide), hw.own,
      (hw.properties (by decide)).2⟩
  · exact ((at_key "1048579").1 1048579 (by decide) rfl).2 (by decide)
  · obtain ⟨r', hset, -, -, -, -, hitems, -⟩ := (at_key "01").2.1 fun i hi heq => by
      have hindex := arrayIndex?_toString hi
      rw [← PropertyKey.text.inj heq] at hindex
      cases hindex
    exact ⟨r', hset, hitems⟩
  · intro o items ho hk
    exact (at_key "0").2.2 {} madeArray hrun ⟨4⟩ o items ho hk 0 (by decide)

end Run
end Invocation
