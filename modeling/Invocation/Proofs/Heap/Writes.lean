/-
# What a write does to an object

A position of an array is kept in the elements, every other property in the table.
A write at a position changes the elements and nothing else (`write_element`), and any
other write changes the table and nothing else (`write_table`); a read looks in the same
place (`ownProperty?_element`, `ownProperty?_table`). So what was written is what is
read (`ownProperty?_write_self`).

There is one exception. An array answers for `length` from the number of its elements,
but a write at `length` goes to the table like any other name, and no read sees it
(`ownProperty?_write_length`).

Key definitions: `HeapObject.isPosition`, `HeapObject.isLength`.
Key theorems: `HeapObject.getElem?_writeElement`, `HeapObject.ownProperty?_write_self`,
`HeapObject.ownProperty?_write_ne`.
-/
import Invocation.Heap

namespace Invocation

theorem arrayIndex?_length : arrayIndex? "length" = none := by decide

namespace HeapObject

variable {o : HeapObject} {key k : PropertyKey} {v : Value} {items : Array Value} {name : String}
  {i : Nat}

/-! ### Positions and lengths -/

/-- Whether a key is a position of an array, whose property is an element and not in the table. -/
def isPosition (o : HeapObject) (key : PropertyKey) : Bool :=
  match o.kind, key with
  | .array _, .text name => (arrayIndex? name).isSome
  | _, _ => false

/-- Whether a key is the length of an array, which is read off the elements. -/
def isLength (o : HeapObject) (key : PropertyKey) : Bool :=
  match o.kind, key with
  | .array _, .text name => name == "length"
  | _, _ => false

theorem isPosition_array (hk : o.kind = .array items) (name : String) :
    o.isPosition (.text name) = (arrayIndex? name).isSome := by
  unfold isPosition
  rw [hk]

/-- A name that is no array index is a position of no array. -/
theorem isPosition_name (hname : arrayIndex? name = none) (o : HeapObject) :
    o.isPosition (.text name) = false := by
  unfold isPosition
  split
  · rename_i items name' hk heq
    cases heq
    rw [hname]
    rfl
  · rfl

theorem exists_of_isPosition (h : o.isPosition key = true) :
    ∃ items name i, o.kind = .array items ∧ key = .text name ∧ arrayIndex? name = some i := by
  unfold isPosition at h
  split at h
  · rename_i items name hk
    obtain ⟨i, hi⟩ := Option.isSome_iff_exists.mp h
    exact ⟨items, name, i, hk, rfl, hi⟩
  · cases h

theorem kind_of_isLength (h : o.isLength key = true) :
    (∃ items, o.kind = .array items) ∧ key = "length" := by
  unfold isLength at h
  split at h
  · rename_i items name hk
    exact ⟨⟨items, hk⟩, congrArg PropertyKey.text (eq_of_beq h)⟩
  · cases h

theorem isLength_name (hname : name ≠ "length") (o : HeapObject) :
    o.isLength (.text name) = false := by
  cases hlen : o.isLength (.text name) with
  | false => rfl
  | true => exact absurd (PropertyKey.text.inj (kind_of_isLength hlen).2) hname

/-! ### Where a property is -/

/-- A property that is neither the length nor a position of an array is read from the table. -/
theorem ownProperty?_table (hlen : o.isLength key = false) (hpos : o.isPosition key = false) :
    o.ownProperty? key = o.properties.get? key := by
  unfold ownProperty?
  split
  · rename_i items name hk
    have hname : ¬ name = "length" := by
      intro hname
      simp [isLength, hk, hname] at hlen
    rw [isPosition_array hk] at hpos
    rw [if_neg hname]
    cases hi : arrayIndex? name with
    | none => rfl
    | some i =>
      rw [hi] at hpos
      cases hpos
  · rfl

theorem ownProperty?_element (hk : o.kind = .array items) (hi : arrayIndex? name = some i) :
    o.ownProperty? (.text name) = items[i]? := by
  have hname : ¬ name = "length" := by
    rintro rfl
    rw [arrayIndex?_length] at hi
    cases hi
  unfold ownProperty?
  simp only [hk, hi, if_neg hname]

theorem ownProperty?_length (hk : o.kind = .array items) :
    o.ownProperty? "length" = some (.ofLength items.size) := by
  unfold ownProperty?
  simp only [hk, ↓reduceIte]

/-- A write at a position of an array changes its elements and nothing else. -/
theorem write_element (hk : o.kind = .array items) (hi : arrayIndex? name = some i) (v : Value) :
    o.write (.text name) v = { o with kind := .array (writeElement items i v) } := by
  unfold write
  simp only [hk, hi]

/-- Every other write changes the table and nothing else. -/
theorem write_table (hpos : o.isPosition key = false) (v : Value) :
    o.write key v = { o with properties := o.properties.insert key v } := by
  unfold write
  split
  · rename_i items name hk
    rw [isPosition_array hk] at hpos
    cases hi : arrayIndex? name with
    | none => rfl
    | some i =>
      rw [hi] at hpos
      cases hpos
  · rfl

theorem writeFault?_of_not_position (hpos : o.isPosition key = false) :
    o.writeFault? key = none := by
  unfold writeFault?
  split
  · rename_i items name hk
    rw [isPosition_array hk] at hpos
    cases hi : arrayIndex? name with
    | none => rfl
    | some i =>
      rw [hi] at hpos
      cases hpos
  · rfl

/-! ### Elements -/

@[simp] theorem size_writeElement (items : Array Value) (i : Nat) (v : Value) :
    (writeElement items i v).size = max items.size (i + 1) := by
  unfold writeElement
  split
  · rw [Array.size_setIfInBounds]
    omega
  · rw [Array.size_push, Array.size_append, Array.size_replicate]
    omega

/-- The written element is there, the others are as they were, and a gap before it
holds Undefined. -/
theorem getElem?_writeElement (items : Array Value) (i : Nat) (v : Value) (j : Nat) :
    (writeElement items i v)[j]? =
      if j = i then some v
      else if items.size ≤ j ∧ j < i then some .undefined else items[j]? := by
  unfold writeElement
  split
  · rename_i hi
    rw [Array.getElem?_setIfInBounds]
    by_cases hj : i = j
    · rw [if_pos hj, if_pos hi, if_pos hj.symm]
    · rw [if_neg hj, if_neg (Ne.symm hj), if_neg (by omega)]
  · rename_i hi
    have hsize : (items ++ Array.replicate (i - items.size) Value.undefined).size = i := by
      rw [Array.size_append, Array.size_replicate]
      omega
    rw [Array.getElem?_push, hsize]
    by_cases hj : j = i
    · rw [if_pos hj, if_pos hj]
    · rw [if_neg hj, if_neg hj, Array.getElem?_append]
      by_cases hlow : j < items.size
      · rw [if_pos hlow, if_neg (by omega)]
      · rw [if_neg hlow, Array.getElem?_replicate]
        by_cases hgap : j < i
        · rw [if_pos (by omega), if_pos ⟨by omega, hgap⟩]
        · rw [if_neg (by omega), if_neg (by omega), Array.getElem?_eq_none (by omega)]

/-! ### Reading after a write -/

/-- What is read where it was written: the written value, unless it is the length of an array. -/
theorem ownProperty?_write_self (o : HeapObject) (key : PropertyKey) (v : Value) :
    (o.write key v).ownProperty? key = if o.isLength key then o.ownProperty? key else some v := by
  cases hpos : o.isPosition key with
  | true =>
    obtain ⟨items, name, i, hk, rfl, hi⟩ := exists_of_isPosition hpos
    have hlen : ¬ o.isLength (.text name) = true := by
      intro hlen
      cases (kind_of_isLength hlen).2
      rw [arrayIndex?_length] at hi
      cases hi
    rw [if_neg hlen, write_element hk hi,
      ownProperty?_element (o := { o with kind := .array (writeElement items i v) }) rfl hi,
      getElem?_writeElement, if_pos rfl]
  | false =>
    rw [write_table hpos]
    cases hlen : o.isLength key with
    | true =>
      obtain ⟨⟨items, hk⟩, rfl⟩ := kind_of_isLength hlen
      rw [if_pos rfl, ownProperty?_length hk]
      exact ownProperty?_length hk
    | false =>
      have htable := ownProperty?_table
        (o := { o with properties := o.properties.insert key v }) hlen hpos
      rw [htable, PropertyTable.get?_insert, if_pos rfl]
      rfl

/-- A write that is not at a position of an array leaves what is read elsewhere. -/
theorem ownProperty?_write_ne (hpos : o.isPosition key = false) (v : Value) (hne : k ≠ key) :
    (o.write key v).ownProperty? k = o.ownProperty? k := by
  rw [write_table hpos]
  unfold ownProperty?
  simp only [PropertyTable.get?_insert, if_neg hne]

/-- No read sees a write at the length of an array. -/
theorem ownProperty?_write_length (h : o.isLength key = true) (v : Value) (k : PropertyKey) :
    (o.write key v).ownProperty? k = o.ownProperty? k := by
  by_cases hk : k = key
  · rw [hk, ownProperty?_write_self, if_pos h]
  · obtain ⟨-, rfl⟩ := kind_of_isLength h
    exact ownProperty?_write_ne (isPosition_name arrayIndex?_length o) v hk

theorem ownProperty?_write (hlen : o.isLength key = false) (hpos : o.isPosition key = false)
    (v : Value) (k : PropertyKey) :
    (o.write key v).ownProperty? k = if k = key then some v else o.ownProperty? k := by
  by_cases hk : k = key
  · rw [hk, ownProperty?_write_self, hlen, if_pos rfl]
    rfl
  · rw [if_neg hk, ownProperty?_write_ne hpos v hk]

end HeapObject
end Invocation
