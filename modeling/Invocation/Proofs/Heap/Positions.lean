/-
# Positions of an array by name

Each position of an array has one name, its decimal form, and a name that is no decimal form
is no position: not with a sign, a zero in front, or any other character. So different names
of positions are different elements (`ownProperty?_write_apart`): what is written at one is
not seen at the other.

Key theorems: `arrayIndex?_inj`, `HeapObject.ownProperty?_write_apart`,
`HeapObject.position_names`.
-/
import Invocation.Proofs.ArrayIndex
import Invocation.Proofs.Heap.Writes

namespace Invocation

variable {s t : String} {i j : Nat}

/-- Two names of one position are the same. -/
theorem arrayIndex?_inj (hs : arrayIndex? s = some i) (ht : arrayIndex? t = some i) : s = t :=
  (arrayIndex?_eq_some_iff.mp hs).2.trans (arrayIndex?_eq_some_iff.mp ht).2.symm

namespace HeapObject

variable {o : HeapObject} {items : Array Value}

/-- An element stays what it was when another one is written. -/
theorem ownProperty?_write_apart (hk : o.kind = .array items) (hs : arrayIndex? s = some i)
    (ht : arrayIndex? t = some j) (hne : j ≠ i) (hj : j < items.size) (v : Value) :
    (o.write (.text s) v).ownProperty? (.text t) = o.ownProperty? (.text t) := by
  have hgap : ¬ (items.size ≤ j ∧ j < i) := fun h => Nat.not_le.mpr hj h.1
  rw [write_element hk hs, ownProperty?_element hk ht,
    ownProperty?_element (o := { o with kind := .array (writeElement items i v) }) rfl ht,
    getElem?_writeElement, if_neg hne, if_neg hgap]

/-- The names of positions. A name is the position `n` of an array exactly if it is the decimal form
of `n`, the text that `n` is written as, and `n` is at most `4294967294`. Another name of a
position is another position: in every array the two read different elements, and a write at one
leaves the other as it was. -/
theorem position_names (s : String) (n : Nat) :
    (arrayIndex? s = some n ↔ n ≤ 4294967294 ∧ Numeral s.toList n) ∧
    (Numeral s.toList n ↔ s = toString n) ∧
    (arrayIndex? s = some n → ∀ t m, t ≠ s → arrayIndex? t = some m →
      m ≠ n ∧ ∀ (o : HeapObject) (items : Array Value), o.kind = .array items →
        o.ownProperty? (.text s) = items[n]? ∧ o.ownProperty? (.text t) = items[m]? ∧
        (m < items.size → ∀ v,
          (o.write (.text s) v).ownProperty? (.text t) = o.ownProperty? (.text t))) := by
  refine ⟨?_, numeral_iff_toString, ?_⟩
  · rw [arrayIndex?_eq_some_iff, numeral_iff_toString]
    exact Iff.rfl
  · intro hs t m hne ht
    have hapart : m ≠ n := by
      rintro rfl
      exact hne (arrayIndex?_inj ht hs)
    refine ⟨hapart, fun o items hk => ⟨ownProperty?_element hk hs, ownProperty?_element hk ht, ?_⟩⟩
    exact fun hm v => ownProperty?_write_apart hk hs ht hapart hm v

/-- The last position and the number after it, a sign, a zero in front, and a write at one of
two elements. -/
theorem position_names_edges :
    arrayIndex? "4294967294" = some 4294967294 ∧ arrayIndex? "4294967295" = none ∧
      arrayIndex? "+1" = none ∧ arrayIndex? "01" = none ∧
      (({ kind := .array #[.int 7, .int 8] } : HeapObject).write "0" .null).ownProperty? "1" =
        some (.int 8) := by
  have refused : ∀ s, (∀ n ≤ 4294967294, ¬ Numeral s.toList n) → arrayIndex? s = none := by
    intro s h
    refine Option.eq_none_iff_forall_ne_some.mpr fun n hn => ?_
    obtain ⟨hle, hform⟩ := (position_names s n).1.mp hn
    exact h n hle hform
  refine ⟨?_, refused _ ?_, refused _ ?_, refused _ ?_, ?_⟩
  · exact (position_names "4294967294" 4294967294).1.mpr
      ⟨by decide, (position_names _ _).2.1.mpr rfl⟩
  · intro n hn h
    have hvalue : 4294967295 = n := h.value
    omega
  · intro n _ h
    cases h.digits
  · intro n _ h
    cases h.noLeadingZero ['1'] rfl
  · obtain ⟨-, helements⟩ := (position_names "0" 0).2.2 (by decide) "1" 1 (by decide) (by decide)
    obtain ⟨-, hread, hkept⟩ := helements { kind := .array #[.int 7, .int 8] } _ rfl
    exact (hkept (by decide) .null).trans hread

end HeapObject
end Invocation
