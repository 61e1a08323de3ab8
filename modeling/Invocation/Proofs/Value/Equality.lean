/-
# The two equalities

Both equalities compare values of one kind by what the kind goes by, and differ in how they
compare two doubles. `Alike R` is what they share: it compares doubles by `R`, whichever form
the numbers have, strings by length and text, and foreign values by identity. Strict equality
is `Alike` for equality of numbers (`Value.strictEquals_iff`), and being the same value is
`Alike` for the same double, any NaN counting as any other (`Value.sameValue_iff`). An
equality is as symmetric and as transitive as the comparison of doubles that it rests on.

That two 32 bit integers are compared as integers and an integer and a double as doubles makes
one equality, because an integer of 32 bits is the value of its double.

Key definitions: `Value.Alike`, `Value.isNaN`, `Value.OppositeZeros`.
Key theorems: `Value.strictEquals_iff`, `Value.sameValue_iff`, `Value.equality_laws`.
-/
import Invocation.Proofs.Number.Exact
import Invocation.Proofs.Text.Rope
import Invocation.Value

namespace Invocation

/-! ### Doubles -/

namespace Binary64

variable {x y z : Binary64}

/-- The same double, where any NaN is any other. -/
def Same (x y : Binary64) : Prop := x.isNaN = true ∧ y.isNaN = true ∨ x = y

theorem numEq_symm (h : x.numEq y = true) : y.numEq x = true := by
  rw [numEq_iff] at h ⊢
  obtain ⟨hx, hy, hxy⟩ := h
  exact ⟨hy, hx, hxy.imp Eq.symm And.symm⟩

theorem numEq_trans (hxy : x.numEq y = true) (hyz : y.numEq z = true) : x.numEq z = true := by
  rw [numEq_iff] at hxy hyz ⊢
  obtain ⟨hx, hy, hxy⟩ := hxy
  obtain ⟨-, hz, hyz⟩ := hyz
  refine ⟨hx, hz, ?_⟩
  rcases hxy with rfl | ⟨hx0, hy0⟩
  · exact hyz
  · rcases hyz with rfl | ⟨-, hz0⟩
    · exact Or.inr ⟨hx0, hy0⟩
    · exact Or.inr ⟨hx0, hz0⟩

theorem Same.symm (h : x.Same y) : y.Same x := h.imp And.symm Eq.symm

theorem Same.trans (hxy : x.Same y) (hyz : y.Same z) : x.Same z := by
  rcases hxy with ⟨hx, hy⟩ | rfl
  · rcases hyz with ⟨-, hz⟩ | rfl
    · exact Or.inl ⟨hx, hz⟩
    · exact Or.inl ⟨hx, hy⟩
  · exact hyz

/-- Equal numbers of one sign are the same double: the two zeros differ in their sign. -/
theorem same_iff : x.Same y ↔ x.isNaN = true ∧ y.isNaN = true ∨
    x.numEq y = true ∧ x.isNegative = y.isNegative := by
  constructor
  · rintro (hnan | rfl)
    · exact Or.inl hnan
    · by_cases hx : x.isNaN = true
      · exact Or.inl ⟨hx, hx⟩
      · have hx := eq_false_of_ne_true hx
        exact Or.inr ⟨numEq_iff.mpr ⟨hx, hx, Or.inl rfl⟩, rfl⟩
  · rintro (hnan | ⟨heq, hsign⟩)
    · exact Or.inl hnan
    · obtain ⟨-, -, rfl | ⟨hx, hy⟩⟩ := numEq_iff.mp heq
      · exact Or.inr rfl
      · have hmag : x.magnitude = y.magnitude := (isZero_iff.mp hx).trans (isZero_iff.mp hy).symm
        obtain ⟨hexp, hfrac⟩ := magnitude_inj.mp hmag
        exact Or.inr (eq_of_fields hsign hexp hfrac)

/-- An integer of 32 bits is the value of its double. -/
theorem value_ofInt32 (i : Int32) :
    (ofInt i.toInt).isFinite = true ∧ (ofInt i.toInt).value = i.toInt := by
  have hlow := i.le_toInt
  have hhigh := i.toInt_lt
  exact value_ofInt (by omega)

/-- Integers of 32 bits are equal as doubles exactly if they are equal. -/
theorem numEq_ofInt32 (i j : Int32) : (ofInt i.toInt).numEq (ofInt j.toInt) = (i == j) := by
  obtain ⟨hi, hvi⟩ := value_ofInt32 i
  obtain ⟨hj, hvj⟩ := value_ofInt32 j
  rw [Bool.eq_iff_iff, numEq_iff_value hj, hvi, hvj, Int.cast_inj, Int32.toInt_inj, beq_iff_eq,
    and_iff_right hi]

end Binary64

namespace Value

/-- Whether a value is the number that is none. -/
def isNaN (v : Value) : Bool := v.number?.any Binary64.isNaN

/-- Both values are zero, one of them the negative zero and the other not. -/
def OppositeZeros (a b : Value) : Prop :=
  ∃ x y, a.number? = some x ∧ b.number? = some y ∧ x.isZero = true ∧ y.isZero = true ∧
    x.isNegative ≠ y.isNegative

/-- Values of one kind that agree in what their kind goes by, with doubles compared by `R`. -/
inductive Alike (R : Binary64 → Binary64 → Prop) : Value → Value → Prop
  | undefined : Alike R .undefined .undefined
  | null : Alike R .null .null
  | bool (b : Bool) : Alike R (.bool b) (.bool b)
  | number {a b : Value} {x y : Binary64} : a.number? = some x → b.number? = some y → R x y →
      Alike R a b
  | string {r s : Rope} : r.length = s.length → r.flatten = s.flatten →
      Alike R (.string r) (.string s)
  | symbol (id : SymbolId) : Alike R (.symbol id) (.symbol id)
  | object (handle : ObjectHandle) : Alike R (.object handle) (.object handle)
  | foreign {f g : Foreign} : f.identity = g.identity → Alike R (.foreign f) (.foreign g)

variable {R : Binary64 → Binary64 → Prop} {a b c : Value} {x y : Binary64}

/-- One of two values is no number. -/
theorem not_numbers (h : a.number? = none ∨ b.number? = none) (ha : a.number? = some x)
    (hb : b.number? = some y) : False := by
  rw [ha, hb] at h
  rcases h with h | h <;> cases h

/-- Both values are numbers, or one of them is none. -/
theorem numbers_or (a b : Value) : (∃ x y, a.number? = some x ∧ b.number? = some y) ∨
    (a.number? = none ∨ b.number? = none) := by
  cases ha : a.number? with
  | none => exact Or.inr (Or.inl rfl)
  | some x =>
    cases hb : b.number? with
    | none => exact Or.inr (Or.inr rfl)
    | some y => exact Or.inl ⟨x, y, rfl, rfl⟩

/-! ### Agreement -/

theorem Alike.number_inv (h : Alike R a b) (ha : a.number? = some x) :
    ∃ y, b.number? = some y ∧ R x y := by
  cases h with
  | number ha' hb hxy =>
    rw [ha', Option.some_inj] at ha
    exact ⟨_, hb, ha ▸ hxy⟩
  | _ => cases ha

theorem Alike.refl_of_not_number (ha : a.number? = none) : Alike R a a := by
  cases a with
  | int i => cases ha
  | number x => cases ha
  | undefined => exact .undefined
  | null => exact .null
  | bool b => exact .bool b
  | string r => exact .string rfl rfl
  | symbol id => exact .symbol id
  | object handle => exact .object handle
  | foreign f => exact .foreign rfl

theorem Alike.symm (hR : ∀ x y, R x y → R y x) (h : Alike R a b) : Alike R b a := by
  cases h with
  | number ha hb hxy => exact .number hb ha (hR _ _ hxy)
  | string hlen htext => exact .string hlen.symm htext.symm
  | foreign hid => exact .foreign hid.symm
  | undefined => exact .undefined
  | null => exact .null
  | bool b => exact .bool b
  | symbol id => exact .symbol id
  | object handle => exact .object handle

theorem Alike.trans (hR : ∀ x y z, R x y → R y z → R x z) (hab : Alike R a b)
    (hbc : Alike R b c) : Alike R a c := by
  cases hab with
  | number ha hb hxy =>
    obtain ⟨z, hc, hyz⟩ := hbc.number_inv hb
    exact .number ha hc (hR _ _ _ hxy hyz)
  | string hlen htext =>
    cases hbc with
    | number hb => cases hb
    | string hlen' htext' => exact .string (hlen.trans hlen') (htext.trans htext')
  | foreign hid =>
    cases hbc with
    | number hb => cases hb
    | foreign hid' => exact .foreign (hid.trans hid')
  | _ => exact hbc

theorem typeName_of_number (ha : a.number? = some x) : a.typeName = "number" := by
  cases a with
  | int i => rfl
  | number x => rfl
  | _ => cases ha

theorem alike_number (ha : a.number? = some x) (hb : b.number? = some y) :
    Alike R a b ↔ R x y := by
  constructor
  · intro h
    obtain ⟨y', hb', hxy⟩ := h.number_inv ha
    rw [hb, Option.some_inj] at hb'
    exact hb' ▸ hxy
  · exact Alike.number ha hb

/-- How doubles are compared says nothing about other values. -/
theorem Alike.change {S : Binary64 → Binary64 → Prop} (h : Alike R a b)
    (hnone : a.number? = none ∨ b.number? = none) : Alike S a b := by
  cases h with
  | number ha hb => exact (not_numbers hnone ha hb).elim
  | undefined => exact .undefined
  | null => exact .null
  | bool b => exact .bool b
  | string hlen htext => exact .string hlen htext
  | symbol id => exact .symbol id
  | object handle => exact .object handle
  | foreign hid => exact .foreign hid

/-- Values of different kinds are not alike. -/
theorem Alike.typeName_eq (h : Alike R a b) : a.typeName = b.typeName := by
  cases h with
  | number ha hb => rw [typeName_of_number ha, typeName_of_number hb]
  | _ => rfl

/-! ### Strict equality -/

/-- Numbers are compared as doubles, whichever form they have. -/
theorem strictEquals_number (ha : a.number? = some x) (hb : b.number? = some y) :
    a.strictEquals b = x.numEq y := by
  cases a with
  | int i =>
    cases ha
    cases b with
    | int j =>
      cases hb
      exact (Binary64.numEq_ofInt32 i j).symm
    | number y =>
      cases hb
      rfl
    | _ => cases hb
  | number x =>
    cases ha
    cases b with
    | int j =>
      cases hb
      rfl
    | number y =>
      cases hb
      rfl
    | _ => cases hb
  | _ => cases ha

theorem strictEquals_string (r s : Rope) : (Value.string r).strictEquals (.string s) = true ↔
    r.length = s.length ∧ r.flatten = s.flatten := by
  show (r.length == s.length && r.flatten == s.flatten) = true ↔ _
  rw [Bool.and_eq_true, beq_iff_eq, beq_iff_eq]

theorem strictEquals_iff :
    a.strictEquals b = true ↔ Alike (fun x y => x.numEq y = true) a b := by
  constructor
  · intro h
    unfold strictEquals at h
    split at h
    · exact .undefined
    · exact .null
    · rw [eq_of_beq h]
      exact .bool _
    · rename_i i j
      exact .number rfl rfl ((Binary64.numEq_ofInt32 i j).trans h)
    · obtain ⟨hlen, htext⟩ := (strictEquals_string _ _).mp h
      exact .string hlen htext
    · rw [eq_of_beq h]
      exact .symbol _
    · rw [eq_of_beq h]
      exact .object _
    · exact .foreign (eq_of_beq h)
    · split at h
      · rename_i ha hb
        exact .number ha hb h
      · cases h
  · intro h
    cases h with
    | undefined => rfl
    | null => rfl
    | number ha hb hxy => exact (strictEquals_number ha hb).trans hxy
    | string hlen htext => exact (strictEquals_string _ _).mpr ⟨hlen, htext⟩
    | bool b => exact beq_self_eq_true b
    | symbol id => exact beq_self_eq_true id
    | object handle => exact beq_self_eq_true handle
    | foreign hid => exact beq_iff_eq.mpr hid

/-! ### Being the same value -/

theorem sameValue_number (ha : a.number? = some x) (hb : b.number? = some y) :
    a.sameValue b = true ↔ x.Same y := by
  rw [Binary64.same_iff, ← Bool.and_eq_true]
  unfold sameValue
  rw [ha, hb]
  by_cases hnan : (x.isNaN && y.isNaN) = true
  · simp [hnan]
  · simp [hnan]

theorem sameValue_of_not_numbers (h : a.number? = none ∨ b.number? = none) :
    a.sameValue b = a.strictEquals b := by
  unfold sameValue
  split
  · rename_i ha hb
    exact (not_numbers h ha hb).elim
  · rfl

theorem sameValue_iff : a.sameValue b = true ↔ Alike Binary64.Same a b := by
  rcases numbers_or a b with ⟨x, y, ha, hb⟩ | hnone
  · rw [sameValue_number ha hb, alike_number ha hb]
  · rw [sameValue_of_not_numbers hnone, strictEquals_iff]
    exact ⟨fun h => h.change hnone, fun h => h.change hnone⟩

theorem sameValue_refl (v : Value) : v.sameValue v = true := by
  cases hv : v.number? with
  | none => exact sameValue_iff.mpr (Alike.refl_of_not_number hv)
  | some x => exact (sameValue_number hv hv).mpr (Or.inr rfl)

/-! ### Between the two -/

theorem isNaN_number (ha : a.number? = some x) : a.isNaN = x.isNaN := by
  unfold isNaN
  rw [ha, Option.any_some]

theorem isNaN_of_not_number (ha : a.number? = none) : a.isNaN = false := by
  unfold isNaN
  rw [ha, Option.any_none]

theorem number_of_isNaN (ha : a.isNaN = true) : ∃ x, a.number? = some x := by
  cases hx : a.number? with
  | none =>
    rw [isNaN_of_not_number hx] at ha
    cases ha
  | some x => exact ⟨x, rfl⟩

theorem strictEquals_self : a.strictEquals a = true ↔ a.isNaN = false := by
  cases ha : a.number? with
  | none => simp [strictEquals_iff, Alike.refl_of_not_number ha, isNaN_of_not_number ha]
  | some x => simp [strictEquals_number ha ha, isNaN_number ha, Binary64.numEq_iff]

theorem oppositeZeros_number (ha : a.number? = some x) (hb : b.number? = some y) :
    OppositeZeros a b ↔ x.isZero = true ∧ y.isZero = true ∧ x.isNegative ≠ y.isNegative := by
  unfold OppositeZeros
  rw [ha, hb]
  simp

/-- The equalities part only at NaN and at the zeros. -/
theorem sameValue_iff_strictEquals : a.sameValue b = true ↔
    a.isNaN = true ∧ b.isNaN = true ∨ a.strictEquals b = true ∧ ¬ OppositeZeros a b := by
  rcases numbers_or a b with ⟨x, y, ha, hb⟩ | hnone
  · rw [sameValue_number ha hb, strictEquals_number ha hb, oppositeZeros_number ha hb,
      isNaN_number ha, isNaN_number hb, Binary64.same_iff]
    refine or_congr_right (and_congr_right fun heq => ?_)
    obtain ⟨-, -, rfl | ⟨hx, hy⟩⟩ := Binary64.numEq_iff.mp heq
    · simp
    · simp [hx, hy]
  · rw [sameValue_of_not_numbers hnone]
    have hnan : ¬ (a.isNaN = true ∧ b.isNaN = true) := by
      rintro ⟨ha, hb⟩
      obtain ⟨x, hx⟩ := number_of_isNaN ha
      obtain ⟨y, hy⟩ := number_of_isNaN hb
      exact not_numbers hnone hx hy
    have hzeros : ¬ OppositeZeros a b := by
      rintro ⟨x, y, ha, hb, -⟩
      exact not_numbers hnone ha hb
    rw [or_iff_right hnan, and_iff_left hzeros]

/-- Being the same value is an equivalence. Strict equality is one on everything but NaN, which
equals nothing. The two agree except that a NaN is the same value as any other and that zeros of
different signs are not. Values of different kinds are never strictly equal. Numbers are if they
have one value, whichever form they have, strings if they stand for the same text, however they were
built, and foreign values if they have one identity. -/
theorem equality_laws :
    (Equivalence fun a b : Value => a.sameValue b = true) ∧
    (∀ a b : Value, a.strictEquals b = true → b.strictEquals a = true) ∧
    (∀ a b c : Value, a.strictEquals b = true → b.strictEquals c = true →
      a.strictEquals c = true) ∧
    (∀ a : Value, a.strictEquals a = true ↔ a.isNaN = false) ∧
    (∀ a b : Value, a.sameValue b = true ↔
      a.isNaN = true ∧ b.isNaN = true ∨ a.strictEquals b = true ∧ ¬ OppositeZeros a b) ∧
    (∀ a b : Value, a.strictEquals b = true → a.typeName = b.typeName) ∧
    (∀ (a b : Value) (x y : Binary64), a.number? = some x → b.number? = some y →
      y.isFinite = true → (a.strictEquals b = true ↔ x.isFinite = true ∧ x.value = y.value)) ∧
    (∀ a b : Value, a.strictEquals b = true ↔ Alike (fun x y => x.numEq y = true) a b) ∧
    ∀ (r s : Rope) (t u : String), r.Built t → s.Built u →
      ((Value.string r).strictEquals (.string s) = true ↔ t = u) := by
  have hsymm : ∀ x y : Binary64, x.Same y → y.Same x := fun x y h => h.symm
  have htrans : ∀ x y z : Binary64, x.Same y → y.Same z → x.Same z := fun x y z h h' => h.trans h'
  refine ⟨⟨sameValue_refl, ?_, ?_⟩, ?_, ?_, fun a => strictEquals_self,
    fun a b => sameValue_iff_strictEquals, ?_, ?_, fun a b => strictEquals_iff, ?_⟩
  · intro a b h
    exact sameValue_iff.mpr ((sameValue_iff.mp h).symm hsymm)
  · intro a b c hab hbc
    exact sameValue_iff.mpr ((sameValue_iff.mp hab).trans htrans (sameValue_iff.mp hbc))
  · intro a b h
    exact strictEquals_iff.mpr ((strictEquals_iff.mp h).symm fun x y => Binary64.numEq_symm)
  · intro a b c hab hbc
    exact strictEquals_iff.mpr
      ((strictEquals_iff.mp hab).trans (fun x y z => Binary64.numEq_trans)
        (strictEquals_iff.mp hbc))
  · intro a b h
    exact (strictEquals_iff.mp h).typeName_eq
  · intro a b x y ha hb hy
    rw [strictEquals_number ha hb, Binary64.numEq_iff_value hy]
  · intro r s t u hr hs
    exact hr.represents.sameText_iff hs.represents

/-- The integer zero and the two zeros among the doubles: strictly equal one after the other, and so
the first to the last, but not all the same value. -/
theorem equality_laws_zeros :
    (Value.int 0).strictEquals (.number ⟨0x8000000000000000⟩) = true ∧
      (Value.number ⟨0x8000000000000000⟩).strictEquals (.number ⟨0⟩) = true ∧
      (Value.int 0).strictEquals (.number ⟨0⟩) = true ∧
      (Value.int 0).sameValue (.number ⟨0x8000000000000000⟩) = false := by
  obtain ⟨-, -, htrans, -, hsame, -⟩ := equality_laws
  have hfirst : (Value.int 0).strictEquals (.number ⟨0x8000000000000000⟩) = true := by decide
  have hsecond : (Value.number ⟨0x8000000000000000⟩).strictEquals (.number ⟨0⟩) = true := by decide
  refine ⟨hfirst, hsecond, htrans _ _ _ hfirst hsecond, ?_⟩
  rw [← Bool.not_eq_true, hsame]
  rintro (⟨hnan, -⟩ | ⟨-, hzeros⟩)
  · cases hnan
  · exact hzeros ⟨_, _, rfl, rfl, rfl, rfl, by decide⟩

end Value
end Invocation
