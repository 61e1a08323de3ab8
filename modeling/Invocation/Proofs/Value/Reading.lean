/-
# What readings accept

A value reads as a 32 bit integer exactly if it is strictly equal to it: it is that integer
or a double of that value, the negative zero among them. Nothing is rounded or cut off, and
any other value is a type mismatch. Written as a guard, the same reading takes a double that
has no fraction and lies between the smallest and the largest integer, and casts it; behind
this guard the cast has nothing to cut off and nothing to hold back at the ends of the range
(`Value.int32?_number`).

Every reading gives back what was made a value of its kind, and so does the optional one.

Key definitions: `Binary64.le`, `Binary64.saturated`, `Reading.RoundTrips`.
Key theorems: `Value.int32?_eq_some_iff`, `Value.int32?_number`, `Reading.roundTrips`,
`Reading.reading_laws`.
-/
import Mathlib.Algebra.Order.Ring.Cast
import Invocation.Proofs.Value.Equality
import Invocation.Value.Reading

namespace Invocation

/-! ### The cast to an integer -/

namespace Binary64

/-- The order of numbers: a NaN is not below anything and nothing is below it. The infinities lie
beyond the finite numbers. -/
def le (x y : Binary64) : Bool := !x.isNaN && !y.isNaN && decide (x.units ≤ y.units)

/-- The cast to 32 bits: the fraction is cut off, what lies beyond either end becomes that end, and
a NaN zero. -/
def saturated (x : Binary64) : Int32 :=
  if x.isNaN then 0
  else if x.isFinite then Int32.ofInt (max (-0x80000000) (min 0x7fffffff x.truncate))
  else if x.isNegative then Int32.minValue
  else Int32.maxValue

variable {x y : Binary64} {n : Int} {i : Int32}

theorem le_iff_value (hx : x.isFinite = true) (hy : y.isFinite = true) :
    x.le y = true ↔ x.value ≤ y.value := by
  have hpos : (0 : ℚ) < 2 ^ 1074 := pow_pos two_pos 1074
  unfold le
  rw [isNaN_of_isFinite hx, isNaN_of_isFinite hy, value_eq, value_eq,
    div_le_div_iff_of_pos_right hpos, Int.cast_le]
  exact decide_eq_true_iff

theorem ofInt32_le (hx : x.isFinite = true) (hn : x.value = n) :
    (ofInt i.toInt).le x = true ↔ i.toInt ≤ n := by
  obtain ⟨hi, hvalue⟩ := value_ofInt32 i
  rw [le_iff_value hi hx, hvalue, hn, Int.cast_le]

theorem le_ofInt32 (hx : x.isFinite = true) (hn : x.value = n) :
    x.le (ofInt i.toInt) = true ↔ n ≤ i.toInt := by
  obtain ⟨hi, hvalue⟩ := value_ofInt32 i
  rw [le_iff_value hx hi, hvalue, hn, Int.cast_le]

/-- Within 32 bits, the cast only cuts the fraction off. -/
theorem saturated_of_truncate (hx : x.isFinite = true)
    (hrange : -0x80000000 ≤ x.truncate ∧ x.truncate ≤ 0x7fffffff) :
    x.saturated = Int32.ofInt x.truncate := by
  have hclamp : max (-0x80000000) (min 0x7fffffff x.truncate) = x.truncate := by omega
  unfold saturated
  rw [isNaN_of_isFinite hx, if_neg Bool.false_ne_true, if_pos hx, hclamp]

end Binary64

/-! ### Integers -/

namespace Value

variable {v : Value} {x : Binary64} {i : Int32}

theorem int32?_number_eq_some : (Value.number x).int32? = some i ↔ x.toInt? = some i.toInt := by
  have hlow := i.le_toInt
  have hhigh := i.toInt_lt
  cases hn : x.toInt? with
  | none => simp [int32?, hn]
  | some n =>
    simp only [int32?, hn, Option.some_inj]
    by_cases hrange : -0x80000000 ≤ n ∧ n < 0x80000000
    · rw [if_pos hrange, Option.some_inj]
      constructor
      · rintro rfl
        exact (Int32.toInt_ofInt_of_le hrange.1 hrange.2).symm
      · rintro rfl
        exact Int32.ofInt_toInt i
    · rw [if_neg hrange]
      constructor
      · rintro ⟨⟩
      · rintro rfl
        exact absurd ⟨hlow, hhigh⟩ hrange

theorem int32?_eq_some_iff : v.int32? = some i ↔
    v = .int i ∨ ∃ x, v = .number x ∧ x.isFinite = true ∧ x.value = i.toInt := by
  cases v with
  | int j => simp [int32?]
  | number x => simp [int32?_number_eq_some, Binary64.toInt?_eq_some_iff]
  | _ => simp [int32?]

/-- Strictly equal to an integer are that integer and the doubles of its value. -/
theorem strictEquals_int : v.strictEquals (.int i) = true ↔
    v = .int i ∨ ∃ x, v = .number x ∧ x.isFinite = true ∧ x.value = i.toInt := by
  obtain ⟨hfin, hval⟩ := Binary64.value_ofInt32 i
  cases v with
  | int j => simp [strictEquals]
  | number x =>
    rw [strictEquals_number (x := x) rfl rfl, Binary64.numEq_iff_value hfin, hval]
    simp
  | _ => simp [strictEquals, number?]

/-- The guard lets no double pass that the cast would change. -/
theorem int32?_number : (Value.number x).int32? =
    if x.isFinite && x.isWhole && (Binary64.ofInt Int32.minValue.toInt).le x &&
      x.le (Binary64.ofInt Int32.maxValue.toInt) then some x.saturated else none := by
  have hmin : Int32.minValue.toInt = -0x80000000 := rfl
  have hmax : Int32.maxValue.toInt = 0x7fffffff := rfl
  by_cases hwhole : (x.isFinite && x.isWhole) = true
  · have hn : x.toInt? = some x.truncate := if_pos hwhole
    obtain ⟨hx, hvalue⟩ := Binary64.toInt?_eq_some_iff.mp hn
    simp only [int32?, hn]
    by_cases hrange : -0x80000000 ≤ x.truncate ∧ x.truncate < 0x80000000
    · have hcast := Binary64.saturated_of_truncate hx ⟨hrange.1, by omega⟩
      have hlow : (Binary64.ofInt Int32.minValue.toInt).le x = true :=
        (Binary64.ofInt32_le hx hvalue).mpr (by omega)
      have hhigh : x.le (Binary64.ofInt Int32.maxValue.toInt) = true :=
        (Binary64.le_ofInt32 hx hvalue).mpr (by omega)
      rw [if_pos hrange, hwhole, hlow, hhigh, hcast]
      rfl
    · rw [if_neg hrange, if_neg]
      intro hguard
      rw [Bool.and_eq_true, Bool.and_eq_true, Binary64.ofInt32_le hx hvalue,
        Binary64.le_ofInt32 hx hvalue] at hguard
      omega
  · have hn : x.toInt? = none := if_neg hwhole
    simp only [int32?, hn]
    rw [eq_false_of_ne_true hwhole, Bool.false_and, Bool.false_and]
    rfl

end Value

namespace Reading

variable {α : Type} {r : Reading α} {v : Value} {a : α} {toValue : α → Value}

/-! ### Outcomes -/

theorem read_eq_ok : r.read v = .ok a ↔ r.accept v = some a := by
  unfold read
  split
  · rename_i b hb
    rw [hb, Except.ok.injEq, Option.some_inj]
  · rename_i hb
    simp [hb]

theorem read_eq_mismatch (h : r.accept v = none) :
    r.read v = .error (.typeMismatch r.expected v.typeName) := by
  unfold read
  rw [h]

theorem read_or_mismatch (r : Reading α) (v : Value) :
    (∃ a, r.read v = .ok a) ∨ r.read v = .error (.typeMismatch r.expected v.typeName) := by
  cases h : r.accept v with
  | none => exact Or.inr (read_eq_mismatch h)
  | some a => exact Or.inl ⟨a, read_eq_ok.mpr h⟩

/-! ### Round trips -/

/-- A reading, and the optional one, give back what a function made values of. -/
def RoundTrips (r : Reading α) (toValue : α → Value) : Prop :=
  ∀ a, r.read (toValue a) = .ok a ∧ r.optional.read (toValue a) = .ok (some a)

theorem roundTrips (hsome : ∀ a, (toValue a).isNullish = false)
    (haccept : ∀ a, r.accept (toValue a) = some a) : r.RoundTrips toValue := by
  intro a
  refine ⟨read_eq_ok.mpr (haccept a), read_eq_ok.mpr ?_⟩
  show (if (toValue a).isNullish = true then some none else (r.accept (toValue a)).map some) = _
  rw [hsome a, haccept a]
  rfl

/-! ### Reading an integer -/

theorem read_int32 {i : Int32} : int32.read v = .ok i ↔
    v = .int i ∨ ∃ x, v = .number x ∧ x.isFinite = true ∧ x.value = i.toInt :=
  read_eq_ok.trans Value.int32?_eq_some_iff

theorem read_int32_iff_strictEquals {i : Int32} :
    int32.read v = .ok i ↔ v.strictEquals (.int i) = true := by
  rw [read_int32, Value.strictEquals_int]

theorem read_int32_mismatch (hv : ∀ i : Int32, v.strictEquals (.int i) = false) :
    int32.read v = .error (.typeMismatch "int" v.typeName) := by
  rcases int32.read_or_mismatch v with ⟨i, hi⟩ | herr
  · rw [read_int32_iff_strictEquals, hv i] at hi
    cases hi
  · exact herr

/-- What is not finite, has a fraction or lies outside of 32 bits is no integer. -/
theorem read_int32_outside {x : Binary64}
    (hx : x.isFinite = true → ∀ n : Int, x.value = n → n < -0x80000000 ∨ 0x80000000 ≤ n) :
    int32.read (.number x) = .error (.typeMismatch "int" "number") := by
  rcases int32.read_or_mismatch (.number x) with ⟨i, hi⟩ | herr
  · have hlow := i.le_toInt
    have hhigh := i.toInt_lt
    obtain h | ⟨y, hy, hfin, hval⟩ := read_int32.mp hi
    · cases h
    · cases hy
      have hout := hx hfin i.toInt hval
      omega
  · exact herr

theorem read_int32_number (x : Binary64) : int32.read (.number x) =
    if x.isFinite && x.isWhole && (Binary64.ofInt Int32.minValue.toInt).le x &&
      x.le (Binary64.ofInt Int32.maxValue.toInt) then .ok x.saturated
    else .error (.typeMismatch "int" "number") := by
  have hx := Value.int32?_number (x := x)
  split at hx
  · rename_i hguard
    rw [if_pos hguard]
    exact read_eq_ok.mpr hx
  · rename_i hguard
    rw [if_neg hguard]
    exact read_eq_mismatch hx

/-- A value reads as a 32 bit integer exactly if it is strictly equal to it, that is, if it is that
integer or a finite double of that value. Everything else is a type mismatch: what equals no
integer, and in particular a double that is not finite, has a fraction or lies outside of 32 bits;
so the reading is the cast of a double behind its guard. Readings of every kind give back what was
made a value, and so do the optional ones. -/
theorem reading_laws :
    (∀ (v : Value) (i : Int32), int32.read v = .ok i ↔ v.strictEquals (.int i) = true) ∧
    (∀ (v : Value) (i : Int32), int32.read v = .ok i ↔
      v = .int i ∨ ∃ x, v = .number x ∧ x.isFinite = true ∧ x.value = i.toInt) ∧
    (∀ v : Value, (∀ i : Int32, v.strictEquals (.int i) = false) →
      int32.read v = .error (.typeMismatch "int" v.typeName)) ∧
    (∀ x : Binary64,
      (x.isFinite = true → ∀ n : Int, x.value = n → n < -0x80000000 ∨ 0x80000000 ≤ n) →
      int32.read (.number x) = .error (.typeMismatch "int" "number")) ∧
    (∀ x : Binary64, int32.read (.number x) =
      if x.isFinite && x.isWhole && (Binary64.ofInt Int32.minValue.toInt).le x &&
        x.le (Binary64.ofInt Int32.maxValue.toInt) then .ok x.saturated
      else .error (.typeMismatch "int" "number")) ∧
    bool.RoundTrips .bool ∧ int32.RoundTrips .int ∧ number.RoundTrips .number ∧
    string.RoundTrips .string ∧ text.RoundTrips Value.text ∧ object.RoundTrips .object ∧
    symbol.RoundTrips .symbol ∧ foreign.RoundTrips .foreign := by
  refine ⟨fun _ _ => read_int32_iff_strictEquals, fun _ _ => read_int32,
    fun _ => read_int32_mismatch, fun _ => read_int32_outside, read_int32_number,
    ?_, ?_, ?_, ?_, ?_, ?_, ?_, ?_⟩ <;>
  exact roundTrips (fun _ => rfl) (fun _ => rfl)

/-- The negative zero is an integer; a numeral and the NaN are none. -/
theorem reading_laws_edges :
    int32.read (.number ⟨0x8000000000000000⟩) = .ok 0 ∧
      int32.read (Value.text "7") = .error (.typeMismatch "int" "string") ∧
      int32.read (.number ⟨0x7ff8000000000000⟩) = .error (.typeMismatch "int" "number") := by
  obtain ⟨hequal, -, hmismatch, hout, -⟩ := reading_laws
  have hzero : (Value.number ⟨0x8000000000000000⟩).strictEquals (.int 0) = true := by decide
  have hnan : (⟨0x7ff8000000000000⟩ : Binary64).isFinite = false := rfl
  refine ⟨(hequal _ _).mpr hzero, hmismatch (Value.text "7") fun _ => rfl, hout _ ?_⟩
  intro hfinite
  rw [hnan] at hfinite
  cases hfinite

end Reading
end Invocation
