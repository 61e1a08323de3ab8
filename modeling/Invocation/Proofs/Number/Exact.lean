/-
# The number that a double is

A finite double is a rational number (`Binary64.value`), and equality of doubles is equality
of these numbers: two finite doubles of one value are the same double or the two zeros
(`Binary64.numEq_iff_value`). A double equals an integer exactly if reading it as an integer
gives that integer (`Binary64.toInt?_eq_some_iff`), and every integer of at most 53 bits is
the value of its double (`Binary64.value_ofInt`).

All finite doubles are whole multiples of the smallest positive one, so that values are
compared as integers (`Binary64.units`). The magnitude in these units determines exponent
field and fraction: it is below the power of two at which the magnitudes of the next
exponent field begin.

Key definitions: `Binary64.value`, `Binary64.units`.
Key theorems: `Binary64.magnitude_inj`, `Binary64.numEq_iff_value`,
`Binary64.toInt?_eq_some_iff`, `Binary64.value_ofInt`.
-/
import Mathlib.Algebra.Order.Field.Rat
import Mathlib.Data.Int.Cast.Lemmas
import Invocation.Proofs.Number.Whole

namespace Invocation
namespace Binary64

/-- The rational number that a finite double is. -/
def value (x : Binary64) : ℚ := x.withSign x.significand * 2 ^ x.scale

/-- A magnitude, counted in units of the smallest positive double. -/
def magnitude (x : Binary64) : Nat := x.significand * 2 ^ (max 1 x.exponentField - 1)

/-- A finite double, counted in units of the smallest positive one. -/
def units (x : Binary64) : Int := x.withSign x.magnitude

variable {x y : Binary64} {n : Int}

/-! ### Fields -/

theorem fraction_lt (x : Binary64) : x.fraction < 0x10000000000000 := Nat.mod_lt _ (by decide)

/-- The bits are the fields, one beside the other. -/
theorem bits_eq (x : Binary64) : x.bits.toNat =
    (if x.isNegative then 0x8000000000000000 else 0) + x.exponentField * 0x10000000000000 +
      x.fraction := by
  have hlt : x.bits.toNat < 0x10000000000000000 := x.bits.toNat_lt
  unfold isNegative exponentField fraction
  rw [Nat.shiftRight_eq_div_pow]
  show _ = _ + x.bits.toNat / 0x10000000000000 % 2048 * _ + _
  by_cases hneg : 0x8000000000000000 ≤ x.bits.toNat
  · rw [decide_eq_true hneg, if_pos rfl]
    omega
  · rw [decide_eq_false hneg, if_neg Bool.false_ne_true]
    omega

theorem eq_of_fields (hsign : x.isNegative = y.isNegative)
    (hexp : x.exponentField = y.exponentField) (hfrac : x.fraction = y.fraction) : x = y := by
  have hbits : x.bits.toNat = y.bits.toNat := by rw [bits_eq x, bits_eq y, hsign, hexp, hfrac]
  cases x
  cases y
  exact congrArg Binary64.mk (UInt64.toNat_inj.mp hbits)

/-! ### Magnitudes -/

theorem magnitude_lt (x : Binary64) : x.magnitude < 0x10000000000000 * 2 ^ x.exponentField := by
  have hfrac := x.fraction_lt
  unfold magnitude significand
  cases x.exponentField with
  | zero => simpa using hfrac
  | succ e =>
    have hmax : max 1 (e + 1) - 1 = e := by omega
    rw [if_neg (Nat.succ_ne_zero e), hmax, pow_succ, mul_comm (2 ^ e) 2, ← mul_assoc]
    exact Nat.mul_lt_mul_of_pos_right (by omega) (Nat.two_pow_pos e)

theorem le_magnitude (he : x.exponentField ≠ 0) :
    0x10000000000000 * 2 ^ (x.exponentField - 1) ≤ x.magnitude := by
  have hmax : max 1 x.exponentField - 1 = x.exponentField - 1 := by omega
  unfold magnitude significand
  rw [if_neg he, hmax]
  exact Nat.mul_le_mul_right _ (Nat.le_add_right _ _)

theorem magnitude_lt_of_exponentField_lt (h : x.exponentField < y.exponentField) :
    x.magnitude < y.magnitude :=
  calc x.magnitude < 0x10000000000000 * 2 ^ x.exponentField := x.magnitude_lt
    _ ≤ 0x10000000000000 * 2 ^ (y.exponentField - 1) :=
      Nat.mul_le_mul_left _ (Nat.pow_le_pow_right Nat.two_pos (by omega))
    _ ≤ y.magnitude := le_magnitude (by omega)

/-- A magnitude determines exponent field and fraction. -/
theorem magnitude_inj : x.magnitude = y.magnitude ↔
    x.exponentField = y.exponentField ∧ x.fraction = y.fraction := by
  constructor
  · intro h
    have hexp : x.exponentField = y.exponentField := by
      rcases Nat.lt_trichotomy x.exponentField y.exponentField with hlt | heq | hlt
      · have := magnitude_lt_of_exponentField_lt hlt
        omega
      · exact heq
      · have := magnitude_lt_of_exponentField_lt hlt
        omega
    refine ⟨hexp, ?_⟩
    unfold magnitude significand at h
    rw [hexp] at h
    have hsig := Nat.eq_of_mul_eq_mul_right (Nat.two_pow_pos _) h
    split at hsig <;> omega
  · rintro ⟨hexp, hfrac⟩
    unfold magnitude significand
    rw [hexp, hfrac]

theorem isZero_iff : x.isZero = true ↔ x.magnitude = 0 := by
  unfold isZero magnitude significand
  rw [Nat.mul_eq_zero, or_iff_left (Nat.two_pow_pos _).ne', Bool.and_eq_true, beq_iff_eq,
    beq_iff_eq]
  split <;> omega

/-! ### Units -/

theorem natAbs_units (x : Binary64) : x.units.natAbs = x.magnitude := by
  unfold units withSign
  split <;> omega

theorem withSign_mul (x : Binary64) (m c : Nat) : x.withSign (m * c) = x.withSign m * c := by
  unfold withSign
  split
  · rw [Int.natCast_mul, Int.neg_mul]
  · rw [Int.natCast_mul]

/-- Doubles that are as many units are the same double or the two zeros. -/
theorem units_inj : x.units = y.units ↔ x = y ∨ x.isZero = true ∧ y.isZero = true := by
  constructor
  · intro h
    have hmag : x.magnitude = y.magnitude := by rw [← natAbs_units, ← natAbs_units, h]
    by_cases hsign : x.isNegative = y.isNegative
    · obtain ⟨hexp, hfrac⟩ := magnitude_inj.mp hmag
      exact Or.inl (eq_of_fields hsign hexp hfrac)
    · refine Or.inr ?_
      rw [isZero_iff, isZero_iff, ← hmag, and_self]
      unfold units withSign at h
      rw [← hmag] at h
      -- a magnitude that is its own negative is zero
      split at h
      · split at h
        · rename_i hx hy
          exact absurd (hx.trans hy.symm) hsign
        · omega
      · split at h
        · omega
        · rename_i hx hy
          exact absurd ((eq_false_of_ne_true hx).trans (eq_false_of_ne_true hy).symm) hsign
  · rintro (rfl | ⟨hx, hy⟩)
    · rfl
    · have hx := isZero_iff.mp hx
      have hy := isZero_iff.mp hy
      unfold units withSign
      rw [hx, hy]
      simp

/-! ### Values -/

theorem scale_eq (x : Binary64) : x.scale = (max 1 x.exponentField - 1 : Nat) - (1074 : Nat) := by
  unfold scale
  omega

theorem value_eq (x : Binary64) : x.value = x.units / 2 ^ 1074 := by
  unfold value units magnitude
  rw [withSign_mul, scale_eq, zpow_sub₀ two_ne_zero, zpow_natCast, zpow_natCast, Int.cast_mul,
    Int.cast_natCast, Nat.cast_pow, Nat.cast_ofNat, mul_div_assoc]

theorem value_eq_intCast : x.value = n ↔ x.units = n * 2 ^ 1074 := by
  have hcast : ((n * 2 ^ 1074 : Int) : ℚ) = n * 2 ^ 1074 := by
    rw [Int.cast_mul, Int.cast_pow, Int.cast_ofNat]
  rw [value_eq, div_eq_iff (pow_ne_zero _ two_ne_zero), ← hcast, Int.cast_inj]

theorem value_inj : x.value = y.value ↔ x = y ∨ x.isZero = true ∧ y.isZero = true := by
  rw [value_eq, value_eq, div_left_inj' (pow_ne_zero _ two_ne_zero), Int.cast_inj, units_inj]

/-! ### Equality -/

theorem isNaN_of_isFinite (hx : x.isFinite = true) : x.isNaN = false := by
  unfold isFinite at hx
  unfold isNaN
  rw [bne_iff_ne] at hx
  rw [beq_eq_false_iff_ne.mpr hx, Bool.false_and]

theorem isFinite_of_isZero (hx : x.isZero = true) : x.isFinite = true := by
  unfold isZero at hx
  unfold isFinite
  rw [Bool.and_eq_true, beq_iff_eq] at hx
  rw [hx.1]
  rfl

theorem numEq_iff : x.numEq y = true ↔
    x.isNaN = false ∧ y.isNaN = false ∧ (x = y ∨ x.isZero = true ∧ y.isZero = true) := by
  simp [numEq, and_assoc]

/-- A double equals a finite one exactly if it is finite and of the same value. -/
theorem numEq_iff_value (hy : y.isFinite = true) :
    x.numEq y = true ↔ x.isFinite = true ∧ x.value = y.value := by
  rw [numEq_iff, value_inj]
  constructor
  · rintro ⟨-, -, hxy⟩
    refine ⟨?_, hxy⟩
    rcases hxy with rfl | ⟨hx, -⟩
    · exact hy
    · exact isFinite_of_isZero hx
  · rintro ⟨hx, hxy⟩
    exact ⟨isNaN_of_isFinite hx, isNaN_of_isFinite hy, hxy⟩

/-! ### Integers -/

/-- Nothing is cut off a whole number. -/
theorem units_of_isWhole (hx : x.isWhole = true) : x.units = x.truncate * 2 ^ 1074 := by
  have hexp := x.scale_eq
  unfold isWhole at hx
  unfold units magnitude truncate
  generalize max 1 x.exponentField - 1 = e at hexp ⊢
  cases hscale : x.scale with
  | ofNat k =>
    obtain rfl : e = k + 1074 := by
      rw [hscale, Int.ofNat_eq_natCast] at hexp
      omega
    show _ = x.withSign (x.significand <<< k) * _
    rw [Nat.shiftLeft_eq, pow_add, ← mul_assoc, withSign_mul, Nat.cast_pow, Nat.cast_ofNat]
  | negSucc k =>
    rw [hscale] at hx hexp
    have hsplit : 1074 = k + 1 + e := by omega
    have hwhole : x.significand = x.significand >>> (k + 1) * 2 ^ (k + 1) := by
      rw [beq_iff_eq, Nat.one_shiftLeft] at hx
      rw [Nat.shiftRight_eq_div_pow, Nat.div_mul_cancel (Nat.dvd_of_mod_eq_zero hx)]
    calc x.withSign (x.significand * 2 ^ e)
        = x.withSign (x.significand >>> (k + 1) * 2 ^ (k + 1) * 2 ^ e) := by rw [← hwhole]
      _ = x.withSign (x.significand >>> (k + 1) * 2 ^ (k + 1 + e)) := by rw [mul_assoc, ← pow_add]
      _ = x.withSign (x.significand >>> (k + 1)) * 2 ^ 1074 := by
        rw [← hsplit, withSign_mul, Nat.cast_pow, Nat.cast_ofNat]

theorem isWhole_of_units (hn : x.units = n * 2 ^ 1074) : x.isWhole = true := by
  have hexp := x.scale_eq
  have htwo : (2 : Int).natAbs = 2 := rfl
  have hmag := x.natAbs_units
  rw [hn, Int.natAbs_mul, Int.natAbs_pow, htwo] at hmag
  unfold magnitude at hmag
  unfold isWhole
  generalize max 1 x.exponentField - 1 = e at hexp hmag
  cases hscale : x.scale with
  | ofNat k => rfl
  | negSucc k =>
    have hsplit : 1074 = k + 1 + e := by omega
    have hsig : x.significand = n.natAbs * 2 ^ (k + 1) := by
      rw [hsplit, pow_add, ← mul_assoc] at hmag
      exact Nat.eq_of_mul_eq_mul_right (Nat.two_pow_pos e) hmag.symm
    rw [beq_iff_eq, Nat.one_shiftLeft, hsig]
    exact Nat.mul_mod_left _ _

/-- The integer of a double is the one that is its value. -/
theorem toInt?_eq_some_iff : x.toInt? = some n ↔ x.isFinite = true ∧ x.value = n := by
  rw [value_eq_intCast]
  unfold toInt?
  constructor
  · intro h
    split at h
    · rename_i hx
      cases h
      rw [Bool.and_eq_true] at hx
      exact ⟨hx.1, units_of_isWhole hx.2⟩
    · cases h
  · rintro ⟨hfin, hn⟩
    have hwhole := isWhole_of_units hn
    have htrunc : x.truncate = n :=
      mul_right_cancel₀ (pow_ne_zero 1074 two_ne_zero) ((units_of_isWhole hwhole).symm.trans hn)
    rw [hfin, hwhole, htrunc]
    rfl

/-! ### Doubles of integers -/

theorem bits_negated (hx : x.isNegative = false) :
    x.negated.bits.toNat = 0x8000000000000000 + x.bits.toNat := by
  unfold isNegative at hx
  have hlt : x.bits.toNat < 0x8000000000000000 := Nat.lt_of_not_le (of_decide_eq_false hx)
  have hfits : x.bits.toNat % 0x8000000000000000 + 0x8000000000000000 < UInt64.size := by
    show _ < 0x10000000000000000
    omega
  show (UInt64.ofNat _).toNat = _
  rw [UInt64.toNat_ofNat_of_lt' hfits]
  omega

/-- Only the sign of a double changes when it is negated. -/
theorem fields_negated (hx : x.isNegative = false) :
    x.negated.isNegative = true ∧ x.negated.exponentField = x.exponentField ∧
      x.negated.fraction = x.fraction := by
  have hbits := bits_negated hx
  unfold isNegative exponentField fraction
  rw [hbits, Nat.shiftRight_eq_div_pow, Nat.shiftRight_eq_div_pow, decide_eq_true_iff]
  show _ ∧ _ / 0x10000000000000 % 2048 = x.bits.toNat / 0x10000000000000 % 2048 ∧ _
  omega

theorem isFinite_negated (hx : x.isNegative = false) : x.negated.isFinite = x.isFinite := by
  unfold isFinite
  rw [(fields_negated hx).2.1]

theorem units_negated (hx : x.isNegative = false) : x.negated.units = -x.units := by
  obtain ⟨hsign, hexp, hfrac⟩ := fields_negated hx
  have hmag : x.negated.magnitude = x.magnitude := magnitude_inj.mpr ⟨hexp, hfrac⟩
  unfold units withSign
  rw [hmag, hsign, hx, if_pos rfl, if_neg Bool.false_ne_true]

theorem isWhole_ofNat {n : Nat} (hlt : n < 0x20000000000000) : (ofNat n).isWhole = true := by
  by_cases hn : n = 0
  · rw [hn]
    rfl
  · have hlog := (leadingBits_of_lt hn hlt).1
    have hscale := scale_ofNat hn hlt
    unfold isWhole
    rw [significand_ofNat hn hlt]
    split
    · rfl
    · rename_i k hk
      have hk0 : 52 - n.log2 = k + 1 := by
        rw [hk] at hscale
        omega
      rw [hk0, beq_iff_eq, Nat.one_shiftLeft, Nat.shiftLeft_eq]
      exact Nat.mul_mod_left _ _

theorem units_ofNat {n : Nat} (hlt : n < 0x20000000000000) : (ofNat n).units = n * 2 ^ 1074 := by
  rw [units_of_isWhole (isWhole_ofNat hlt), truncate_ofNat hlt]

/-- An integer of at most 53 bits is the value of its double. -/
theorem value_ofInt (hlt : n.natAbs < 0x20000000000000) :
    (ofInt n).isFinite = true ∧ (ofInt n).value = n := by
  rw [value_eq_intCast]
  cases n with
  | ofNat n => exact ⟨isFinite_ofNat hlt, units_ofNat hlt⟩
  | negSucc n =>
    have hlt : n + 1 < 0x20000000000000 := hlt
    have hpos := isNegative_ofNat hlt
    show (ofNat (n + 1)).negated.isFinite = true ∧ (ofNat (n + 1)).negated.units = _
    rw [isFinite_negated hpos, units_negated hpos, units_ofNat hlt, Int.negSucc_eq, Int.neg_mul]
    exact ⟨isFinite_ofNat hlt, rfl⟩

end Binary64
end Invocation
