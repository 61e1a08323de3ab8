/-
# Naturals as double-precision numbers

A natural of at most 53 bits is a double as it is: its leading bits are all of its bits, so
nothing is rounded when it becomes a double, and nothing is cut off when the double becomes
an integer again (`truncate_ofNat`). The way there is by the fields of the double, each of
which has one lemma: the bits, the exponent field, the significand, the scale, the sign.

Key theorems: `Binary64.leadingBits_of_lt`, `Binary64.isFinite_ofNat`,
`Binary64.truncate_ofNat`.
-/
import Invocation.Number.Binary64

namespace Invocation
namespace Binary64

variable {n : Nat}

/-! ### The fields of a whole number -/

/-- The leading bits of a natural that has at most 53 are the natural, shifted to the top. -/
theorem leadingBits_of_lt (hn : n ≠ 0) (hlt : n < 0x20000000000000) :
    n.log2 ≤ 52 ∧ leadingBits n = n <<< (52 - n.log2) ∧
      0x10000000000000 ≤ leadingBits n ∧ leadingBits n < 0x20000000000000 := by
  have hlog : n.log2 < 53 := (Nat.log2_lt hn).mpr hlt
  have hle : n.log2 ≤ 52 := Nat.le_of_lt_succ hlog
  have hbits : leadingBits n = n <<< (52 - n.log2) := by
    unfold leadingBits
    rw [if_pos hle]
  refine ⟨hle, hbits, ?_, ?_⟩
  · have hself := Nat.log2_self_le hn
    have hsum : n.log2 + (52 - n.log2) = 52 := Nat.add_sub_cancel' hle
    rw [hbits, Nat.shiftLeft_eq]
    calc 0x10000000000000 = Nat.pow 2 (n.log2 + (52 - n.log2)) := by rw [hsum]
      _ = Nat.pow 2 n.log2 * Nat.pow 2 (52 - n.log2) := Nat.pow_add 2 n.log2 (52 - n.log2)
      _ ≤ n * Nat.pow 2 (52 - n.log2) := Nat.mul_le_mul_right _ hself
  · have hself := Nat.lt_log2_self (n := n)
    have hsum : n.log2 + 1 + (52 - n.log2) = 53 := by omega
    rw [hbits, Nat.shiftLeft_eq]
    calc n * Nat.pow 2 (52 - n.log2)
        < Nat.pow 2 (n.log2 + 1) * Nat.pow 2 (52 - n.log2) :=
          Nat.mul_lt_mul_of_pos_right hself (Nat.two_pow_pos _)
      _ = Nat.pow 2 (n.log2 + 1 + (52 - n.log2)) :=
          (Nat.pow_add 2 (n.log2 + 1) (52 - n.log2)).symm
      _ = 0x20000000000000 := by rw [hsum]

/-- The bit above the fraction carries into the exponent field, so that nothing of the leading bits
is lost. -/
theorem bits_ofNat (hn : n ≠ 0) (hlt : n < 0x20000000000000) :
    (ofNat n).bits.toNat = (1022 + n.log2) * 0x10000000000000 + leadingBits n := by
  obtain ⟨hlog, -, hlow, hhigh⟩ := leadingBits_of_lt hn hlt
  have hmin : min (2047 <<< 52) ((1022 + n.log2) <<< 52 + leadingBits n) =
      (1022 + n.log2) * 0x10000000000000 + leadingBits n := by
    simp only [Nat.shiftLeft_eq]
    omega
  have hfits : (1022 + n.log2) * 0x10000000000000 + leadingBits n < UInt64.size := by
    show _ < 0x10000000000000000
    omega
  unfold ofNat
  rw [if_neg hn, hmin]
  exact UInt64.toNat_ofNat_of_lt' hfits

theorem exponentField_ofNat (hn : n ≠ 0) (hlt : n < 0x20000000000000) :
    (ofNat n).exponentField = 1023 + n.log2 := by
  obtain ⟨hlog, -, hlow, hhigh⟩ := leadingBits_of_lt hn hlt
  unfold exponentField
  rw [bits_ofNat hn hlt, Nat.shiftRight_eq_div_pow]
  show _ / 0x10000000000000 % 2048 = _
  omega

theorem significand_ofNat (hn : n ≠ 0) (hlt : n < 0x20000000000000) :
    (ofNat n).significand = n <<< (52 - n.log2) := by
  obtain ⟨hlog, hbits, hlow, hhigh⟩ := leadingBits_of_lt hn hlt
  have hexp : (ofNat n).exponentField ≠ 0 := by
    rw [exponentField_ofNat hn hlt]
    omega
  unfold significand fraction
  rw [if_neg hexp, bits_ofNat hn hlt, ← hbits]
  omega

theorem scale_ofNat (hn : n ≠ 0) (hlt : n < 0x20000000000000) :
    (ofNat n).scale = n.log2 - 52 := by
  unfold scale
  rw [exponentField_ofNat hn hlt]
  omega

theorem isNegative_ofNat (hlt : n < 0x20000000000000) : (ofNat n).isNegative = false := by
  by_cases hn : n = 0
  · rw [hn]
    rfl
  · obtain ⟨hlog, -, -, hhigh⟩ := leadingBits_of_lt hn hlt
    unfold isNegative
    rw [bits_ofNat hn hlt, decide_eq_false_iff_not]
    omega

/-! ### The number -/

theorem isFinite_ofNat (hlt : n < 0x20000000000000) : (ofNat n).isFinite = true := by
  by_cases hn : n = 0
  · rw [hn]
    rfl
  · obtain ⟨hlog, -, -, -⟩ := leadingBits_of_lt hn hlt
    unfold isFinite
    rw [exponentField_ofNat hn hlt, bne_iff_ne]
    omega

/-- A natural of at most 53 bits is a double as it is. -/
theorem truncate_ofNat (hlt : n < 0x20000000000000) : (ofNat n).truncate = n := by
  by_cases hn : n = 0
  · rw [hn]
    rfl
  · obtain ⟨hlog, -, -, -⟩ := leadingBits_of_lt hn hlt
    have hscale := scale_ofNat hn hlt
    unfold truncate withSign
    rw [significand_ofNat hn hlt, isNegative_ofNat hlt]
    -- the scale is what the shift to the top was, so it takes the shift back
    split
    · rename_i k hk
      have hk0 : k = 0 ∧ 52 - n.log2 = 0 := by
        rw [hk, Int.ofNat_eq_natCast] at hscale
        omega
      rw [hk0.1, hk0.2]
      rfl
    · rename_i k hk
      have hk0 : 52 - n.log2 = k + 1 := by
        rw [hk] at hscale
        omega
      rw [hk0, Nat.shiftLeft_shiftRight]
      rfl

end Binary64
end Invocation
