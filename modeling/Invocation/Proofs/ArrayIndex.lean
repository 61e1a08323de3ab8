/-
# Array indices are decimal forms

A number has one decimal form (`Numeral`): digits only, at least one, and no zero in front
unless it is all there is. It is the text that the number is written as
(`numeral_iff_toString`), by one fact about digits: appending a digit to the decimal form of a
number that is not zero gives the decimal form of ten times the number and the digit.

A name is an array index exactly if it is the decimal form of a number up to the largest
position. Reading a name as a number accepts more than that (`readUInt32?_eq_some_iff`): every
decimal form of a number of 32 bits with zeros in front and a plus sign before those. Of the
names that read as one number, only the one that it is written as is left.

Key definition: `Numeral`.
Key theorems: `readUInt32?_eq_some_iff`, `numeral_iff_toString`, `arrayIndex?_eq_some_iff`,
`arrayIndex?_toString`.
-/
import Invocation.ArrayIndex

namespace Invocation

variable {c : Char} {cs : List Char} {name s : String} {i n : Nat} {m : UInt32}

/-- A list of characters is the decimal form of a number. -/
structure Numeral (cs : List Char) (n : Nat) : Prop where
  nonempty : cs ≠ []
  digits : cs.all Char.isDigit = true
  noLeadingZero : ∀ rest, cs = '0' :: rest → rest = []
  value : Nat.ofDigitChars 10 cs 0 = n

@[simp] theorem digitsValue_nil (n : Nat) : digitsValue n [] = n := rfl

@[simp] theorem digitsValue_cons (n : Nat) (c : Char) (cs : List Char) :
    digitsValue n (c :: cs) = digitsValue (10 * n + digitValue c) cs := by rfl

theorem digitsValue_eq (cs : List Char) :
    ∀ n : Nat, digitsValue n cs = Nat.ofDigitChars 10 cs n := by
  induction cs with
  | nil => exact fun n => Nat.ofDigitChars_nil.symm
  | cons c cs ih =>
    intro n
    rw [digitsValue_cons, ih, Nat.ofDigitChars_cons, digitValue]

/-- More digits never write a smaller number. -/
theorem le_digitsValue (cs : List Char) : ∀ n : Nat, n ≤ digitsValue n cs := by
  induction cs with
  | nil => exact fun n => Nat.le_refl n
  | cons c cs ih =>
    intro n
    have hnext := ih (10 * n + digitValue c)
    rw [digitsValue_cons]
    omega

/-! ### Digits -/

theorem digitValue_lt (hc : c.isDigit = true) : digitValue c < 10 := by
  have hrange : 48 ≤ c.toNat ∧ c.toNat ≤ 57 := Char.isDigit_iff_toNat.mp hc
  show c.toNat - 48 < 10
  omega

/-- A digit is the one that writes its value. -/
theorem digitChar_digitValue (hc : c.isDigit = true) : Nat.digitChar (digitValue c) = c := by
  have hrange : 48 ≤ c.toNat ∧ c.toNat ≤ 57 := Char.isDigit_iff_toNat.mp hc
  apply Char.toNat_inj.mp
  rw [Nat.toNat_digitChar_of_lt_ten (digitValue_lt hc)]
  show 48 + (c.toNat - 48) = c.toNat
  omega

/-- Digits after a number that is not zero continue its decimal form. -/
theorem toDigits_append : ∀ {n : Nat}, 0 < n → cs.all Char.isDigit = true →
    Nat.toDigits 10 (digitsValue n cs) = Nat.toDigits 10 n ++ cs := by
  induction cs with
  | nil => intro n _ _; rw [digitsValue_nil, List.append_nil]
  | cons c cs ih =>
    intro n hn hcs
    obtain ⟨hc, hcs⟩ : c.isDigit = true ∧ cs.all Char.isDigit = true := by
      simpa only [List.all_cons, Bool.and_eq_true] using hcs
    have hstep : Nat.toDigits 10 (10 * n + digitValue c) = Nat.toDigits 10 n ++ [c] := by
      rw [← Nat.toDigits_append_toDigits (by decide) hn (digitValue_lt hc),
        Nat.toDigits_of_lt_base (digitValue_lt hc), digitChar_digitValue hc]
    rw [digitsValue_cons, ih (by omega) hcs, hstep, List.append_assoc, List.singleton_append]

/-! ### Decimal forms -/

/-- A number is written as its decimal form. -/
theorem Numeral.toDigits_eq (h : Numeral cs n) : Nat.toDigits 10 n = cs := by
  obtain ⟨hne, hdigits, hzero, rfl⟩ := h
  rw [← digitsValue_eq]
  cases cs with
  | nil => exact absurd rfl hne
  | cons c cs =>
    by_cases hc : c = '0'
    · subst hc
      rw [hzero cs rfl]
      exact Nat.toDigits_zero 10
    · rw [List.all_cons, Bool.and_eq_true] at hdigits
      have hpos : 0 < digitValue c := by
        refine Nat.pos_of_ne_zero fun hvalue => hc ?_
        rw [← digitChar_digitValue hdigits.1, hvalue]
        rfl
      rw [digitsValue_cons, Nat.mul_zero, Nat.zero_add, toDigits_append hpos hdigits.2,
        Nat.toDigits_of_lt_base (digitValue_lt hdigits.1), digitChar_digitValue hdigits.1,
        List.singleton_append]

/-- What a number is written as begins with a zero only if the number is zero. -/
theorem head_toDigits (n : Nat) (h : (Nat.toDigits 10 n).head? = some '0') : n = 0 := by
  rcases Nat.lt_or_ge n 10 with hlow | hhigh
  · rw [Nat.toDigits_of_lt_base hlow, List.head?_cons, Option.some.injEq] at h
    exact Nat.digitChar_eq_zero.mp h
  · rw [Nat.toDigits_of_base_le (by decide) hhigh, List.head?_append,
      List.head?_eq_some_head Nat.toDigits_ne_nil, Option.some_or,
      ← List.head?_eq_some_head] at h
    have hzero := head_toDigits (n / 10) h
    omega
termination_by n

theorem numeral_toDigits (n : Nat) : Numeral (Nat.toDigits 10 n) n where
  nonempty := Nat.toDigits_ne_nil
  digits := List.all_eq_true.mpr fun _ hc =>
    Nat.isDigit_of_mem_toDigits (by decide) (by decide) hc
  noLeadingZero rest hrest := by
    have hzero : n = 0 := head_toDigits n (by rw [hrest, List.head?_cons])
    rw [hzero, Nat.toDigits_zero, List.cons.injEq] at hrest
    exact hrest.2.symm
  value := Nat.ofDigitChars_ten_toDigits

theorem toList_toString (n : Nat) : (toString n).toList = Nat.toDigits 10 n := by
  rw [Nat.toString_eq_repr, Nat.toList_repr]

/-- The decimal form of a number is the text that it is written as. -/
theorem numeral_iff_toString : Numeral s.toList n ↔ s = toString n := by
  constructor
  · intro h
    exact String.toList_injective (h.toDigits_eq.symm.trans (toList_toString n).symm)
  · rintro rfl
    rw [toList_toString]
    exact numeral_toDigits n

/-! ### Reading -/

/-- Digits are read in full if they write a number of 32 bits, and nothing else is read. -/
theorem readDigits?_eq_some_iff : ∀ {cs : List Char} {k : UInt32},
    readDigits? k cs = some m ↔ cs.all Char.isDigit = true ∧ digitsValue k.toNat cs = m.toNat
  | [], k => by simp [readDigits?, UInt32.toNat_inj]
  | c :: cs, k => by
    have hle := le_digitsValue cs (10 * k.toNat + digitValue c)
    have hm := m.toNat_lt
    rw [readDigits?, digitsValue_cons, List.all_cons]
    by_cases hc : c.isDigit = true
    · by_cases hnext : 10 * k.toNat + digitValue c < UInt32.size
      · have hvalue : (10 * k.toNat + digitValue c).toUInt32.toNat = 10 * k.toNat + digitValue c :=
          UInt32.toNat_ofNat_of_lt' hnext
        simp only [hc, hnext, decide_true, Bool.and_self, Bool.true_and, ↓reduceIte,
          readDigits?_eq_some_iff, hvalue]
      · -- the number only grows from here, so it does not come back below 32 bits
        have hsize : UInt32.size = 2 ^ 32 := rfl
        simp only [hnext, decide_false, Bool.and_false, Bool.false_eq_true, ↓reduceIte,
          reduceCtorEq, false_iff, not_and]
        omega
    · simp [hc]

/-- The texts that are read as a number of 32 bits: its digits, with any zeros and then a plus sign
in front. -/
theorem readUInt32?_eq_some_iff : readUInt32? s = some m ↔
    ∃ cs, (s.toList = cs ∨ s.toList = '+' :: cs) ∧ cs ≠ [] ∧ cs.all Char.isDigit = true ∧
      Nat.ofDigitChars 10 cs 0 = m.toNat := by
  have hread : ∀ cs, readDigits? 0 cs = some m ↔
      cs.all Char.isDigit = true ∧ Nat.ofDigitChars 10 cs 0 = m.toNat := fun cs => by
    rw [readDigits?_eq_some_iff, digitsValue_eq, UInt32.toNat_zero]
  have hplus : ∀ cs, ('+' :: cs).all Char.isDigit ≠ true := fun cs => by
    rw [List.all_cons]
    exact nofun
  -- nothing, a plus sign alone, a plus sign and more, and anything else
  unfold readUInt32?
  split
  · rename_i hs
    rw [hs]
    constructor
    · exact nofun
    · rintro ⟨cs, rfl | hcs, hne, -⟩
      · exact absurd rfl hne
      · cases hcs
  · rename_i hs
    rw [hs]
    constructor
    · exact nofun
    · rintro ⟨cs, rfl | hcs, hne, hdigits, -⟩
      · exact absurd hdigits (hplus [])
      · cases hcs
        exact absurd rfl hne
  · rename_i cs hlone hs
    rw [hs, hread]
    constructor
    · exact fun h => ⟨cs, Or.inr rfl, fun hcs => hlone (by rw [hcs]), h⟩
    · rintro ⟨cs', rfl | hcs, -, hdigits, hvalue⟩
      · exact absurd hdigits (hplus cs)
      · cases hcs
        exact ⟨hdigits, hvalue⟩
  · rename_i hempty hlone hsign
    rw [hread]
    constructor
    · exact fun h => ⟨s.toList, Or.inl rfl, hempty, h⟩
    · rintro ⟨cs, rfl | hcs, -, h⟩
      · exact h
      · exact absurd hcs (hsign cs)

/-! ### Indices -/

/-- A number of 32 bits is read off what it is written as. -/
theorem readUInt32?_toString (m : UInt32) : readUInt32? (toString m) = some m := by
  have hdigits : (toString m).toList = Nat.toDigits 10 m.toNat := toList_toString m.toNat
  have hform := numeral_toDigits m.toNat
  exact readUInt32?_eq_some_iff.mpr
    ⟨_, Or.inl hdigits, hform.nonempty, hform.digits, hform.value⟩

/-- The array indices are the decimal forms of the numbers up to the largest position. -/
theorem arrayIndex?_eq_some_iff :
    arrayIndex? name = some i ↔ i ≤ maxArrayIndex ∧ name = toString i := by
  unfold arrayIndex?
  rw [Option.bind_eq_some_iff]
  constructor
  · rintro ⟨index, -, hindex⟩
    split at hindex
    · cases hindex
    · rename_i hcheck
      cases hindex
      simp only [Bool.or_eq_true, decide_eq_true_eq, bne_iff_ne, ne_eq, not_or, Nat.not_lt,
        Decidable.not_not] at hcheck
      exact ⟨hcheck.1, hcheck.2.symm⟩
  · rintro ⟨hi, rfl⟩
    have hvalue : i.toUInt32.toNat = i :=
      UInt32.toNat_ofNat_of_lt' (Nat.lt_of_le_of_lt hi (by decide))
    have hwritten : toString i.toUInt32 = toString i := congrArg toString hvalue
    refine ⟨i.toUInt32, hwritten ▸ readUInt32?_toString i.toUInt32, ?_⟩
    rw [hvalue, hwritten, if_neg (by simpa using hi)]

theorem arrayIndex?_toString (hi : i ≤ maxArrayIndex) : arrayIndex? (toString i) = some i :=
  arrayIndex?_eq_some_iff.mpr ⟨hi, rfl⟩

end Invocation
