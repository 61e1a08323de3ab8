/-
# Lengths of ropes that share parts

A rope may be joined with itself, and then takes no more room than any other join, so the
length of a rope can double with each call and is bounded by no memory. It is kept in a word
of 64 bits. `Construction n` is a sequence of calls that makes `n` ropes, flat ones and joins of
those made before, each under a threshold of its own and each rope taken as often as one likes.

A sequence is made in full exactly if no sum of two lengths leaves the word
(`Construction.Fits`) and no text is made that has no room (`Construction.TextsFit`); the first
call that breaks this panics (`Construction.make_cases`). Then every length is the number of bytes
at the leaves. Sums leave the word as soon as some string of the sequence has `2 ^ 64` bytes.

Where sums are not checked and the word that is left is taken (`Construction.ropes`), a length is
the number of bytes at the leaves up to multiples of the word size (`Modular`). A rope of exactly
that many bytes then counts as empty, so it is lost when it is joined with another
(`doublings_overflow`).

Key definitions: `Rope.Modular`, `Rope.Construction`, `Rope.Construction.make`,
`Rope.Construction.Fits`.
Key theorems: `Rope.Joined.modular`, `Rope.Construction.make_cases`,
`Rope.Construction.fits_iff`, `Rope.Construction.lengths_exact_iff`.
-/
import Mathlib.Algebra.Ring.Nat
import Invocation.Proofs.Text.Nesting

namespace Invocation
namespace Rope

variable {a b r r' : Rope} {s t : String} {lazyFrom : Nat}

/-! ### Lengths up to the word size -/

/-- Every length in the rope is the number of bytes at the leaves below it, up to multiples of the
word size. -/
def Modular : Rope → Prop
  | .flat _ => True
  | .lazy l r n _ => l.Modular ∧ r.Modular ∧
      n.toNat = (l.content.utf8ByteSize + r.content.utf8ByteSize) % UInt64.size

theorem length_modular : ∀ {r : Rope}, r.Modular →
    r.length.toNat = r.content.utf8ByteSize % UInt64.size
  | .flat s, _ => by
    rw [content_flat]
    exact UInt64.toNat_ofNat'
  | .lazy l r n _, h => by
    rw [content_lazy, String.utf8ByteSize_append]
    exact h.2.2

theorem isEmpty_modular (h : r.Modular) :
    r.isEmpty = true ↔ UInt64.size ∣ r.content.utf8ByteSize := by
  rw [isEmpty, beq_iff_eq, ← UInt64.toNat_inj, length_modular h, Nat.dvd_iff_mod_eq_zero]
  exact Iff.rfl

/-- The sum of two lengths is taken in a word, so it is right up to multiples of the word
size too. -/
theorem modular_concat (ha : a.Modular) (hb : b.Modular) : (concat lazyFrom a b).Modular := by
  obtain ⟨-, h⟩ | ⟨-, -, h⟩ | ⟨-, -, -, h⟩ | ⟨-, -, -, h⟩ := concat_cases lazyFrom a b
  · rwa [h]
  · rwa [h]
  · rw [h]
    trivial
  · rw [h]
    refine ⟨ha, hb, ?_⟩
    rw [UInt64.toNat_add, length_modular ha, length_modular hb]
    exact (Nat.add_mod _ _ _).symm

theorem Reads.modular (h : Reads r r') : r.Modular → r'.Modular := by
  induction h with
  | here r =>
    intro hm
    cases r <;> exact hm
  | left r n kept h ih =>
    rintro ⟨hl, hr, hn⟩
    exact ⟨ih hl, hr, by rw [h.content, hn]⟩
  | right l n kept h ih =>
    rintro ⟨hl, hr, hn⟩
    exact ⟨hl, ih hr, by rw [h.content, hn]⟩

theorem Joined.modular (h : Joined r) : r.Modular := by
  induction h with
  | flat s => trivial
  | concat lazyFrom _ _ iha ihb => exact modular_concat iha ihb
  | read _ hread ih => exact hread.modular ih

/-! ### Leaves -/

theorem utf8ByteSize_content : ∀ r : Rope,
    r.content.utf8ByteSize = (r.leaves.map String.utf8ByteSize).sum
  | .flat s => by rw [content_flat, leaves, List.map_singleton, List.sum_singleton]
  | .lazy l r _ _ => by
    rw [content_lazy, String.utf8ByteSize_append, utf8ByteSize_content l, utf8ByteSize_content r,
      leaves, List.map_append, List.sum_append]

theorem content_ne_empty_iff : ∀ {r : Rope}, r.content ≠ "" ↔ ∃ s ∈ r.leaves, s ≠ ""
  | .flat s => by simp [leaves]
  | .lazy l r _ _ => by
    have hparts : l.content ++ r.content ≠ "" ↔ l.content ≠ "" ∨ r.content ≠ "" := by
      rw [ne_eq, String.append_eq_empty_iff, Decidable.not_and_iff_not_or_not]
    rw [content_lazy, hparts, content_ne_empty_iff, content_ne_empty_iff, leaves]
    simp only [List.mem_append, or_and_right, exists_or]

theorem isEmpty_eq_false (h : r.Exact) (hleaf : ∃ s ∈ r.leaves, s ≠ "") : r.isEmpty = false :=
  Bool.eq_false_iff.mpr fun hempty => content_ne_empty_iff.mpr hleaf ((isEmpty_iff h).mp hempty)

/-! ### Sums of lengths -/

theorem sumFits_iff (ha : a.Exact) (hb : b.Exact) :
    SumFits a b ↔ a.content.utf8ByteSize + b.content.utf8ByteSize < UInt64.size := by
  rw [← length_toNat ha, ← length_toNat hb]
  have hzero : ∀ r : Rope, r.isEmpty = true → r.length.toNat = 0 := fun r hr =>
    congrArg UInt64.toNat (eq_of_beq hr)
  constructor
  · intro h
    cases hae : a.isEmpty with
    | true =>
      rw [hzero a hae, Nat.zero_add]
      exact b.length.toNat_lt_size
    | false =>
      cases hbe : b.isEmpty with
      | true =>
        rw [hzero b hbe, Nat.add_zero]
        exact a.length.toNat_lt_size
      | false => exact h hae hbe
  · exact fun h _ _ => h

/-! ### Constructions -/

/-- A sequence of calls that makes `n` ropes, where `0` is the latest: a flat rope, whose text has
room, or the join of two ropes made before. -/
inductive Construction : Nat → Type where
  | none : Construction 0
  | flat {n : Nat} (before : Construction n) (s : String)
      (hs : s.utf8ByteSize < Checked.capacity) : Construction (n + 1)
  | concat {n : Nat} (before : Construction n) (lazyFrom : Nat) (left right : Fin n) :
      Construction (n + 1)

namespace Construction

variable {n : Nat}

/-- Makes the ropes, call by call. -/
def make : {n : Nat} → Construction n → Except Fault (Fin n → Rope)
  | _, .none => .ok fun i => i.elim0
  | _, .flat before s _ =>
    match before.make with
    | .error e => .error e
    | .ok ropes => .ok fun i => i.cases (.flat s) ropes
  | _, .concat before lazyFrom left right =>
    match before.make with
    | .error e => .error e
    | .ok ropes =>
      match checkedConcat lazyFrom (ropes left) (ropes right) with
      | .error e => .error e
      | .ok joined => .ok fun i => i.cases joined ropes

/-- The ropes that are made where no sum is checked. -/
def ropes : {n : Nat} → Construction n → Fin n → Rope
  | _, .none, i => i.elim0
  | _, .flat before s _, i => i.cases (.flat s) before.ropes
  | _, .concat before lazyFrom left right, i =>
    i.cases (Rope.concat lazyFrom (before.ropes left) (before.ropes right)) before.ropes

/-- The strings that the ropes are to stand for. -/
def texts : {n : Nat} → Construction n → Fin n → String
  | _, .none, i => i.elim0
  | _, .flat before s _, i => i.cases s before.texts
  | _, .concat before _ left right, i =>
    i.cases (before.texts left ++ before.texts right) before.texts

/-- No sum of lengths that is computed leaves the word. -/
def Fits : {n : Nat} → Construction n → Prop
  | _, .none => True
  | _, .flat before _ _ => before.Fits
  | _, .concat before _ left right =>
    before.Fits ∧ SumFits (before.ropes left) (before.ropes right)

/-- Every text that a join makes has room. -/
def TextsFit : {n : Nat} → Construction n → Prop
  | _, .none => True
  | _, .flat before _ _ => before.TextsFit
  | _, .concat before lazyFrom left right =>
    before.TextsFit ∧ TextFits lazyFrom (before.ropes left) (before.ropes right)

def joins : {n : Nat} → Construction n → Nat
  | _, .none => 0
  | _, .flat before _ _ => before.joins
  | _, .concat before _ _ _ => before.joins + 1

/-- The number of bytes of the longest flat rope. -/
def longest : {n : Nat} → Construction n → Nat
  | _, .none => 0
  | _, .flat before s _ => max before.longest s.utf8ByteSize
  | _, .concat before _ _ _ => before.longest

theorem joined (c : Construction n) (i : Fin n) : Joined (c.ropes i) := by
  induction c with
  | none => exact i.elim0
  | flat before s hs ih =>
    cases i using Fin.cases with
    | zero => exact .flat s
    | succ i => exact ih i
  | concat before lazyFrom left right ih =>
    cases i using Fin.cases with
    | zero => exact .concat lazyFrom (ih left) (ih right)
    | succ i => exact ih i

/-- Either everything fits and all ropes are made, or the first call that breaks this panics. -/
theorem make_cases (c : Construction n) :
    (c.Fits ∧ c.TextsFit ∧ c.make = .ok c.ropes) ∨
    (¬ c.Fits ∧ c.make = .error (.panic .addition)) ∨
    (¬ c.TextsFit ∧ c.make = .error (.panic .capacity)) := by
  induction c with
  | none => exact .inl ⟨trivial, trivial, rfl⟩
  | flat before s hs ih =>
    obtain ⟨hfits, htexts, h⟩ | ⟨hfits, h⟩ | ⟨htexts, h⟩ := ih
    · refine .inl ⟨hfits, htexts, ?_⟩
      rw [make, h]
      rfl
    · exact .inr (.inl ⟨hfits, by rw [make, h]⟩)
    · exact .inr (.inr ⟨htexts, by rw [make, h]⟩)
  | concat before lazyFrom left right ih =>
    obtain ⟨hfits, htexts, h⟩ | ⟨hfits, h⟩ | ⟨htexts, h⟩ := ih
    · obtain ⟨hsum, hjoin⟩ | ⟨-, htext, hjoin⟩ | ⟨hsum, htext, hjoin⟩ :=
        checkedConcat_cases lazyFrom (before.ropes left) (before.ropes right)
      · exact .inr (.inl ⟨fun hc => hsum hc.2, by rw [make, h]; simp only [hjoin]⟩)
      · exact .inr (.inr ⟨fun hc => htext hc.2, by rw [make, h]; simp only [hjoin]⟩)
      · refine .inl ⟨⟨hfits, hsum⟩, ⟨htexts, htext⟩, ?_⟩
        rw [make, h]
        simp only [hjoin]
        rfl
    · exact .inr (.inl ⟨fun hc => hfits hc.1, by rw [make, h]⟩)
    · exact .inr (.inr ⟨fun hc => htexts hc.1, by rw [make, h]⟩)

theorem built_ropes {c : Construction n} (hfits : c.Fits) (htexts : c.TextsFit) (i : Fin n) :
    Built (c.ropes i) (c.texts i) := by
  induction c with
  | none => exact i.elim0
  | flat before s hs ih =>
    cases i using Fin.cases with
    | zero => exact .flat hs
    | succ i => exact ih hfits htexts i
  | concat before lazyFrom left right ih =>
    cases i using Fin.cases with
    | zero =>
      exact .concat lazyFrom (ih hfits.1 htexts.1 left) (ih hfits.1 htexts.1 right)
        (checkedConcat_of_fits hfits.2 htexts.2)
    | succ i => exact ih hfits.1 htexts.1 i

theorem Fits.exact_content {c : Construction n} (h : c.Fits) (i : Fin n) :
    (c.ropes i).Exact ∧ (c.ropes i).content = c.texts i := by
  induction c with
  | none => exact i.elim0
  | flat before s hs ih =>
    cases i using Fin.cases with
    | zero => exact ⟨Nat.lt_trans hs (by decide), content_flat s⟩
    | succ i => exact ih h i
  | concat before lazyFrom left right ih =>
    cases i using Fin.cases with
    | zero =>
      obtain ⟨hl, hleft⟩ := ih h.1 left
      obtain ⟨hr, hright⟩ := ih h.1 right
      have hfl := (before.joined left).faithful
      have hfr := (before.joined right).faithful
      refine ⟨exact_concat hl hr hfl hfr h.2, (content_concat hl hr hfl hfr).trans ?_⟩
      rw [hleft, hright]
      rfl
    | succ i => exact ih h.1 i

theorem fits_iff (c : Construction n) :
    c.Fits ↔ ∀ i, (c.texts i).utf8ByteSize < UInt64.size := by
  induction c with
  | none => exact iff_of_true trivial fun i => i.elim0
  | flat before s hs ih =>
    rw [Fin.forall_fin_succ]
    exact ⟨fun h => ⟨Nat.lt_trans hs (by decide), ih.mp h⟩, fun h => ih.mpr h.2⟩
  | concat before lazyFrom left right ih =>
    have hsum : before.Fits → (SumFits (before.ropes left) (before.ropes right) ↔
        (before.texts left ++ before.texts right).utf8ByteSize < UInt64.size) := fun h => by
      obtain ⟨hl, hleft⟩ := h.exact_content left
      obtain ⟨hr, hright⟩ := h.exact_content right
      rw [sumFits_iff hl hr, hleft, hright, String.utf8ByteSize_append]
    rw [Fin.forall_fin_succ]
    constructor
    · exact fun h => ⟨(hsum h.1).mp h.2, ih.mp h.1⟩
    · exact fun h => ⟨ih.mpr h.2, (hsum (ih.mpr h.2)).mpr h.1⟩

theorem content_eq {c : Construction n} (h : ∀ i, (c.ropes i).Exact) (i : Fin n) :
    (c.ropes i).content = c.texts i := by
  induction c with
  | none => exact i.elim0
  | flat before s hs ih =>
    cases i using Fin.cases with
    | zero => exact content_flat s
    | succ i => exact ih (fun j => h j.succ) i
  | concat before lazyFrom left right ih =>
    have hbefore := ih fun j => h j.succ
    cases i using Fin.cases with
    | zero =>
      calc (Rope.concat lazyFrom (before.ropes left) (before.ropes right)).content
          = (before.ropes left).content ++ (before.ropes right).content :=
            content_concat (h left.succ) (h right.succ) (before.joined left).faithful
              (before.joined right).faithful
        _ = before.texts left ++ before.texts right := by rw [hbefore left, hbefore right]
    | succ i => exact hbefore i

theorem fits_iff_exact (c : Construction n) : c.Fits ↔ ∀ i, (c.ropes i).Exact := by
  constructor
  · exact fun h i => (h.exact_content i).1
  · intro h
    refine c.fits_iff.mpr fun i => ?_
    rw [← content_eq h i, ← length_toNat (h i)]
    exact (c.ropes i).length.toNat_lt_size

/-- A join is at most twice as long as the longest rope before it. -/
theorem utf8ByteSize_texts_le (c : Construction n) (i : Fin n) :
    (c.texts i).utf8ByteSize ≤ c.longest * 2 ^ c.joins := by
  induction c with
  | none => exact i.elim0
  | flat before s hs ih =>
    cases i using Fin.cases with
    | zero =>
      calc s.utf8ByteSize
          ≤ max before.longest s.utf8ByteSize := Nat.le_max_right _ _
        _ ≤ max before.longest s.utf8ByteSize * 2 ^ before.joins :=
          Nat.le_mul_of_pos_right _ (Nat.two_pow_pos _)
    | succ i => exact Nat.le_trans (ih i) (Nat.mul_le_mul_right _ (Nat.le_max_left _ _))
  | concat before lazyFrom left right ih =>
    have hdouble : before.longest * 2 ^ before.joins + before.longest * 2 ^ before.joins =
        before.longest * 2 ^ (before.joins + 1) := by
      rw [pow_succ, ← mul_assoc, Nat.mul_two]
    cases i using Fin.cases with
    | zero =>
      calc (before.texts left ++ before.texts right).utf8ByteSize
          = (before.texts left).utf8ByteSize + (before.texts right).utf8ByteSize :=
            String.utf8ByteSize_append
        _ ≤ before.longest * 2 ^ before.joins + before.longest * 2 ^ before.joins :=
          Nat.add_le_add (ih left) (ih right)
        _ = before.longest * 2 ^ (before.joins + 1) := hdouble
    | succ i =>
      calc (before.texts i).utf8ByteSize
          ≤ before.longest * 2 ^ before.joins := ih i
        _ ≤ before.longest * 2 ^ before.joins + before.longest * 2 ^ before.joins :=
          Nat.le_add_right _ _
        _ = before.longest * 2 ^ (before.joins + 1) := hdouble

/-- Every sum fits as long as the longest flat rope, doubled with every join, does. -/
theorem fits_of_lt {c : Construction n} (h : c.longest * 2 ^ c.joins < UInt64.size) : c.Fits :=
  c.fits_iff.mpr fun i => Nat.lt_of_le_of_lt (c.utf8ByteSize_texts_le i) h

/-- Lengths of ropes, under any sequence of calls. All ropes are made if every sum of two lengths
that a join computes fits into a word and every text that it makes has room; else the program panics
at the first that does not. Each rope that is made has the number of bytes at its leaves as its
length, holds its string, and is empty only if all of its leaves are. The sums fit exactly if every
string of the sequence is shorter than `2 ^ 64` bytes, and as long as the longest flat rope, doubled
with every join, is. Where no sum is checked, that is also when every length is exact; beyond it the
lengths are right up to multiples of the word size, and a rope whose bytes are such a multiple
counts as empty. -/
theorem lengths_exact_iff (c : Construction n) :
    ((c.Fits ∧ c.TextsFit ∧ c.make = .ok c.ropes) ∨
      (¬ c.Fits ∧ c.make = .error (.panic .addition)) ∨
      (¬ c.TextsFit ∧ c.make = .error (.panic .capacity))) ∧
    (∀ made, c.make = .ok made → ∀ i,
      (made i).length.toNat = ((made i).leaves.map String.utf8ByteSize).sum ∧
      (made i).content = c.texts i ∧
      ((∃ s ∈ (made i).leaves, s ≠ "") → (made i).isEmpty = false)) ∧
    (c.Fits ↔ ∀ i, (c.texts i).utf8ByteSize < UInt64.size) ∧
    (c.longest * 2 ^ c.joins < UInt64.size → c.Fits) ∧
    (c.Fits ↔ ∀ i, (c.ropes i).Exact) ∧
    (∀ i, (c.ropes i).Modular ∧
      ((c.ropes i).isEmpty = true ↔ UInt64.size ∣ (c.ropes i).content.utf8ByteSize)) := by
  refine ⟨c.make_cases, ?_, c.fits_iff, fits_of_lt, c.fits_iff_exact,
    fun i => ⟨(c.joined i).modular, isEmpty_modular (c.joined i).modular⟩⟩
  intro made hmade i
  obtain ⟨hfits, htexts, h⟩ | ⟨-, h⟩ | ⟨-, h⟩ := c.make_cases
  · cases h.symm.trans hmade
    have hrope := (built_ropes hfits htexts i).represents
    refine ⟨?_, hrope.content, isEmpty_eq_false hrope.exact⟩
    rw [length_toNat hrope.exact, utf8ByteSize_content]
  · cases h.symm.trans hmade
  · cases h.symm.trans hmade

/-- One byte, joined with itself again and again. -/
def doublings : (n : Nat) → Construction (n + 1)
  | 0 => .flat .none "a" (by decide)
  | n + 1 => .concat (doublings n) 0 0 0

theorem longest_doublings (n : Nat) : (doublings n).longest = 1 := by
  induction n with
  | zero => decide
  | succ n ih => exact ih

theorem joins_doublings (n : Nat) : (doublings n).joins = n := by
  induction n with
  | zero => rfl
  | succ n ih => exact congrArg Nat.succ ih

theorem utf8ByteSize_doublings (n : Nat) : ((doublings n).texts 0).utf8ByteSize = 2 ^ n := by
  induction n with
  | zero => decide
  | succ n ih =>
    show ((doublings n).texts 0 ++ (doublings n).texts 0).utf8ByteSize = 2 ^ (n + 1)
    rw [String.utf8ByteSize_append, ih, pow_succ, Nat.mul_two]

theorem textsFit_doublings (n : Nat) : (doublings n).TextsFit := by
  induction n with
  | zero => trivial
  | succ n ih => exact ⟨ih, fun _ _ h => absurd h (Nat.not_lt_zero _)⟩

/-- With 63 joins the bytes just fit. -/
theorem doublings_fit :
    (doublings 63).make = .ok (doublings 63).ropes ∧
      ((doublings 63).ropes 0).length = 9223372036854775808 := by
  obtain ⟨hcases, hmade, -, hbound, -⟩ := lengths_exact_iff (doublings 63)
  have hfits : (doublings 63).Fits := hbound (by rw [longest_doublings, joins_doublings]; decide)
  have hmake : (doublings 63).make = .ok (doublings 63).ropes := by
    obtain ⟨-, -, h⟩ | ⟨hnot, -⟩ | ⟨hnot, -⟩ := hcases
    · exact h
    · exact absurd hfits hnot
    · exact absurd (textsFit_doublings 63) hnot
  obtain ⟨hlength, hcontent, -⟩ := hmade _ hmake 0
  refine ⟨hmake, UInt64.toNat_inj.mp ?_⟩
  rw [hlength, ← utf8ByteSize_content, hcontent, utf8ByteSize_doublings]
  rfl

/-- Nothing is lost yet by the join that leaves the word. -/
theorem content_doublings {n : Nat} (hn : n < 64) :
    ((doublings (n + 1)).ropes 0).content.utf8ByteSize = 2 ^ (n + 1) := by
  have hfits : (doublings n).Fits := by
    refine fits_of_lt ?_
    rw [longest_doublings, joins_doublings, Nat.one_mul]
    exact Nat.pow_lt_pow_right (by decide) hn
  obtain ⟨hexact, hcontent⟩ := hfits.exact_content 0
  have hfaithful := ((doublings n).joined 0).faithful
  have hbytes := utf8ByteSize_doublings n
  show (Rope.concat 0 ((doublings n).ropes 0) ((doublings n).ropes 0)).content.utf8ByteSize = _
  rw [content_concat hexact hexact hfaithful hfaithful, String.utf8ByteSize_append, hcontent,
    hbytes, pow_succ, Nat.mul_two]

/-- With 64 joins the last sum does not fit, and the program panics. Where it is not checked, the
rope counts as empty and has content, which is lost when the rope is joined with another one. -/
theorem doublings_overflow :
    (doublings 64).make = .error (.panic .addition) ∧
      ((doublings 64).ropes 0).length.toNat ≠
        (((doublings 64).ropes 0).leaves.map String.utf8ByteSize).sum ∧
      (∃ s ∈ ((doublings 64).ropes 0).leaves, s ≠ "") ∧
      ((doublings 64).ropes 0).isEmpty = true ∧
      Rope.concat 0 ((doublings 64).ropes 0) (.flat "b") = .flat "b" := by
  have hbytes : ((doublings 64).ropes 0).content.utf8ByteSize = UInt64.size :=
    content_doublings (n := 63) (by decide)
  have hempty : ((doublings 64).ropes 0).isEmpty = true :=
    (isEmpty_modular (joined _ _).modular).mpr (hbytes ▸ Nat.dvd_refl _)
  have hunfit : ¬ (doublings 64).Fits := fun hfits => by
    have hlt := (fits_iff _).mp hfits 0
    rw [utf8ByteSize_doublings] at hlt
    exact Nat.lt_irrefl _ hlt
  refine ⟨?_, ?_, content_ne_empty_iff.mp fun hcontent => ?_, hempty, concat_empty_left hempty⟩
  · obtain ⟨hfits, -⟩ | ⟨-, h⟩ | ⟨hnot, -⟩ := (doublings 64).make_cases
    · exact absurd hfits hunfit
    · exact h
    · exact absurd (textsFit_doublings 64) hnot
  · rw [← utf8ByteSize_content, hbytes]
    exact Nat.ne_of_lt (UInt64.toNat_lt_size _)
  · rw [hcontent] at hbytes
    cases hbytes

end Construction
end Rope
end Invocation
