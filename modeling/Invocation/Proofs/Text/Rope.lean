/-
# Ropes as plain strings

`Built r s` says how a rope comes about and which string it stands for: flat ropes
are joined, under any threshold and in any order, and any rope may be read in
between, on its own or as a part of others, which keeps its text. The string is
that of the flat ropes from left to right. A join that panics makes nothing.

Three facts carry everything: every text that is kept is the one at the leaves
(`Faithful`), every length is that of the text at the leaves (`Exact`), and every
text that is there has room (`Held`). Joining and reading keep all three. So the
outcome of every function is known from the strings alone, panics included
(`built_refines`); the longest strings are joined but never read
(`selfJoined_unread`).

Key definitions: `Rope.Reads`, `Rope.Built`, `Rope.Exact`, `Rope.Held`,
`Rope.Represents`.
Key theorems: `Rope.length_toNat`, `Rope.content_concat`, `Rope.checkedConcat_cases`,
`Rope.Built.represents`, `Rope.built_refines`.
-/
import Mathlib.Algebra.Ring.Nat
import Mathlib.Logic.Relation
import Invocation.Text.Rope

namespace Invocation
namespace Rope

/-- A rope is read, or one inside it: its text is made and kept. -/
inductive Reads : Rope → Rope → Prop
  | here (r : Rope) : Reads r r.remember
  | left {l l' : Rope} (r : Rope) (n : UInt64) (kept : Option String) : Reads l l' →
      Reads (.lazy l r n kept) (.lazy l' r n kept)
  | right {r r' : Rope} (l : Rope) (n : UInt64) (kept : Option String) : Reads r r' →
      Reads (.lazy l r n kept) (.lazy l r' n kept)

/-- A rope made of flat ropes by joining and reading, and the string of those flat ropes from left
to right. -/
inductive Built : Rope → String → Prop
  | flat {s : String} : s.utf8ByteSize < Checked.capacity → Built (.flat s) s
  | concat {a b j : Rope} {s t : String} (lazyFrom : Nat) : Built a s → Built b t →
      checkedConcat lazyFrom a b = .ok j → Built j (s ++ t)
  | read {r r' : Rope} {s : String} : Built r s → Reads r r' → Built r' s

/-- Every length in the rope is that of the text at the leaves below it. -/
def Exact : Rope → Prop
  | .flat s => s.utf8ByteSize < UInt64.size
  | .lazy l r n _ => l.Exact ∧ r.Exact ∧ n.toNat = l.content.utf8ByteSize + r.content.utf8ByteSize

/-- There is room for every text in the rope that is there. -/
def Held : Rope → Prop
  | .flat s => s.utf8ByteSize < Checked.capacity
  | .lazy l r n kept => l.Held ∧ r.Held ∧ (kept.isSome = true → n.toNat < Checked.capacity)

/-- A rope keeps true texts and lengths of a string, and has room for the texts. -/
structure Represents (r : Rope) (s : String) : Prop where
  content : r.content = s
  faithful : r.Faithful
  exact : r.Exact
  held : r.Held

variable {a b j r r' : Rope} {s t : String} {lazyFrom : Nat}

/-! ### Length -/

/-- The length of a rope is that of its content. -/
theorem length_toNat : ∀ {r : Rope}, r.Exact → r.length.toNat = r.content.utf8ByteSize
  | .flat s, h => by
    rw [content_flat]
    exact UInt64.toNat_ofNat_of_lt' h
  | .lazy l r n _, h => by
    rw [content_lazy, String.utf8ByteSize_append]
    exact h.2.2

theorem isEmpty_iff (h : r.Exact) : r.isEmpty = true ↔ r.content = "" := by
  rw [isEmpty, beq_iff_eq, ← UInt64.toNat_inj, length_toNat h]
  exact String.utf8ByteSize_eq_zero_iff

/-- Lengths add up while they fit into 64 bits. -/
theorem length_add (h : a.length.toNat + b.length.toNat < UInt64.size) :
    (a.length + b.length).toNat = a.length.toNat + b.length.toNat := by
  rw [UInt64.toNat_add]
  exact Nat.mod_eq_of_lt h

/-! ### Joining -/

theorem concat_empty_left (ha : a.isEmpty = true) : concat lazyFrom a b = b := by
  rw [concat, if_pos ha]

theorem concat_empty_right (ha : a.isEmpty = false) (hb : b.isEmpty = true) :
    concat lazyFrom a b = a := by
  simp only [concat, ha, hb, Bool.false_eq_true, ↓reduceIte]

theorem concat_nonempty (ha : a.isEmpty = false) (hb : b.isEmpty = false) :
    concat lazyFrom a b =
      if (a.length + b.length).toNat < lazyFrom then flat (a.flatten ++ b.flatten)
      else lazy a b (a.length + b.length) none := by
  simp only [concat, ha, hb, Bool.false_eq_true, ↓reduceIte]

/-- What a join is: the other rope where one is empty, and else a flat or a lazy one of both. -/
theorem concat_cases (lazyFrom : Nat) (a b : Rope) :
    (a.isEmpty = true ∧ concat lazyFrom a b = b) ∨
    (a.isEmpty = false ∧ b.isEmpty = true ∧ concat lazyFrom a b = a) ∨
    (a.isEmpty = false ∧ b.isEmpty = false ∧ (a.length + b.length).toNat < lazyFrom ∧
      concat lazyFrom a b = flat (a.flatten ++ b.flatten)) ∨
    (a.isEmpty = false ∧ b.isEmpty = false ∧ lazyFrom ≤ (a.length + b.length).toNat ∧
      concat lazyFrom a b = lazy a b (a.length + b.length) none) := by
  cases ha : a.isEmpty with
  | true => exact .inl ⟨rfl, concat_empty_left ha⟩
  | false =>
    cases hb : b.isEmpty with
    | true => exact .inr (.inl ⟨rfl, rfl, concat_empty_right ha hb⟩)
    | false =>
      rw [concat_nonempty ha hb]
      split
      · rename_i hflat
        exact .inr (.inr (.inl ⟨rfl, rfl, hflat, rfl⟩))
      · rename_i hlazy
        exact .inr (.inr (.inr ⟨rfl, rfl, Nat.not_lt.mp hlazy, rfl⟩))

/-- The content of a join is that of the parts, one after the other. -/
theorem content_concat (ha : a.Exact) (hb : b.Exact) (hfa : a.Faithful) (hfb : b.Faithful) :
    (concat lazyFrom a b).content = a.content ++ b.content := by
  obtain ⟨hempty, h⟩ | ⟨-, hempty, h⟩ | ⟨-, -, -, h⟩ | ⟨-, -, -, h⟩ := concat_cases lazyFrom a b
  · rw [h, (isEmpty_iff ha).mp hempty, String.empty_append]
  · rw [h, (isEmpty_iff hb).mp hempty, String.append_empty]
  · rw [h, content_flat, flatten_eq_content a hfa, flatten_eq_content b hfb]
  · rw [h, content_lazy]

/-! ### Joining with checks -/

/-- The sum of the two lengths that a join computes, if it computes one, does not leave the word. A
join with an empty rope computes none. -/
def SumFits (a b : Rope) : Prop :=
  a.isEmpty = false → b.isEmpty = false → a.length.toNat + b.length.toNat < UInt64.size

/-- The text that a join makes, if it makes one, has room. -/
def TextFits (lazyFrom : Nat) (a b : Rope) : Prop :=
  a.isEmpty = false → b.isEmpty = false → a.length.toNat + b.length.toNat < lazyFrom →
    a.length.toNat + b.length.toNat < Checked.capacity

/-- A text that is made in a join is never too long for its parts to be read: they are shorter. -/
theorem checkedConcat_nonempty (ha : a.isEmpty = false) (hb : b.isEmpty = false)
    (hsum : a.length.toNat + b.length.toNat < UInt64.size) :
    checkedConcat lazyFrom a b =
      if a.length.toNat + b.length.toNat < lazyFrom then
        if a.length.toNat + b.length.toNat < Checked.capacity then
          .ok (flat (a.flatten ++ b.flatten))
        else .error (.panic .capacity)
      else .ok (lazy a b (a.length + b.length) none) := by
  have hword := length_add hsum
  simp only [checkedConcat, ha, hb, Bool.false_eq_true, ↓reduceIte, Checked.add_of_lt hsum]
  show (if (a.length + b.length).toNat < lazyFrom then _ else _) = _
  rw [hword]
  by_cases hflat : a.length.toNat + b.length.toNat < lazyFrom
  · rw [if_pos hflat, if_pos hflat]
    by_cases hroom : a.length.toNat + b.length.toNat < Checked.capacity
    · rw [if_pos hroom, Checked.reserve_of_lt (by rwa [hword]), checkedFlatten_of_lt (by omega),
        checkedFlatten_of_lt (by omega)]
      rfl
    · rw [if_neg hroom, Checked.reserve_of_not_lt (by rwa [hword])]
      rfl
  · rw [if_neg hflat, if_neg hflat]
    rfl

/-- A join panics for a sum that does not fit, and else for a text that has no room. -/
theorem checkedConcat_cases (lazyFrom : Nat) (a b : Rope) :
    (¬ SumFits a b ∧ checkedConcat lazyFrom a b = .error (.panic .addition)) ∨
    (SumFits a b ∧ ¬ TextFits lazyFrom a b ∧
      checkedConcat lazyFrom a b = .error (.panic .capacity)) ∨
    (SumFits a b ∧ TextFits lazyFrom a b ∧
      checkedConcat lazyFrom a b = .ok (concat lazyFrom a b)) := by
  unfold SumFits TextFits
  cases ha : a.isEmpty with
  | true =>
    refine .inr (.inr ⟨nofun, nofun, ?_⟩)
    rw [concat_empty_left ha, checkedConcat, if_pos ha]
  | false =>
    cases hb : b.isEmpty with
    | true =>
      refine .inr (.inr ⟨nofun, nofun, ?_⟩)
      simp only [concat_empty_right ha hb, checkedConcat, ha, hb, Bool.false_eq_true, ↓reduceIte]
    | false =>
      simp only [forall_const]
      by_cases hsum : a.length.toNat + b.length.toNat < UInt64.size
      · rw [concat_nonempty ha hb, length_add hsum, checkedConcat_nonempty ha hb hsum]
        by_cases hflat : a.length.toNat + b.length.toNat < lazyFrom
        · by_cases hroom : a.length.toNat + b.length.toNat < Checked.capacity
          · exact .inr (.inr
              ⟨hsum, fun _ => hroom, by rw [if_pos hflat, if_pos hroom, if_pos hflat]⟩)
          · exact .inr (.inl ⟨hsum, fun h => hroom (h hflat), by rw [if_pos hflat, if_neg hroom]⟩)
        · exact .inr (.inr ⟨hsum, fun h => absurd h hflat, by rw [if_neg hflat, if_neg hflat]⟩)
      · refine .inl ⟨hsum, ?_⟩
        simp only [checkedConcat, ha, hb, Bool.false_eq_true, ↓reduceIte,
          Checked.add_of_not_lt hsum]
        rfl

theorem checkedConcat_of_fits (hsum : SumFits a b) (htext : TextFits lazyFrom a b) :
    checkedConcat lazyFrom a b = .ok (concat lazyFrom a b) := by
  obtain ⟨hnot, -⟩ | ⟨-, hnot, -⟩ | ⟨-, -, hok⟩ := checkedConcat_cases lazyFrom a b
  · exact absurd hsum hnot
  · exact absurd htext hnot
  · exact hok

theorem concat_of_checkedConcat (h : checkedConcat lazyFrom a b = .ok j) :
    SumFits a b ∧ TextFits lazyFrom a b ∧ j = concat lazyFrom a b := by
  obtain ⟨-, hpanic⟩ | ⟨-, -, hpanic⟩ | ⟨hsum, htext, hok⟩ := checkedConcat_cases lazyFrom a b
  · rw [hpanic] at h
    cases h
  · rw [hpanic] at h
    cases h
  · exact ⟨hsum, htext, Except.ok.inj (h.symm.trans hok)⟩

/-- A join fails for nothing but a panic. -/
theorem panic_of_checkedConcat {e : Fault} (h : checkedConcat lazyFrom a b = .error e) :
    ∃ cause, e = .panic cause := by
  obtain ⟨-, hpanic⟩ | ⟨-, -, hpanic⟩ | ⟨-, -, hok⟩ := checkedConcat_cases lazyFrom a b
  · exact ⟨_, Except.error.inj (h.symm.trans hpanic)⟩
  · exact ⟨_, Except.error.inj (h.symm.trans hpanic)⟩
  · rw [hok] at h
    cases h

theorem exact_concat (ha : a.Exact) (hb : b.Exact) (hfa : a.Faithful) (hfb : b.Faithful)
    (hsum : SumFits a b) : (concat lazyFrom a b).Exact := by
  obtain ⟨-, h⟩ | ⟨-, -, h⟩ | ⟨hae, hbe, -, h⟩ | ⟨hae, hbe, -, h⟩ := concat_cases lazyFrom a b
  · rwa [h]
  · rwa [h]
  · rw [h]
    show (a.flatten ++ b.flatten).utf8ByteSize < UInt64.size
    rw [flatten_eq_content a hfa, flatten_eq_content b hfb, String.utf8ByteSize_append,
      ← length_toNat ha, ← length_toNat hb]
    exact hsum hae hbe
  · rw [h]
    refine ⟨ha, hb, ?_⟩
    rw [length_add (hsum hae hbe), length_toNat ha, length_toNat hb]

theorem held_concat (ha : a.Represents s) (hb : b.Represents t) (hsum : SumFits a b)
    (htext : TextFits lazyFrom a b) : (concat lazyFrom a b).Held := by
  obtain ⟨-, h⟩ | ⟨-, -, h⟩ | ⟨hae, hbe, hflat, h⟩ | ⟨-, -, -, h⟩ := concat_cases lazyFrom a b
  · rw [h]
    exact hb.held
  · rw [h]
    exact ha.held
  · rw [h]
    show (a.flatten ++ b.flatten).utf8ByteSize < Checked.capacity
    rw [length_add (hsum hae hbe)] at hflat
    rw [flatten_eq_content a ha.faithful, flatten_eq_content b hb.faithful,
      String.utf8ByteSize_append, ← length_toNat ha.exact, ← length_toNat hb.exact]
    exact htext hae hbe hflat
  · rw [h]
    exact ⟨ha.held, hb.held, nofun⟩

/-! ### Reading -/

/-- What is read has room. -/
theorem lt_capacity_of_checkedFlatten {n : UInt64} {kept : Option String}
    (h : (lazy a b n kept).Held) (hok : (lazy a b n kept).checkedFlatten = .ok s) :
    n.toNat < Checked.capacity := by
  cases kept with
  | some t => exact h.2.2 rfl
  | none =>
    refine Decidable.byContradiction fun hlong => ?_
    rw [checkedFlatten, Checked.reserve_of_not_lt hlong] at hok
    cases hok

/-- With exact lengths and room for what is there, the length decides whether a rope is read. -/
theorem checkedFlatten_of_held : ∀ {r : Rope}, r.Exact → r.Held →
    r.checkedFlatten = if r.length.toNat < Checked.capacity then .ok r.flatten
      else .error (.panic .capacity)
  | .flat s, he, hr => by
    have hroom : (flat s).length.toNat < Checked.capacity := by
      rw [length_toNat he, content_flat]
      exact hr
    exact (if_pos hroom).symm
  | .lazy l r n kept, _, hr => by
    rcases checkedFlatten_eq (lazy l r n kept) with hok | ⟨hlong, hpanic⟩
    · have hroom : (lazy l r n kept).length.toNat < Checked.capacity :=
        lt_capacity_of_checkedFlatten hr hok
      rw [hok, if_pos hroom]
    · rw [hpanic, if_neg (Nat.not_lt.mpr hlong)]

namespace Reads

theorem leaves (h : Reads r r') : r'.leaves = r.leaves := by
  induction h with
  | here r =>
    obtain hsame | ⟨l, r', n, kept, rfl, -, hkept⟩ := remember_cases r
    · rw [hsame]
    · rw [hkept]
      rfl
  | left r n kept _ ih => rw [Rope.leaves, Rope.leaves, ih]
  | right l n kept _ ih => rw [Rope.leaves, Rope.leaves, ih]

theorem content (h : Reads r r') : r'.content = r.content := congrArg String.join h.leaves

theorem length (h : Reads r r') : r'.length = r.length := by
  cases h with
  | here => cases r <;> rfl
  | left => rfl
  | right => rfl

theorem isLazy (h : Reads r r') : r'.isLazy = r.isLazy := by
  cases h with
  | here => cases r <;> rfl
  | left => rfl
  | right => rfl

theorem faithful (h : Reads r r') : r.Faithful → r'.Faithful := by
  induction h with
  | here r => exact faithful_remember
  | left r n kept h ih =>
    rintro ⟨hl, hr, hkept⟩
    exact ⟨ih hl, hr, by rwa [h.content]⟩
  | right l n kept h ih =>
    rintro ⟨hl, hr, hkept⟩
    exact ⟨hl, ih hr, by rwa [h.content]⟩

theorem exact (h : Reads r r') : r.Exact → r'.Exact := by
  induction h with
  | here r =>
    intro he
    cases r <;> exact he
  | left r n kept h ih =>
    rintro ⟨hl, hr, hn⟩
    exact ⟨ih hl, hr, by rw [h.content, hn]⟩
  | right l n kept h ih =>
    rintro ⟨hl, hr, hn⟩
    exact ⟨hl, ih hr, by rw [h.content, hn]⟩

/-- A text is kept only if it could be made. -/
theorem held (h : Reads r r') : r.Held → r'.Held := by
  induction h with
  | here r =>
    intro hr
    obtain hsame | ⟨l, r', n, kept, rfl, hok, hkept⟩ := remember_cases r
    · rwa [hsame]
    · rw [hkept]
      exact ⟨hr.1, hr.2.1, fun _ => lt_capacity_of_checkedFlatten hr hok⟩
  | left r n kept h ih => exact fun ⟨hl, hr, hkept⟩ => ⟨ih hl, hr, hkept⟩
  | right l n kept h ih => exact fun ⟨hl, hr, hkept⟩ => ⟨hl, ih hr, hkept⟩

end Reads

/-! ### What is built -/

theorem Represents.concat (ha : a.Represents s) (hb : b.Represents t)
    (h : checkedConcat lazyFrom a b = .ok j) : j.Represents (s ++ t) := by
  obtain ⟨hsum, htext, rfl⟩ := concat_of_checkedConcat h
  refine ⟨?_, faithful_concat lazyFrom ha.faithful hb.faithful,
    exact_concat ha.exact hb.exact ha.faithful hb.faithful hsum, held_concat ha hb hsum htext⟩
  rw [content_concat ha.exact hb.exact ha.faithful hb.faithful, ha.content, hb.content]

theorem Built.represents (h : Built r s) : r.Represents s := by
  induction h with
  | flat hs => exact ⟨content_flat _, trivial, Nat.lt_trans hs (by decide), hs⟩
  | concat lazyFrom _ _ hj iha ihb => exact iha.concat ihb hj
  | read _ hread ih =>
    exact ⟨hread.content.trans ih.content, hread.faithful ih.faithful, hread.exact ih.exact,
      hread.held ih.held⟩

namespace Represents

theorem length_eq (h : r.Represents s) : r.length.toNat = s.utf8ByteSize := by
  rw [length_toNat h.exact, h.content]

theorem flatten_eq (h : r.Represents s) : r.flatten = s := by
  rw [flatten_eq_content r h.faithful, h.content]

theorem isEmpty_eq (h : r.Represents s) : r.isEmpty = true ↔ s = "" := by
  rw [isEmpty_iff h.exact, h.content]

theorem isEmpty_eq_false (h : r.Represents s) : r.isEmpty = false ↔ s ≠ "" := by
  rw [← Bool.not_eq_true, h.isEmpty_eq]

theorem checkedFlatten_eq (h : r.Represents s) : r.checkedFlatten =
    if s.utf8ByteSize < Checked.capacity then .ok s else .error (.panic .capacity) := by
  rw [checkedFlatten_of_held h.exact h.held, h.length_eq, h.flatten_eq]

theorem sumFits_iff (ha : a.Represents s) (hb : b.Represents t) : SumFits a b ↔
    (s ≠ "" → t ≠ "" → s.utf8ByteSize + t.utf8ByteSize < UInt64.size) := by
  rw [SumFits, ha.isEmpty_eq_false, hb.isEmpty_eq_false, ha.length_eq, hb.length_eq]

theorem textFits_iff (ha : a.Represents s) (hb : b.Represents t) : TextFits lazyFrom a b ↔
    (s ≠ "" → t ≠ "" → s.utf8ByteSize + t.utf8ByteSize < lazyFrom →
      s.utf8ByteSize + t.utf8ByteSize < Checked.capacity) := by
  rw [TextFits, ha.isEmpty_eq_false, hb.isEmpty_eq_false, ha.length_eq, hb.length_eq]

theorem sameText_iff (ha : a.Represents s) (hb : b.Represents t) :
    a.sameText b = true ↔ s = t := by
  show (a.length == b.length && a.flatten == b.flatten) = true ↔ _
  rw [Bool.and_eq_true, beq_iff_eq, beq_iff_eq, ha.flatten_eq, hb.flatten_eq]
  constructor
  · exact And.right
  · intro hst
    refine ⟨UInt64.toNat_inj.mp ?_, hst⟩
    rw [ha.length_eq, hb.length_eq, hst]

/-- Ropes are compared by their strings. A panic needs two ropes of one length that is too long,
which are not the same in memory. -/
theorem checkedEq_eq (ha : a.Represents s) (hb : b.Represents t) {shared : Bool}
    (hshared : shared = true → a = b) : a.checkedEq shared b =
      if shared = true ∨ s.utf8ByteSize ≠ t.utf8ByteSize ∨ s.utf8ByteSize < Checked.capacity then
        .ok (decide (s = t))
      else .error (.panic .capacity) := by
  cases shared with
  | true =>
    have hst : s = t := by rw [← ha.content, ← hb.content, hshared rfl]
    rw [if_pos (.inl rfl), decide_eq_true hst]
    rfl
  | false =>
    rw [checkedEq, ha.checkedFlatten_eq, hb.checkedFlatten_eq]
    by_cases hst : s.utf8ByteSize = t.utf8ByteSize
    · have hlength : a.length = b.length := by
        rw [← UInt64.toNat_inj, ha.length_eq, hb.length_eq, hst]
      rw [hlength, ← hst]
      by_cases hroom : s.utf8ByteSize < Checked.capacity
      · simp only [hroom, Bool.false_eq_true, beq_self_eq_true, ↓reduceIte, or_true]
        rfl
      · simp only [hroom, Bool.false_eq_true, beq_self_eq_true, ↓reduceIte, ne_eq,
          not_true_eq_false, or_self]
        rfl
    · have hlength : (a.length == b.length) = false := by
        rw [beq_eq_false_iff_ne, ne_eq, ← UInt64.toNat_inj, ha.length_eq, hb.length_eq]
        exact hst
      have hne : s ≠ t := fun heq => hst (congrArg String.utf8ByteSize heq)
      simp only [hlength, hst, hne, Bool.false_eq_true, ↓reduceIte, ne_eq, not_false_eq_true,
        true_or, or_true, decide_false]

/-- A join is lazy from the threshold on, and one with an empty part is what the other part is. -/
theorem isLazy_concat_iff (ha : a.Represents s) (hb : b.Represents t) (hsum : SumFits a b) :
    (Rope.concat lazyFrom a b).isLazy = true ↔
      (s ≠ "" ∧ t ≠ "" ∧ lazyFrom ≤ a.length.toNat + b.length.toNat) ∨
        (s = "" ∧ b.isLazy = true) ∨ (s ≠ "" ∧ t = "" ∧ a.isLazy = true) := by
  obtain ⟨hs, h⟩ | ⟨hs, ht, h⟩ | ⟨hs, ht, hflat, h⟩ | ⟨hs, ht, hlazy, h⟩ :=
    concat_cases lazyFrom a b
  · rw [h]
    simp [ha.isEmpty_eq.mp hs]
  · rw [h]
    simp [ha.isEmpty_eq_false.mp hs, hb.isEmpty_eq.mp ht]
  · rw [length_add (hsum hs ht)] at hflat
    rw [h]
    simp [ha.isEmpty_eq_false.mp hs, hb.isEmpty_eq_false.mp ht, isLazy, hflat]
  · rw [length_add (hsum hs ht)] at hlazy
    rw [h]
    simp [ha.isEmpty_eq_false.mp hs, hb.isEmpty_eq_false.mp ht, isLazy, hlazy]

/-- When a join panics, and of what. -/
theorem checkedConcat_error_iff (ha : a.Represents s) (hb : b.Represents t) {e : Fault} :
    checkedConcat lazyFrom a b = .error e ↔ s ≠ "" ∧ t ≠ "" ∧
      (e = .panic .addition ∧ UInt64.size ≤ s.utf8ByteSize + t.utf8ByteSize ∨
        e = .panic .capacity ∧ s.utf8ByteSize + t.utf8ByteSize < UInt64.size ∧
          s.utf8ByteSize + t.utf8ByteSize < lazyFrom ∧
          Checked.capacity ≤ s.utf8ByteSize + t.utf8ByteSize) := by
  have hcases := checkedConcat_cases lazyFrom a b
  rw [ha.sumFits_iff hb, ha.textFits_iff hb] at hcases
  obtain ⟨hsum, h⟩ | ⟨hsum, htext, h⟩ | ⟨hsum, htext, h⟩ := hcases
  · simp only [Classical.not_imp, Nat.not_lt] at hsum
    obtain ⟨hs, ht, hsum⟩ := hsum
    rw [h]
    constructor
    · intro he
      cases he
      exact ⟨hs, ht, .inl ⟨rfl, hsum⟩⟩
    · rintro ⟨-, -, ⟨rfl, -⟩ | ⟨-, hlt, -⟩⟩
      · rfl
      · omega
  · simp only [Classical.not_imp, Nat.not_lt] at htext
    obtain ⟨hs, ht, hflat, hlong⟩ := htext
    have hlt := hsum hs ht
    rw [h]
    constructor
    · intro he
      cases he
      exact ⟨hs, ht, .inr ⟨rfl, hlt, hflat, hlong⟩⟩
    · rintro ⟨-, -, ⟨-, hle⟩ | ⟨rfl, -⟩⟩
      · omega
      · rfl
  · rw [h]
    constructor
    · exact nofun
    · rintro ⟨hs, ht, ⟨-, hle⟩ | ⟨-, -, hflat, hlong⟩⟩
      · exact absurd (hsum hs ht) (Nat.not_lt.mpr hle)
      · exact absurd (htext hs ht hflat) (Nat.not_lt.mpr hlong)

end Represents

/-- Reading any number of ropes inside a rope changes nothing that can be asked of it. -/
theorem reads_same (ha : Built a s) (h : Relation.ReflTransGen Reads a r) :
    Built r s ∧ r.isLazy = a.isLazy ∧ r.length = a.length ∧
      r.checkedFlatten = a.checkedFlatten ∧ ∀ shared c,
        r.checkedEq shared c = a.checkedEq shared c ∧
        c.checkedEq shared r = c.checkedEq shared a := by
  have hread : Built r s ∧ r.isLazy = a.isLazy ∧ r.length = a.length := by
    induction h with
    | refl => exact ⟨ha, rfl, rfl⟩
    | tail _ step ih =>
      exact ⟨.read ih.1 step, step.isLazy.trans ih.2.1, step.length.trans ih.2.2⟩
  obtain ⟨hr, hlazy, hlength⟩ := hread
  have htext : r.checkedFlatten = a.checkedFlatten := by
    rw [hr.represents.checkedFlatten_eq, ha.represents.checkedFlatten_eq]
  refine ⟨hr, hlazy, hlength, htext, fun shared c => ?_⟩
  simp only [checkedEq, hlength, htext, and_self]

/-- Ropes refine strings. However ropes `a` and `b` were made and read, the length of `a` is the
number of bytes of its string, and reading `a` down its spine now appends just that string. Asked
for its text, `a` gives the string if there is room for it, and else the program panics. The two are
equal exactly if their strings are; a comparison panics only where it has to read what has no room.
A join of the two has one text after the other, under every threshold, and says by the threshold
whether it is lazy; it panics exactly if the lengths have no sum, or if it is to be flat and has no
room. Reading changes none of this. -/
theorem built_refines (ha : Built a s) (hb : Built b t) :
    a.length.toNat = s.utf8ByteSize ∧
    (∀ out, a.appendTo out = out ++ s) ∧
    (a.checkedFlatten =
      if s.utf8ByteSize < Checked.capacity then .ok s else .error (.panic .capacity)) ∧
    (a.sameText b = true ↔ s = t) ∧
    (∀ shared, (shared = true → a = b) → a.checkedEq shared b =
      if shared = true ∨ s.utf8ByteSize ≠ t.utf8ByteSize ∨ s.utf8ByteSize < Checked.capacity then
        .ok (decide (s = t))
      else .error (.panic .capacity)) ∧
    (∀ lazyFrom j, checkedConcat lazyFrom a b = .ok j →
      Built j (s ++ t) ∧ j.flatten = a.flatten ++ b.flatten ∧
      j.length.toNat = a.length.toNat + b.length.toNat ∧
      (j.isLazy = true ↔
        (s ≠ "" ∧ t ≠ "" ∧ lazyFrom ≤ a.length.toNat + b.length.toNat) ∨
          (s = "" ∧ b.isLazy = true) ∨ (s ≠ "" ∧ t = "" ∧ a.isLazy = true))) ∧
    (∀ lazyFrom e, checkedConcat lazyFrom a b = .error e ↔ s ≠ "" ∧ t ≠ "" ∧
      (e = .panic .addition ∧ UInt64.size ≤ s.utf8ByteSize + t.utf8ByteSize ∨
        e = .panic .capacity ∧ s.utf8ByteSize + t.utf8ByteSize < UInt64.size ∧
          s.utf8ByteSize + t.utf8ByteSize < lazyFrom ∧
          Checked.capacity ≤ s.utf8ByteSize + t.utf8ByteSize)) ∧
    (∀ a', Relation.ReflTransGen Reads a a' → Built a' s ∧ a'.isLazy = a.isLazy ∧
      a'.length = a.length ∧ a'.checkedFlatten = a.checkedFlatten ∧ ∀ shared c,
        a'.checkedEq shared c = a.checkedEq shared c ∧
        c.checkedEq shared a' = c.checkedEq shared a) := by
  have hra := ha.represents
  have hrb := hb.represents
  refine ⟨hra.length_eq, ?_, hra.checkedFlatten_eq, hra.sameText_iff hrb,
    fun shared hshared => hra.checkedEq_eq hrb hshared, ?_,
    fun lazyFrom e => hra.checkedConcat_error_iff hrb, fun a' => reads_same ha⟩
  · intro out
    rw [appendTo_eq a hra.faithful, hra.content]
  · intro lazyFrom j hj
    have hrj := hra.concat hrb hj
    obtain ⟨hsum, -, rfl⟩ := concat_of_checkedConcat hj
    refine ⟨.concat lazyFrom ha hb hj, ?_, ?_, hra.isLazy_concat_iff hrb hsum⟩
    · rw [hrj.flatten_eq, hra.flatten_eq, hrb.flatten_eq]
    · rw [hrj.length_eq, hra.length_eq, hrb.length_eq, String.utf8ByteSize_append]

/-- Two parts that are joined lazily. -/
def twoParts : Rope := .lazy (.flat "ab") (.flat "cd") 4 none

/-- The two parts joined with themselves, where they were read before on one side only. -/
def doubled : Rope := .lazy twoParts.remember twoParts 8 none

theorem built_doubled : Built doubled ("ab" ++ "cd" ++ ("ab" ++ "cd")) := by
  have hparts : Built twoParts ("ab" ++ "cd") :=
    .concat 2 (.flat (by decide)) (.flat (by decide)) rfl
  exact .concat 2 (.read hparts (.here _)) hparts rfl

theorem doubled_refines :
    doubled.length.toNat = 8 ∧ doubled.checkedFlatten = .ok "abcdabcd" ∧
      doubled.checkedEq false (.flat "abcdabcd") = .ok true ∧
      (∃ j, checkedConcat 16 doubled (.flat "abcdabcd") = .ok j ∧
        j.flatten = "abcdabcdabcdabcd" ∧ j.isLazy = true) ∧
      doubled.remember.checkedFlatten = .ok "abcdabcd" := by
  have hflat : Built (.flat "abcdabcd") "abcdabcd" := .flat (by decide)
  obtain ⟨hlength, -, htext, -, hsame, hjoin, hpanic, hreads⟩ := built_refines built_doubled hflat
  have hread : doubled.checkedFlatten = .ok "abcdabcd" := htext.trans (if_pos (by decide))
  refine ⟨hlength, hread, (hsame false nofun).trans (if_pos (by decide)), ?_, ?_⟩
  · cases hj : checkedConcat 16 doubled (.flat "abcdabcd") with
    | error e =>
      obtain ⟨-, -, ⟨-, hsum⟩ | ⟨-, -, hsum, -⟩⟩ := (hpanic 16 e).mp hj
      · exact absurd hsum (by decide)
      · exact absurd hsum (by decide)
    | ok j =>
      obtain ⟨-, hboth, -, hlazy⟩ := hjoin 16 j hj
      refine ⟨j, rfl, ?_, hlazy.mpr (.inl ⟨by decide, by decide, by decide⟩)⟩
      rw [hboth, ← flatten_of_checkedFlatten hread]
      decide
  · rw [(hreads _ (.single (.here _))).2.2.2.1, hread]

/-! ### The longest strings -/

/-- One byte, joined with itself again and again. -/
def selfJoined : Nat → Rope
  | 0 => .flat "a"
  | n + 1 => concat 0 (selfJoined n) (selfJoined n)

def selfText : Nat → String
  | 0 => "a"
  | n + 1 => selfText n ++ selfText n

theorem utf8ByteSize_selfText (n : Nat) : (selfText n).utf8ByteSize = 2 ^ n := by
  induction n with
  | zero => decide
  | succ n ih => rw [selfText, String.utf8ByteSize_append, ih, pow_succ, Nat.mul_two]

/-- With fewer than 64 joins no sum leaves the word. -/
theorem built_selfJoined {n : Nat} (hn : n < 64) : Built (selfJoined n) (selfText n) := by
  induction n with
  | zero => exact .flat (by decide)
  | succ n ih =>
    have hhalf := ih (Nat.lt_of_succ_lt hn)
    have hsum : SumFits (selfJoined n) (selfJoined n) := by
      rw [hhalf.represents.sumFits_iff hhalf.represents, utf8ByteSize_selfText, ← Nat.mul_two,
        ← pow_succ]
      exact fun _ _ => Nat.pow_lt_pow_right (by decide) hn
    exact .concat 0 hhalf hhalf
      (checkedConcat_of_fits hsum fun _ _ h => absurd h (Nat.not_lt_zero _))

/-- A string of `2 ^ 63` bytes can be joined, but neither read nor compared with one made apart. -/
theorem selfJoined_unread :
    Built (selfJoined 63) (selfText 63) ∧ (selfText 63).utf8ByteSize < UInt64.size ∧
      (selfJoined 63).checkedFlatten = .error (.panic .capacity) ∧
      (selfJoined 63).checkedEq false (selfJoined 63) = .error (.panic .capacity) := by
  have hbuilt : Built (selfJoined 63) (selfText 63) := built_selfJoined (by decide)
  have hbytes := utf8ByteSize_selfText 63
  have hlong : ¬ (selfText 63).utf8ByteSize < Checked.capacity := by
    rw [hbytes]
    decide
  refine ⟨hbuilt, ?_, ?_, ?_⟩
  · rw [hbytes]
    decide
  · rw [hbuilt.represents.checkedFlatten_eq, if_neg hlong]
  · rw [hbuilt.represents.checkedEq_eq hbuilt.represents (fun _ => rfl), if_neg]
    rintro (h | h | h)
    · cases h
    · exact h rfl
    · exact hlong h

end Rope
end Invocation
