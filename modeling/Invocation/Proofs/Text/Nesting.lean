/-
# The depth of reading a rope

Reading a rope that keeps no text walks down its left spine in a loop and appends
what hangs off it from left to right. Each part takes a call of its own, and a part
that is itself a join to be read takes a second one for its own spine. So left parts
cost nothing and right parts nest: `Rope.nesting` counts the calls that are open at
once, and `appendWithin` and `flattenWithin` are the reading with a budget of such
calls, which fails when the budget is spent. With enough of it they are `appendTo`
and `flatten`.

The budget suffices exactly if the nesting is within it (`flatten_within`). Texts
that are appended one after the other need two calls however many there are, since
`nesting` grows with the right operand of a join only. Texts put in front of one
another need two calls each (`nesting_prepended`), so no budget is enough for all
ropes (`no_budget_suffices`).

Key definitions: `Rope.appendWithin`, `Rope.flattenWithin`, `Rope.nesting`,
`Rope.Joined`, `Rope.Appended`.
Key theorems: `Rope.appendWithin_eq`, `Rope.leftSpine_within`, `Rope.nesting_concat_le`,
`Rope.flatten_within`, `Rope.no_budget_suffices`.
-/
import Mathlib.Logic.Basic
import Invocation.Proofs.Text.Rope

namespace Invocation
namespace Rope

/-! ### Reading on a budget -/

mutual

/-- Appends the text of a rope to `out`, where at most `frames` calls of this function and of
`appendNode` may be open at once, this one included. -/
def appendWithin : Nat → Rope → String → Option String
  | 0, _, _ => none
  | _ + 1, .flat s, out => some (out ++ s)
  | _ + 1, .lazy _ _ _ (some s), out => some (out ++ s)
  | frames + 1, .lazy l r _ none, out => appendNode frames l r out

/-- Appends the text of a join that keeps none to `out`, part by part down its left spine. -/
def appendNode : Nat → Rope → Rope → String → Option String
  | 0, _, _, _ => none
  | frames + 1, l, r, out =>
    (l.leftSpine [r]).foldlM (fun out part => appendWithin frames part out) out

end

/-- The text of a rope, read with at most `frames` calls of `appendWithin` and `appendNode` open
at once. -/
def flattenWithin (frames : Nat) : Rope → Option String
  | .flat s => some s
  | .lazy _ _ _ (some s) => some s
  | .lazy l r _ none => appendNode frames l r ""

/-- The calls that are open at once when the text of a rope is appended. -/
def nesting : Rope → Nat
  | .flat _ => 1
  | .lazy _ _ _ (some _) => 1
  | .lazy l r _ none => max l.nesting (r.nesting + 2)

variable {a b r r' : Rope} {lazyFrom : Nat}

@[simp] theorem nesting_flat (s : String) : (flat s).nesting = 1 := rfl

@[simp] theorem nesting_kept (l r : Rope) (n : UInt64) (s : String) :
    (lazy l r n (some s)).nesting = 1 := rfl

@[simp] theorem nesting_unread (l r : Rope) (n : UInt64) :
    (lazy l r n none).nesting = max l.nesting (r.nesting + 2) := rfl

theorem nesting_pos : ∀ r : Rope, 1 ≤ r.nesting
  | .flat _ => Nat.le_refl 1
  | .lazy _ _ _ (some _) => Nat.le_refl 1
  | .lazy _ r _ none => by
    have := r.nesting_pos
    simp only [nesting_unread]
    omega

/-! ### The budget decides

The two statements go together: a join reads down its left spine, and what hangs off a spine are
ropes again. A part of a spine is read two calls further in than the join itself. -/

theorem appendWithin_flat (frames : Nat) (s out : String) :
    appendWithin frames (.flat s) out = if 1 ≤ frames then some (out ++ s) else none := by
  cases frames <;> simp [appendWithin]

theorem appendWithin_kept (frames : Nat) (l r : Rope) (n : UInt64) (s out : String) :
    appendWithin frames (.lazy l r n (some s)) out =
      if 1 ≤ frames then some (out ++ s) else none := by
  cases frames <;> simp [appendWithin]

/-- Reading on after a part that is read exactly under `p`. -/
theorem bind_within (p : Prop) [Decidable p] (out : String) (next : String → Option String) :
    ((if p then some out else none) >>= next) = if p then next out else none := by
  split <;> rfl

/-- A join is within a budget if its left part is, as a spine, and its right part is, two calls
further in. -/
theorem nesting_unread_le (l r : Rope) (n : UInt64) (frames : Nat) :
    (lazy l r n none).nesting ≤ frames + 2 ↔
      (1 ≤ frames ∧ l.nesting ≤ frames + 2) ∧ r.nesting ≤ frames := by
  have := r.nesting_pos
  rw [nesting_unread]
  omega

mutual

/-- A rope is appended within its nesting, and with less the budget is spent. -/
theorem appendWithin_eq : ∀ {r : Rope}, r.Faithful → ∀ (frames : Nat) (out : String),
    appendWithin frames r out = if r.nesting ≤ frames then some (out ++ r.content) else none
  | .flat s, _, frames, out => by rw [appendWithin_flat, nesting_flat, content_flat]
  | .lazy l r n (some s), h, frames, out => by
    rw [appendWithin_kept, nesting_kept, ← flatten_eq_content _ h]
    rfl
  | .lazy l r n none, _, 0, out => by
    have := nesting_pos (.lazy l r n none)
    rw [if_neg (by omega), appendWithin]
  | .lazy l r n none, _, 1, out => by
    have := r.nesting_pos
    rw [if_neg (by rw [nesting_unread]; omega), appendWithin, appendNode]
  | .lazy l r n none, h, frames + 2, out => by
    rw [appendWithin, appendNode, leftSpine_within h.1, List.foldlM_cons,
      appendWithin_eq h.2.1 frames (out ++ l.content), bind_within, List.foldlM_nil,
      content_lazy, ← String.append_assoc]
    simp only [nesting_unread_le, ite_and, Option.pure_def]

/-- Appending what hangs off the left spine of a rope puts out its content. -/
theorem leftSpine_within : ∀ {r : Rope}, r.Faithful → ∀ (frames : Nat) (rest : List Rope)
    (out : String),
    (r.leftSpine rest).foldlM (fun out part => appendWithin frames part out) out =
      if 1 ≤ frames ∧ r.nesting ≤ frames + 2 then
        rest.foldlM (fun out part => appendWithin frames part out) (out ++ r.content)
      else none
  | .flat s, _, frames, rest, out => by
    rw [leftSpine, List.foldlM_cons, appendWithin_flat, bind_within, content_flat, nesting_flat]
    simp
  | .lazy l r n (some s), h, frames, rest, out => by
    have hs : (lazy l r n (some s)).content = s := (flatten_eq_content _ h).symm
    rw [leftSpine, List.foldlM_cons, appendWithin_kept, bind_within, hs, nesting_kept]
    simp
  | .lazy l r n none, h, frames, rest, out => by
    -- the spine goes on in the left part, and the right part is what comes after it
    rw [leftSpine, leftSpine_within h.1, List.foldlM_cons,
      appendWithin_eq h.2.1 frames (out ++ l.content), bind_within, content_lazy,
      ← String.append_assoc]
    simp only [nesting_unread_le, ← and_assoc, and_self, ite_and]

end

/-- A faithful rope is read within a budget of one call less than its nesting, since the join that
is asked for its text takes no call of `appendWithin`. -/
theorem flattenWithin_eq : ∀ {r : Rope}, r.Faithful → ∀ frames : Nat,
    r.flattenWithin frames = if r.nesting ≤ frames + 1 then some r.flatten else none
  | .flat _, _, frames => by rw [if_pos (by simp)]; rfl
  | .lazy _ _ _ (some _), _, frames => by rw [if_pos (by simp)]; rfl
  | .lazy l r n none, h, frames => by
    have hnode : flattenWithin frames (lazy l r n none) =
        appendWithin (frames + 1) (lazy l r n none) "" := by
      rw [flattenWithin, appendWithin]
    rw [hnode, appendWithin_eq h, String.empty_append, flatten_eq_content _ h]

/-! ### What nests -/

/-- A rope made of flat ropes by joining, under any thresholds, and reading. Lengths may leave
64 bits. -/
inductive Joined : Rope → Prop
  | flat (s : String) : Joined (.flat s)
  | concat {a b : Rope} (lazyFrom : Nat) : Joined a → Joined b → Joined (concat lazyFrom a b)
  | read {r r' : Rope} : Joined r → Reads r r' → Joined r'

/-- A rope made by appending flat ropes to a flat rope, one after the other, and reading. -/
inductive Appended : Rope → Prop
  | flat (s : String) : Appended (.flat s)
  | append {a : Rope} (s : String) (lazyFrom : Nat) : Appended a →
      Appended (concat lazyFrom a (.flat s))
  | read {r r' : Rope} : Appended r → Reads r r' → Appended r'

theorem Joined.faithful (h : Joined r) : r.Faithful := by
  induction h with
  | flat s => trivial
  | concat lazyFrom _ _ iha ihb => exact faithful_concat lazyFrom iha ihb
  | read _ hread ih => exact hread.faithful ih

/-- Only the right operand of a join is nested by it. -/
theorem nesting_concat_le (a b : Rope) (lazyFrom : Nat) :
    (concat lazyFrom a b).nesting ≤ max a.nesting (b.nesting + 2) := by
  obtain ⟨-, h⟩ | ⟨-, -, h⟩ | ⟨-, -, -, h⟩ | ⟨-, -, -, h⟩ := concat_cases lazyFrom a b
  · rw [h]
    omega
  · rw [h]
    omega
  · rw [h, nesting_flat]
    omega
  · rw [h]
    exact Nat.le_refl _

/-- Reading nests nothing deeper: a text that is kept is one part. -/
theorem Reads.nesting_le (h : Reads r r') : r'.nesting ≤ r.nesting := by
  induction h with
  | here r =>
    obtain hsame | ⟨left, right, n, kept, rfl, -, hkept⟩ := remember_cases r
    · rw [hsame]
    · rw [hkept]
      exact nesting_pos _
  | left r n kept _ ih =>
    cases kept with
    | some s => exact Nat.le_refl 1
    | none =>
      simp only [nesting_unread]
      omega
  | right l n kept _ ih =>
    cases kept with
    | some s => exact Nat.le_refl 1
    | none =>
      simp only [nesting_unread]
      omega

theorem Appended.nesting_le (h : Appended r) : r.nesting ≤ 3 := by
  induction h with
  | flat s => exact Nat.le_add_left 1 2
  | @append a s lazyFrom _ ih =>
    have := nesting_concat_le a (.flat s) lazyFrom
    rw [nesting_flat] at this
    omega
  | read _ hread ih => exact Nat.le_trans (Reads.nesting_le hread) ih

theorem Appended.joined (h : Appended r) : Joined r := by
  induction h with
  | flat s => exact .flat s
  | append s lazyFrom _ ih => exact .concat lazyFrom ih (.flat s)
  | read _ hread ih => exact .read ih hread

/-- The budget that a rope needs. A rope that was joined and read in any way is read in full on a
budget of `frames` calls if its nesting is at most one more, and otherwise the budget is spent.
Joining deepens the nesting by its right operand only, and reading does not deepen it, so a rope
that was made by appending texts is read within two calls, however many texts there are. -/
theorem flatten_within (h : Joined r) :
    (∀ frames, r.flattenWithin frames = if r.nesting ≤ frames + 1 then some r.flatten else none) ∧
    (∀ b lazyFrom, (concat lazyFrom r b).nesting ≤ max r.nesting (b.nesting + 2)) ∧
    (∀ r', Relation.ReflTransGen Reads r r' → r'.nesting ≤ r.nesting) ∧
    (Appended r → ∀ frames, 2 ≤ frames → r.flattenWithin frames = some r.flatten) := by
  refine ⟨flattenWithin_eq h.faithful, nesting_concat_le r, ?_, ?_⟩
  · intro r' hreads
    induction hreads with
    | refl => exact Nat.le_refl _
    | tail _ step ih => exact Nat.le_trans (Reads.nesting_le step) ih
  · intro happ frames hframes
    have := happ.nesting_le
    rw [flattenWithin_eq h.faithful, if_pos (by omega)]

/-- Three texts, appended one after the other. -/
def threeTexts : Rope := concat 0 (concat 0 (.flat "ab") (.flat "cd")) (.flat "ef")

theorem appended_threeTexts : Appended threeTexts := .append _ _ (.append _ _ (.flat "ab"))

theorem threeTexts_within :
    threeTexts.flattenWithin 1 = none ∧ threeTexts.flattenWithin 2 = some "abcdef" ∧
      (concat 0 threeTexts threeTexts).nesting ≤ 5 ∧ threeTexts.remember.nesting ≤ 3 := by
  obtain ⟨hbudget, hjoin, hread, happended⟩ := flatten_within appended_threeTexts.joined
  refine ⟨(hbudget 1).trans (if_neg (by decide)), ?_, hjoin threeTexts 0,
    hread _ (.single (.here _))⟩
  rw [happended appended_threeTexts 2 (by decide),
    flatten_eq_content _ appended_threeTexts.joined.faithful]
  decide

/-! ### Right parts nest -/

/-- A text with `n` texts put in front of it, one after the other. -/
def prepended : Nat → Rope
  | 0 => .flat "a"
  | n + 1 => concat 0 (.flat "bb") (prepended n)

theorem joined_prepended (n : Nat) : Joined (prepended n) := by
  induction n with
  | zero => exact .flat "a"
  | succ n ih => exact .concat 0 (.flat "bb") ih

/-- Two bytes are put in front of a rope of odd length without looking at it. -/
theorem concat_odd (h : b.length.toNat % 2 = 1) :
    concat 0 (.flat "bb") b = lazy (.flat "bb") b (2 + b.length) none := by
  have hne : b.isEmpty = false := by
    rw [isEmpty, beq_eq_false_iff_ne]
    intro h0
    rw [h0] at h
    contradiction
  rw [concat_nonempty rfl hne, if_neg (Nat.not_lt_zero _)]
  rfl

/-- Lengths stay odd, also where they leave 64 bits, so nothing is ever joined with an
empty rope. -/
theorem length_prepended_odd (n : Nat) : (prepended n).length.toNat % 2 = 1 := by
  induction n with
  | zero => decide
  | succ n ih =>
    rw [prepended, concat_odd ih]
    show (2 + (prepended n).length).toNat % 2 = 1
    rw [UInt64.toNat_add]
    have htwo : (2 : UInt64).toNat = 2 := rfl
    omega

theorem nesting_prepended (n : Nat) : (prepended n).nesting = 2 * n + 1 := by
  induction n with
  | zero => rfl
  | succ n ih =>
    rw [prepended, concat_odd (length_prepended_odd n), nesting_unread, nesting_flat, ih]
    omega

/-- No budget is enough to read every rope. -/
theorem no_budget_suffices :
    ¬ ∃ frames, ∀ r, Joined r → r.flattenWithin frames = some r.flatten := by
  rintro ⟨frames, h⟩
  have hread := h _ (joined_prepended (frames + 1))
  rw [flattenWithin_eq (joined_prepended _).faithful, nesting_prepended,
    if_neg (by omega)] at hread
  cases hread

end Rope
end Invocation
