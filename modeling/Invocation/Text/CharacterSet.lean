/-
# Sets of characters

A set of characters is given by the code points at which membership changes, in
ascending order: in from the first to before the second, out to before the third,
and so on. A character belongs when an odd number of them has been reached, and
that number is found by halving.

Key definitions: `CharacterSet`, `CharacterSet.reached`, `CharacterSet.contains`.
Key theorems: `CharacterSet.reached_spec`.
-/
namespace Invocation

/-- A set of characters, by the code points at which membership changes. -/
structure CharacterSet where
  boundaries : Array Nat

namespace CharacterSet

variable (s : CharacterSet) (n : Nat)

/-- The boundary at a position. -/
def boundary (i : Nat) : Nat := s.boundaries.getD i 0

/-- How many boundaries are at most `n`, given that all before `low` are and none from `high` on is;
every step halves what is in between. -/
def reachedBetween : Nat → Nat → Nat → Nat
  | 0, low, _ => low
  | steps + 1, low, high =>
    if high ≤ low then low
    else
      let middle := (low + high) / 2
      if s.boundary middle ≤ n then reachedBetween steps (middle + 1) high
      else reachedBetween steps low middle

/-- How many boundaries are at most `n`. -/
def reached : Nat := s.reachedBetween n s.boundaries.size 0 s.boundaries.size

/-- Whether a character belongs to the set. -/
def contains (c : Char) : Bool := s.reached c.toNat % 2 == 1

/-- The boundaries ascend. -/
def Ascending : Prop :=
  ∀ i j, i ≤ j → j < s.boundaries.size → s.boundary i ≤ s.boundary j

theorem reachedBetween_spec (hs : s.Ascending) : ∀ steps low high : Nat, high - low ≤ steps →
    low ≤ high → high ≤ s.boundaries.size → (∀ i, i < low → s.boundary i ≤ n) →
    (∀ i, high ≤ i → i < s.boundaries.size → n < s.boundary i) →
    ∀ i, i < s.boundaries.size → (i < s.reachedBetween n steps low high ↔ s.boundary i ≤ n)
  | 0, low, high, hsteps, hle, _, hlow, hhigh, i, hi => by
    unfold reachedBetween
    exact ⟨hlow i, fun h => Nat.lt_of_not_le fun hl => by
      have := hhigh i (by omega) hi
      omega⟩
  | steps + 1, low, high, hsteps, hle, hsize, hlow, hhigh, i, hi => by
    unfold reachedBetween
    split
    · exact ⟨hlow i, fun h => Nat.lt_of_not_le fun hl => by
        have := hhigh i (by omega) hi
        omega⟩
    · simp only
      split
      · rename_i hmid
        refine reachedBetween_spec hs steps ((low + high) / 2 + 1) high (by omega) (by omega) hsize
          (fun k hk => ?_) hhigh i hi
        exact Nat.le_trans (hs k _ (by omega) (by omega)) hmid
      · rename_i hmid
        refine reachedBetween_spec hs steps low ((low + high) / 2) (by omega) (by omega) (by omega)
          hlow (fun k hk hks => ?_) i hi
        exact Nat.lt_of_lt_of_le (Nat.lt_of_not_le hmid) (hs _ k (by omega) hks)

/-- Where the boundaries ascend, those at the first `reached` positions are at most `n` and all
others are beyond it. -/
theorem reached_spec (hs : s.Ascending) (i : Nat) (hi : i < s.boundaries.size) :
    i < s.reached n ↔ s.boundary i ≤ n :=
  s.reachedBetween_spec n hs _ 0 _ (by omega) (by omega) (Nat.le_refl _)
    (fun _ h => absurd h (by omega)) (fun _ hk hks => absurd hk (by omega)) i hi

end CharacterSet
end Invocation
