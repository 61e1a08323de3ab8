/-
# Checked operations

Sums and differences of words, and texts of a given length, with what happens
where there is none: the program panics. A sum or a difference is taken in the
word or not at all, and a text has less than `2 ^ 63` bytes. Whether the memory
of a machine holds a text that short is left out.

Key definitions: `Checked.add`, `Checked.sub`, `Checked.capacity`, `Checked.reserve`.
Key theorems: `Checked.add_of_lt`, `Checked.sub_of_range`, `Checked.reserve_of_lt`.
-/
import Invocation.Fault

namespace Invocation
namespace Checked

/-- The sum of two words. -/
def add (a b : UInt64) : Except Fault UInt64 :=
  if a.toNat + b.toNat < UInt64.size then .ok (a + b) else .error (.panic .addition)

/-- The difference of two words with a sign. -/
def sub (a b : Int64) : Except Fault Int64 :=
  if -0x8000000000000000 ≤ a.toInt - b.toInt ∧ a.toInt - b.toInt < 0x8000000000000000 then
    .ok (a - b)
  else .error (.panic .subtraction)

/-- Every text has fewer bytes. -/
def capacity : Nat := 0x8000000000000000

/-- Asks for the room for a text of `n` bytes. -/
def reserve (n : UInt64) : Except Fault Unit :=
  if n.toNat < capacity then .ok () else .error (.panic .capacity)

theorem add_of_lt {a b : UInt64} (h : a.toNat + b.toNat < UInt64.size) : add a b = .ok (a + b) :=
  if_pos h

theorem add_of_not_lt {a b : UInt64} (h : ¬ a.toNat + b.toNat < UInt64.size) :
    add a b = .error (.panic .addition) :=
  if_neg h

/-- A difference is the one of the integers, if that fits. -/
theorem sub_of_range {a b : Int64} (hlow : -0x8000000000000000 ≤ a.toInt - b.toInt)
    (hhigh : a.toInt - b.toInt < 0x8000000000000000) :
    ∃ d, sub a b = .ok d ∧ d.toInt = a.toInt - b.toInt := by
  refine ⟨a - b, if_pos ⟨hlow, hhigh⟩, ?_⟩
  rw [Int64.toInt_sub]
  exact Int.bmod_eq_of_le hlow hhigh

theorem panic_of_sub {a b : Int64} {e : Fault} (h : sub a b = .error e) :
    e = .panic .subtraction := by
  unfold sub at h
  split at h
  · cases h
  · exact (Except.error.inj h).symm

theorem reserve_of_lt {n : UInt64} (h : n.toNat < capacity) : reserve n = .ok () := if_pos h

theorem reserve_of_not_lt {n : UInt64} (h : ¬ n.toNat < capacity) :
    reserve n = .error (.panic .capacity) :=
  if_neg h

end Checked
end Invocation
