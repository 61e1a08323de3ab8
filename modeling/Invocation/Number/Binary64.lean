/-
# Double-precision numbers

A `Binary64` is the 64 bits of a double-precision number: a sign, an eleven bit
exponent field and a 52 bit fraction. A finite one has the magnitude
`significand * 2 ^ scale`. This module holds what the library needs of them and
no arithmetic: which bits mean a number, equality of numbers (a NaN equals
nothing, the two zeros are equal), the exact integer behind a number, and the
nearest number to an integer.

Key definitions: `Binary64.numEq`, `Binary64.truncate`, `Binary64.toInt?`,
`Binary64.ofNat`, `Binary64.ofInt`.
-/
namespace Invocation

/-- A double-precision number, by its bits. -/
structure Binary64 where
  bits : UInt64
deriving DecidableEq

namespace Binary64

/-! ### Fields -/

/-- The sign bit; it is set for negative numbers and for the negative zero. -/
def isNegative (x : Binary64) : Bool := decide (0x8000000000000000 ≤ x.bits.toNat)

/-- The eleven bits between sign and fraction. -/
def exponentField (x : Binary64) : Nat := x.bits.toNat >>> 52 % 2048

/-- The low 52 bits. -/
def fraction (x : Binary64) : Nat := x.bits.toNat % 0x10000000000000

/-- Every number except the infinities and NaN. -/
def isFinite (x : Binary64) : Bool := x.exponentField != 2047

def isNaN (x : Binary64) : Bool := x.exponentField == 2047 && x.fraction != 0

/-- Either of the two zeros. -/
def isZero (x : Binary64) : Bool := x.exponentField == 0 && x.fraction == 0

/-- The whole number that a finite magnitude is a power of two times: numbers with a zero
exponent field have no implicit leading bit. -/
def significand (x : Binary64) : Nat :=
  if x.exponentField = 0 then x.fraction else 0x10000000000000 + x.fraction

/-- The power of two of a finite magnitude. -/
def scale (x : Binary64) : Int := (max 1 x.exponentField : Nat) - 1075

/-- Attaches the sign of `x` to a magnitude. -/
def withSign (x : Binary64) (magnitude : Nat) : Int :=
  if x.isNegative then -(magnitude : Int) else magnitude

/-! ### Equality -/

/-- Equality as numbers: a NaN equals nothing, not even itself, and the two zeros are equal. -/
def numEq (x y : Binary64) : Bool :=
  !x.isNaN && !y.isNaN && (x == y || x.isZero && y.isZero)

/-! ### Integers -/

/-- The integer part of a finite number, the fraction cut off toward zero. -/
def truncate (x : Binary64) : Int :=
  match x.scale with
  | .ofNat k => x.withSign (x.significand <<< k)
  | .negSucc k => x.withSign (x.significand >>> (k + 1))

/-- Whether a finite number has no fractional part. -/
def isWhole (x : Binary64) : Bool :=
  match x.scale with
  | .ofNat _ => true
  | .negSucc k => x.significand % 1 <<< (k + 1) == 0

/-- The integer that a number equals, if there is one. -/
def toInt? (x : Binary64) : Option Int :=
  if x.isFinite && x.isWhole then some x.truncate else none

/-- The quotient of two naturals rounded to the nearest natural, a half to the even neighbour. -/
def divHalfEven (n d : Nat) : Nat :=
  let q := n / d
  let r := n % d
  if 2 * r < d then q
  else if d < 2 * r then q + 1
  else q + q % 2

/-- The 53 leading bits of a positive natural, rounded: between `2 ^ 52` and `2 ^ 53`. -/
def leadingBits (n : Nat) : Nat :=
  if n.log2 ≤ 52 then n <<< (52 - n.log2) else divHalfEven n (1 <<< (n.log2 - 52))

/-- The nearest number to a natural, a half to the even neighbour. A significand that rounds up
to `2 ^ 53` carries into the exponent field by itself; past the largest number comes infinity. -/
def ofNat (n : Nat) : Binary64 :=
  if n = 0 then ⟨0⟩
  else ⟨UInt64.ofNat (min (2047 <<< 52) ((1022 + n.log2) <<< 52 + leadingBits n))⟩

/-- The same magnitude with the sign bit set. -/
def negated (x : Binary64) : Binary64 :=
  ⟨UInt64.ofNat (x.bits.toNat % 0x8000000000000000 + 0x8000000000000000)⟩

/-- The nearest number to an integer. -/
def ofInt : Int → Binary64
  | .ofNat n => ofNat n
  | .negSucc n => (ofNat (n + 1)).negated

end Binary64

end Invocation
