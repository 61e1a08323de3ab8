/-
# Array indices

Which property names are positions of an array: the decimal forms of the numbers from `0` to
`4294967294`. A name is read as a number of 32 bits first, which lets a plus sign and leading
zeros through; it is an index if that number, written out, gives the name back.

Key definitions: `readUInt32?`, `arrayIndex?`, `maxArrayIndex`.
-/
namespace Invocation

/-- The largest position of an array. The number after it still has 32 bits, but is a name like
any other. -/
def maxArrayIndex : Nat := 4294967294

/-- The value of a digit. -/
def digitValue (c : Char) : Nat := c.toNat - '0'.toNat

/-- The number that a list of decimal digits writes, after the digits of `n`. -/
def digitsValue : Nat → List Char → Nat
  | n, [] => n
  | n, c :: cs => digitsValue (10 * n + digitValue c) cs

/-- The number that a list of characters writes after the digits of `n`, if they all are decimal
digits and no number on the way leaves 32 bits. -/
def readDigits? : UInt32 → List Char → Option UInt32
  | n, [] => some n
  | n, c :: cs =>
    let next := 10 * n.toNat + digitValue c
    if c.isDigit && next < UInt32.size then readDigits? next.toUInt32 cs else none

/-- The number of 32 bits that a text writes: decimal digits, at least one, and a plus sign in front
of them if there is one. Leading zeros count for nothing. -/
def readUInt32? (s : String) : Option UInt32 :=
  match s.toList with
  | [] => none
  | ['+'] => none
  | '+' :: cs => readDigits? 0 cs
  | cs => readDigits? 0 cs

/-- The array position that a name writes in canonical form. -/
def arrayIndex? (name : String) : Option Nat :=
  (readUInt32? name).bind fun index =>
    if maxArrayIndex < index.toNat || toString index != name then none else some index.toNat

end Invocation
