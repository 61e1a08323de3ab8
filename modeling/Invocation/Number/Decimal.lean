/-
# Numbers as text

Two ways to write a number, both with its shortest digits. `Binary64.plainText`
is positional at every magnitude and leaves out the fraction of a whole number.
`Binary64.debugText` always shows a point or an exponent: positional from `1e-4`
up to but not including `1e16`, with an exponent elsewhere.

Key definitions: `Binary64.plainText`, `Binary64.debugText`.
-/
import Invocation.Number.Shortest

namespace Invocation
namespace Binary64

namespace Decimal

/-- The digits of the coefficient. -/
def digits (d : Decimal) : String := toString d.coefficient

/-- How many digits stand before the point; zero or less when the number is below a tenth or one. -/
def wholeDigits (d : Decimal) : Int := d.digits.length + d.exponent

/-- Positional writing; `wholeEnd` follows a number that has no fraction. -/
def positional (d : Decimal) (wholeEnd : String) : String :=
  if 0 ≤ d.exponent then
    d.digits ++ String.ofList (List.replicate d.exponent.toNat '0') ++ wholeEnd
  else if 0 < d.wholeDigits then
    let n := d.wholeDigits.toNat
    String.ofList (d.digits.toList.take n) ++ "." ++ String.ofList (d.digits.toList.drop n)
  else
    "0." ++ String.ofList (List.replicate (-d.wholeDigits).toNat '0') ++ d.digits

/-- One digit, the rest after a point if there is a rest, and the exponent. -/
def scientific (d : Decimal) : String :=
  let rest := d.digits.toList.drop 1
  let point := if rest.isEmpty then "" else "."
  String.ofList (d.digits.toList.take 1) ++ point ++ String.ofList rest ++ "e" ++
    toString (d.wholeDigits - 1)

end Decimal

/-- The text of a number that is not finite. -/
def specialText (x : Binary64) : String :=
  if x.isNaN then "NaN" else if x.isNegative then "-inf" else "inf"

/-- A minus sign for negative numbers and the negative zero. -/
def signText (x : Binary64) : String := if x.isNegative then "-" else ""

/-- Positional digits at every magnitude, whole numbers without a fraction. -/
def plainText (x : Binary64) : String :=
  if x.isFinite then x.signText ++ x.shortest.positional "" else x.specialText

/-- Digits that always show a point or an exponent; the exponent form is for magnitudes below
`1e-4` or from `1e16` on. -/
def debugText (x : Binary64) : String :=
  if x.isFinite then
    let d := x.shortest
    let positional := x.isZero || decide (-3 ≤ d.wholeDigits ∧ d.wholeDigits ≤ 16)
    x.signText ++ if positional then d.positional ".0" else d.scientific
  else x.specialText

end Binary64
end Invocation
