import QuantumWorkbench.Decimal.Binary

/-!
# Fixed places

Doubles written with a set number of decimal places. The exact binary value is rounded, and a value
halfway between two grid points goes to the even one.

## Contents
- `roundDiv`: a quotient rounded to a whole number.
- `fixedText`: the text of a double with so many places.
-/

namespace QuantumWorkbench

/-- The whole number nearest to `num / den`, and the even one of two. -/
def roundDiv (num den : Nat) : Nat :=
  let q := num / den
  match compare (2 * (num % den)) den with
  | .lt => q
  | .gt => q + 1
  | .eq => if q % 2 = 0 then q else q + 1

/-- The magnitude in units of the last of `places` decimal places. -/
def Binary.roundPlaces (x : Binary) (places : Nat) : Nat :=
  roundDiv (x.mantissa * Nat.pow 2 x.exponent.toNat * Nat.pow 10 places)
    (Nat.pow 2 (-x.exponent).toNat)

/-- A whole number of units of the last place, with the point set. -/
def placesText (places units : Nat) : String :=
  let whole := toString (units / Nat.pow 10 places)
  let fraction := toString (units % Nat.pow 10 places)
  if places = 0 then whole
  else whole ++ "." ++ "".pushn '0' (places - fraction.length) ++ fraction

/-- A double with `places` decimal places. The sign of a negative zero is written. -/
def fixedText (places : Nat) (x : Float) : String :=
  match FloatClass.ofFloat x with
  | .nan => "NaN"
  | .infinite negative => if negative then "-inf" else "inf"
  | .finite negative magnitude =>
    (if negative then "-" else "") ++ placesText places (magnitude.roundPlaces places)

example : fixedText 1 0.25 = "0.2" := by decide +kernel
example : fixedText 4 (-0.0) = "-0.0000" := by decide +kernel

end QuantumWorkbench
