/-!
# Doubles as exact numbers

A finite double is a whole number of units, the unit a power of two. Everything that is printed of a
double is decided on that whole number.

## Contents
- `Binary`: the magnitude of a finite double, with the gap to its lower neighbour.
- `FloatClass`: a double as a sign with a magnitude, or one of the values that are no number.
-/

namespace QuantumWorkbench

/-- The magnitude `mantissa * 2 ^ exponent` of a finite double. -/
structure Binary where
  mantissa : Nat
  exponent : Int
  /-- The gap to the double below is half the gap to the double above. -/
  narrowBelow : Bool := false
deriving DecidableEq, Repr

/-- What the bits of a double stand for. -/
inductive FloatClass where
  | nan
  | infinite (negative : Bool)
  | finite (negative : Bool) (magnitude : Binary)
deriving DecidableEq, Repr

/-- Splits the 64 bits: one of sign, eleven of exponent, fifty-two of fraction. -/
def FloatClass.ofBits (bits : UInt64) : FloatClass :=
  let n : Nat := bits.toNat
  let negative := Nat.pow 2 63 ≤ n
  let e : Nat := n / Nat.pow 2 52 % Nat.pow 2 11
  let f : Nat := n % Nat.pow 2 52
  if e = 2047 then
    if f = 0 then .infinite negative else .nan
  else if e = 0 then .finite negative { mantissa := f, exponent := -1074 }
  else .finite negative
    { mantissa := Nat.pow 2 52 + f, exponent := (e : Int) - 1075, narrowBelow := f = 0 && 1 < e }

def FloatClass.ofFloat (x : Float) : FloatClass := ofBits x.toBits

example : FloatClass.ofFloat (-0.0) = .finite true { mantissa := 0, exponent := -1074 } := by
  decide +kernel

end QuantumWorkbench
