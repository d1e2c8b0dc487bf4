import QuantumWorkbench.Decimal.Binary

/-!
# Shortest decimals

The decimal with the fewest digits that reads back as a given double, and of those the nearest.

## Contents
- `Decimal`: digits times a power of ten; `Decimal.trim` drops trailing zeros.
- `Binary.exact`: every finite double is a decimal, since a half is five tenths.
- `Binary.readsBack`: the decimals that round to a given double form an interval, which contains its
  ends exactly when the mantissa is even.
- `Binary.shortest`: the search. On each grid only the two neighbours of the exact value matter.
-/

namespace QuantumWorkbench

/-- The number `digits * 10 ^ exponent`. -/
structure Decimal where
  digits : Nat
  exponent : Int
deriving DecidableEq, Repr

namespace Decimal

/-- The number of decimal digits. -/
def length (d : Decimal) : Nat := (Nat.toDigits 10 d.digits).length

/-- Moves trailing zeros of the digits into the exponent. -/
def trim (d : Decimal) : Decimal :=
  if d.digits ≠ 0 ∧ d.digits % 10 = 0 then
    trim { digits := d.digits / 10, exponent := d.exponent + 1 }
  else d
termination_by d.digits
decreasing_by rename_i h; exact Nat.div_lt_self (Nat.pos_of_ne_zero h.1) (by decide)

/-- Compares a decimal with `n * 2 ^ j` exactly, by cross-multiplication. -/
def compareBinary (d : Decimal) (n : Nat) (j : Int) : Ordering :=
  compare (d.digits * Nat.pow 10 d.exponent.toNat * Nat.pow 2 (-j).toNat)
    (n * Nat.pow 2 j.toNat * Nat.pow 10 (-d.exponent).toNat)

end Decimal

namespace Binary

/-- The value as a decimal, exactly. -/
def exact (x : Binary) : Decimal :=
  if 0 ≤ x.exponent then { digits := x.mantissa * Nat.pow 2 x.exponent.toNat, exponent := 0 }
  else { digits := x.mantissa * Nat.pow 5 (-x.exponent).toNat, exponent := x.exponent }

/-- Is `d` among the numbers that round to `x`, to nearest and ties to even? The bounds lie halfway
to the neighbours, in quarters of the unit. -/
def readsBack (x : Binary) (d : Decimal) : Bool :=
  let below := d.compareBinary (4 * x.mantissa - if x.narrowBelow then 1 else 2) (x.exponent - 2)
  let above := d.compareBinary (4 * x.mantissa + 2) (x.exponent - 2)
  let ends := x.mantissa % 2 = 0
  (below = .gt || (ends && below = .eq)) && (above = .lt || (ends && above = .eq))

/-- The exact value cut after its first `n` digits, and the next point of that grid. -/
def neighbours (x : Binary) (n : Nat) : Decimal × Decimal :=
  let e := x.exact
  let cut := e.length - n
  let d := e.digits / Nat.pow 10 cut
  ({ digits := d, exponent := e.exponent + cut }, { digits := d + 1, exponent := e.exponent + cut })

/-- The one of the two neighbours on the `n`-digit grid that reads back; of two, the nearer, and the
even one if the value lies halfway. -/
def nearest? (x : Binary) (n : Nat) : Option Decimal :=
  let (lo, hi) := x.neighbours n
  match x.readsBack lo, x.readsBack hi with
  | true, true =>
    -- twice the value against the sum of the neighbours
    match ({ lo with digits := lo.digits + hi.digits } : Decimal).compareBinary x.mantissa
        (x.exponent + 1) with
    | .gt => some lo
    | .lt => some hi
    | .eq => some (if lo.digits % 2 = 0 then lo else hi)
  | true, false => some lo
  | false, true => some hi
  | false, false => none

/-- The shortest decimal that reads back, without trailing zeros. Seventeen digits
always suffice. -/
def shortest (x : Binary) : Decimal :=
  if x.mantissa = 0 then { digits := 0, exponent := 0 }
  else (((List.range 17).findSome? fun i => x.nearest? (i + 1)).getD x.exact).trim

end Binary

end QuantumWorkbench
