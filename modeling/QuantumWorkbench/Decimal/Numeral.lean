/-!
# Reading decimal numerals

## Contents
- `digitsValue`, `numeral?`: the value of a run of digits.
- `word?`: an unsigned word in a given number of bits, as settings and commands write it.
- `nearestFloat`: the double nearest to a number in scientific notation.
-/

namespace QuantumWorkbench

/-- The value of decimal digits, most significant first. -/
def digitsValue (digits : List Char) : Nat :=
  digits.foldl (fun n c => 10 * n + (c.toNat - '0'.toNat)) 0

/-- The value of at least one digit and nothing else. -/
def numeral? (cs : List Char) : Option Nat :=
  if cs ≠ [] ∧ cs.all Char.isDigit then some (digitsValue cs) else none

/-- A number below `2 ^ bits`: digits, with a plus before them if one likes. -/
def word? (bits : Nat) (s : String) : Option Nat :=
  let digits := match s.toList with
    | '+' :: rest => rest
    | cs => cs
  (numeral? digits).filter (· < Nat.pow 2 bits)

/-- The double nearest to `m * 10 ^ e`, infinite beyond the range. -/
def nearestFloat (m : Nat) (e : Int) : Float :=
  -- the power of ten of the leading digit; far outside the range nothing else matters
  let lead := (Nat.toDigits 10 m).length + e
  if m = 0 ∨ lead < -400 then 0.0
  else if 400 < lead then 1.0 / 0.0
  else Float.ofScientific m (e < 0) e.natAbs

example : word? 32 "+4294967295" = some 4294967295 := by decide
example : word? 32 "4294967296" = none := by decide

end QuantumWorkbench
