import QuantumWorkbench.Decimal.Numeral

/-!
# YAML scalars

## Contents
- `Yaml.Scalar`: a text that stands plain or between quotes.
- `Yaml.Scalar.isNull`, `Yaml.Scalar.word?`: what plain scalars stand for. Between quotes a scalar
  is its text and nothing else.
-/

namespace QuantumWorkbench.Yaml

/-- A scalar, plain or between quotes. -/
structure Scalar where
  text : String
  isPlain : Bool
deriving DecidableEq, Repr

/-- The scalar of a value that is left out. -/
def Scalar.nothing : Scalar := { text := "", isPlain := true }

/-- Does the scalar say that there is no value? -/
def Scalar.isNull (s : Scalar) : Bool :=
  s.isPlain && ["", "~", "null", "Null", "NULL"].contains s.text

/-! ## Whole numbers -/

/-- The value of at least one digit in the given base, and of nothing else. -/
def baseNumeral? (base : Nat) (digits : List Char) : Option Nat :=
  let value (c : Char) : Nat :=
    if c.isDigit then c.toNat - '0'.toNat
    else if c.isAlpha then c.toLower.toNat - 'a'.toNat + 10
    else base
  if digits.isEmpty ∨ digits.any (base ≤ value ·) then none
  else some (digits.foldl (fun n c => base * n + value c) 0)

/-- An unsigned whole number: decimal without leading zeros, or with its base before it. -/
def unsigned? (cs : List Char) : Option Nat :=
  let cs := match cs with
    | '+' :: rest => rest
    | rest => rest
  match cs with
  | '0' :: 'x' :: rest => baseNumeral? 16 rest
  | '0' :: 'o' :: rest => baseNumeral? 8 rest
  | '0' :: 'b' :: rest => baseNumeral? 2 rest
  | '0' :: _ :: _ => none
  | _ => numeral? cs

/-- A whole number below `2 ^ bits`. -/
def Scalar.word? (bits : Nat) (s : Scalar) : Option Nat :=
  if s.isPlain then (unsigned? s.text.toList).filter (· < Nat.pow 2 bits) else none

example : Scalar.word? 32 { text := "0x10", isPlain := true } = some 16 := by decide
example : Scalar.word? 32 { text := "010", isPlain := true } = none := by decide
example : Scalar.word? 32 { text := "10", isPlain := false } = none := by decide

end QuantumWorkbench.Yaml
