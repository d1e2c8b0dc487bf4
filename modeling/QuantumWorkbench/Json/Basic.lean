import QuantumWorkbench.Keyed

/-!
# JSON values

## Contents
- `Json`: a value. Numbers without a fraction or an exponent are whole if they fit 64 bits, signed
  or unsigned; all others are doubles.
- `Json.field?`, `Json.items?`, `Json.integer?`: the views through which untrusted values are read.
- `Json.unusable`: stands for what is well written and has no value.
- `Json.canonical`: the value with its keys in order, where the last of equal keys is kept.
-/

namespace QuantumWorkbench

/-- A JSON value, with the fields of an object as a list. -/
inductive Json where
  | null
  | bool (value : Bool)
  | int (value : Int)
  | real (value : Float)
  | str (value : String)
  | arr (items : List Json)
  | obj (fields : List (String × Json))
deriving Repr, Inhabited

namespace Json

/-- The value of a key, if the value is an object that has it. -/
def field? (key : String) : Json → Option Json
  | obj fields => fields.lookup key
  | _ => none

def items? : Json → Option (List Json)
  | arr items => some items
  | _ => none

def isObject : Json → Bool
  | obj _ => true
  | _ => false

def string? : Json → Option String
  | str s => some s
  | _ => none

/-- A whole number that fits 64 signed bits. -/
def integer? : Json → Option Int
  | int n => if Int64.minValue.toInt ≤ n ∧ n ≤ Int64.maxValue.toInt then some n else none
  | _ => none

/-- What stands for a scalar that is well written and has no value: a number beyond the range of
doubles, or a string with half a surrogate pair. No text writes this value, and no reader of typed
values takes it. -/
def unusable : Json := real (0.0 / 0.0)

def isUnusable : Json → Bool
  | real x => x.isNaN
  | _ => false

mutual

/-- The same value with all keys in ascending order; of equal keys the last is kept. -/
def canonical : Json → Json
  | arr items => arr (canonicalItems items)
  | obj fields => obj (Keyed.ofList (canonicalFields fields))
  | v => v

/-- The items in canonical form. -/
def canonicalItems : List Json → List Json
  | [] => []
  | v :: rest => canonical v :: canonicalItems rest

/-- The fields with their values in canonical form. -/
def canonicalFields : List (String × Json) → List (String × Json)
  | [] => []
  | (k, v) :: rest => (k, canonical v) :: canonicalFields rest

end

end Json

end QuantumWorkbench
