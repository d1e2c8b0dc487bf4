import QuantumWorkbench.Json.Printer
import QuantumWorkbench.Text.Literal

/-!
# Reading typed values out of JSON

Each reader takes a value and either understands it or says what it found in place of what it
expected.

## Contents
- `ShapeError`: why a value does not have the expected shape.
- `Json.readIndex`, `Json.readDouble`, `Json.readString` and so on: scalars, lists, and names out of
  a fixed set.
- `Field`, `Json.readRecord`: records, written as objects or as arrays of their fields in order. The
  first bad field in the order of the text is reported, and missing fields after that.
-/

namespace QuantumWorkbench

/-- The kind of value that was found. -/
inductive Found where
  | null
  | bool (value : Bool)
  | int (value : Int)
  | real (value : Float)
  | str (value : String)
  | sequence
  | map
deriving DecidableEq, Repr

def Found.text : Found → String
  | null => "null"
  | bool b => s!"boolean `{b}`"
  | int n => s!"integer `{n}`"
  | real x => s!"floating point `{numberText x}`"
  | str s => "string " ++ literalText s
  | sequence => "sequence"
  | map => "map"

/-- Why a value does not have the expected shape. -/
inductive ShapeError where
  | wrongType (found : Found) (expected : String)
  | outOfRange (value : Int) (expected : String)
  /-- A name given as an object must have exactly one key. -/
  | notSingleKey
  | missingField (name : String)
  | duplicateField (name : String)
  | unknownVariant (name : String) (known : List String)
  | tooShort (length : Nat) (record : String) (size : Nat)
  | tooLong (length : Nat)
  /-- The parts have their shapes, and do not make up a value. -/
  | inconsistent (reason : String)
deriving DecidableEq, Repr

/-- The names a message offers. -/
def knownText : List String → String
  | [] => "there are no variants"
  | [a] => s!"expected `{a}`"
  | [a, b] => s!"expected `{a}` or `{b}`"
  | names => "expected one of " ++ ", ".intercalate (names.map fun n => s!"`{n}`")

def ShapeError.message : ShapeError → String
  | wrongType found expected => s!"invalid type: {found.text}, expected {expected}"
  | outOfRange n expected => s!"invalid value: integer `{n}`, expected {expected}"
  | notSingleKey => "invalid value: map, expected map with a single key"
  | missingField name => s!"missing field `{name}`"
  | duplicateField name => s!"duplicate field `{name}`"
  | unknownVariant name [] => s!"unknown variant `{name}`, there are no variants"
  | unknownVariant name known => s!"unknown variant `{name}`, {knownText known}"
  | tooShort n record size =>
    let elements := if size = 1 then "element" else "elements"
    s!"invalid length {n}, expected struct {record} with {size} {elements}"
  | tooLong n => s!"invalid length {n}, expected fewer elements in array"
  | inconsistent reason => reason

namespace Json

def found : Json → Found
  | null => .null
  | bool b => .bool b
  | int n => .int n
  | real x => .real x
  | str s => .str s
  | arr _ => .sequence
  | obj _ => .map

/-- The answer to a value of the wrong type. -/
def mismatch {α : Type} (v : Json) (expected : String) : Except ShapeError α :=
  .error (.wrongType v.found expected)

/-! ## Scalars and lists -/

/-- A whole number from `0` to below `2 ^ bits`. -/
def readWord (bits : Nat) (v : Json) : Except ShapeError Nat :=
  match v with
  | int n =>
    if 0 ≤ n ∧ n < Nat.pow 2 bits then .ok n.toNat else .error (.outOfRange n s!"u{bits}")
  | _ => v.mismatch s!"u{bits}"

def readIndex (v : Json) : Except ShapeError UInt32 := UInt32.ofNat <$> v.readWord 32

def readCount (v : Json) : Except ShapeError UInt64 := UInt64.ofNat <$> v.readWord 64

/-- A double. Whole numbers are rounded to the nearest one. -/
def readDouble (v : Json) : Except ShapeError Float :=
  match v with
  | real x => if v.isUnusable then v.mismatch "f64" else .ok x
  | int n => .ok (Float.ofInt n)
  | _ => v.mismatch "f64"

def readString (v : Json) : Except ShapeError String :=
  match v with
  | str s => .ok s
  | _ => v.mismatch "a string"

/-- A value or null. -/
def readOption {α : Type} (read : Json → Except ShapeError α) (v : Json) :
    Except ShapeError (Option α) :=
  match v with
  | null => .ok none
  | _ => some <$> read v

def readList {α : Type} (read : Json → Except ShapeError α) (v : Json) :
    Except ShapeError (List α) :=
  match v with
  | arr items => items.mapM read
  | _ => v.mismatch "a sequence"

/-- A name out of a fixed set, also written as an object with the name as its only key and the value
null. -/
def readVariant {α : Type} (known : List String) (ofName? : String → Option α) (v : Json) :
    Except ShapeError α :=
  let pick (name : String) : Except ShapeError α :=
    match ofName? name with
    | some a => .ok a
    | none => .error (.unknownVariant name known)
  match v with
  | str name => pick name
  | obj [(name, content)] => do
    let a ← pick name
    match content with
    | null => .ok a
    | _ => content.mismatch "unit"
  | obj _ => .error .notSingleKey
  | _ => v.mismatch "string or map"

end Json

/-! ## Records -/

/-- A field of a record: its name, its reader, and the value that stands for a missing one. -/
structure Field (α : Type) where
  name : String
  read : Json → Except ShapeError α
  missing? : Option α := none

/-- What a record has to know of a field before the field is used. -/
structure FieldCheck where
  name : String
  optional : Bool
  check : Json → Except ShapeError Unit

namespace Field

variable {α : Type}

def toCheck (f : Field α) : FieldCheck where
  name := f.name
  optional := f.missing?.isSome
  check v := (fun _ => ()) <$> f.read v

/-- The value of the field among the fields of a record. -/
def get (f : Field α) (fields : List (String × Json)) : Except ShapeError α :=
  match fields.lookup f.name, f.missing? with
  | some v, _ => f.read v
  | none, some a => .ok a
  | none, none => .error (.missingField f.name)

end Field

namespace Json

/-- Checks the fields of an object in the order of the text. `seen` holds the known names so far.
Unknown names are passed over. -/
def checkFields (known : List FieldCheck) : List String → List (String × Json) →
    Except ShapeError Unit
  | _, [] => .ok ()
  | seen, (k, v) :: rest =>
    match known.find? (·.name = k) with
    | none => checkFields known seen rest
    | some f => do
      if k ∈ seen then throw (.duplicateField k)
      f.check v
      checkFields known (k :: seen) rest

/-- Names the items of an array by the fields in order, from item number `i` on. Optional fields at
the end may be missing. -/
def nameItems (record : String) (size : Nat) : Nat → List FieldCheck → List Json →
    Except ShapeError (List (String × Json))
  | _, [], [] => .ok []
  | i, [], extra => .error (.tooLong (i + extra.length))
  | i, f :: fs, [] =>
    if f.optional then nameItems record size i fs [] else .error (.tooShort i record size)
  | i, f :: fs, v :: rest => do
    f.check v
    return (f.name, v) :: (← nameItems record size (i + 1) fs rest)

/-- A record with the given fields, out of which `build` makes the result. -/
def readRecord {α : Type} (record : String) (known : List FieldCheck)
    (build : List (String × Json) → Except ShapeError α) (v : Json) : Except ShapeError α :=
  match v with
  | obj fields => do
    checkFields known [] fields
    build fields
  | arr items => do build (← nameItems record known.length 0 known items)
  | _ => v.mismatch s!"struct {record}"

end Json

end QuantumWorkbench
