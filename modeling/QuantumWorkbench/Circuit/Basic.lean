import QuantumWorkbench.Circuit.Gate

/-!
# Circuits

A circuit is a list of gates over a register of qubits, with the number of logical steps that the
gates span.

## Contents
- `extent`: one past the largest of some indices, unless the largest index is among them.
- `Circuit`: the value itself. Any register size and any step count can be written down, because
  text read from a script may be under-specified; `QuantumWorkbench.Circuit.Check` says which
  circuits are sound.
- `Circuit.upTo`: the circuit as of its first steps, the unit in which a debugger asks for answers.
-/

namespace QuantumWorkbench

/-- The position of the last occurrence of `x`. -/
def lastIdxOf? (x : Index) (values : List Index) : Option Nat :=
  (values.zipIdx.filter (·.1 = x)).getLast?.map (·.2)

/-- One past the largest of the values, and `0` for no values. The largest index has nothing past
it: if it occurs, the position of its last occurrence is the error. -/
def extent (values : List Index) : Except Nat Index :=
  match lastIdxOf? Index.last values with
  | some i => .error i
  | none => .ok (values.foldl (fun bound v => max bound (v + 1)) 0)

/-- A gate list over a register of `qubitCount` qubits. -/
structure Circuit where
  gates : List Gate
  qubitCount : Index
  stepCount : Index
  name : String
  description : Option String := none
deriving DecidableEq, Repr

namespace Circuit

/-- The number of steps that the gates span. The error is the position of the last gate at the
largest step. -/
def span (gates : List Gate) : Except Nat Index :=
  extent (gates.map (·.step))

/-- The gates at `step`, in list order. -/
def gatesAt (c : Circuit) (step : Index) : List Gate :=
  c.gates.filter (·.step = step)

/-- The circuit as of its first `limit` steps. The step count is that of the gates that remain, so
empty steps at the end are dropped. The gates that remain lie before `limit`, so they always span a
number of steps. -/
def upTo (c : Circuit) (limit : Index) : Circuit :=
  let kept := c.gates.filter (·.step < limit)
  { c with gates := kept, stepCount := (span kept).toOption.getD limit }

/-- The size of a circuit in one line: qubits, steps and gates. -/
def sizeText (c : Circuit) : String :=
  s!"{c.qubitCount} qubits, {c.stepCount} steps, {c.gates.length} gates"

end Circuit

end QuantumWorkbench
