import QuantumWorkbench.Circuit.Gate
import QuantumWorkbench.Keyed

/-!
# Evaluations

What an evaluator says of a circuit: a state for every qubit, and how often each outcome of the
measurements occurred.

## Contents
- `QubitState`: the two amplitudes of a qubit by itself; `QubitState.groundStates` is the register
  before the first gate.
- `Counts`: outcomes with their counts, in the order of the outcomes.
- `Counts.total`, `Counts.mostFrequent?`: sum and maximum.
- `Evaluation`: both together.
-/

namespace QuantumWorkbench

/-! ## States -/

/-- The amplitudes of one qubit. They are as the evaluator reports them and need not
be normalised. -/
structure QubitState where
  qubit : Index
  zero : Float
  one : Float
deriving DecidableEq, Repr

namespace QubitState

/-- A qubit that is certainly `0`. -/
def ground (qubit : Index) : QubitState := { qubit, zero := 1.0, one := 0.0 }

/-- A register of `n` qubits before the first gate. -/
def groundStates (n : Index) : List QubitState :=
  (List.range n.toNat).map fun q => ground (UInt32.ofNat q)

/-- The probability of reading `1`. -/
def probabilityOne (s : QubitState) : Float := s.one * s.one

end QubitState

/-! ## Counts -/

/-- How often each outcome occurred. Outcomes are bit strings, listed by code point. -/
structure Counts where
  entries : List (String × UInt64)
  ascending : Keyed.Ascending entries
deriving DecidableEq, Repr

namespace Counts

/-- Nothing was measured. -/
def empty : Counts := { entries := [], ascending := .nil }

instance : Inhabited Counts := ⟨empty⟩

/-- Sets the count of an outcome. -/
def set (c : Counts) (outcome : String) (n : UInt64) : Counts where
  entries := Keyed.insert outcome n c.entries
  ascending := Keyed.ascending_insert c.ascending

/-- The counts of a list; of entries with one outcome the last is kept. -/
def ofList (entries : List (String × UInt64)) : Counts where
  entries := Keyed.ofList entries
  ascending := Keyed.ascending_ofList entries

/-- The count of an outcome, `0` if it did not occur. -/
def count (c : Counts) (outcome : String) : UInt64 := (c.entries.lookup outcome).getD 0

/-- Counts one more occurrence. -/
def add (c : Counts) (outcome : String) : Counts := c.set outcome (c.count outcome + 1)

/-- The number of shots, as a word of 64 bits. -/
def total (c : Counts) : UInt64 := c.entries.foldl (fun sum e => sum + e.2) 0

/-- The first of the entries with the largest count. -/
def mostFrequent? (c : Counts) : Option (String × UInt64) :=
  c.entries.foldl
    (fun best e =>
      match best with
      | none => some e
      | some b => if b.2 < e.2 then some e else some b)
    none

end Counts

/-! ## Evaluations -/

/-- The answer of an evaluator. -/
structure Evaluation where
  measurements : Counts := .empty
  states : List QubitState := []
deriving DecidableEq, Repr

namespace Evaluation

/-- A register of `n` qubits on which nothing has happened. -/
def initial (n : Index) : Evaluation := { states := QubitState.groundStates n }

/-- The first state that is reported for a qubit. -/
def stateOf? (e : Evaluation) (qubit : Index) : Option QubitState :=
  e.states.find? (·.qubit = qubit)

end Evaluation

end QuantumWorkbench
