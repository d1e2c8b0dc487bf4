import QuantumWorkbench.Circuit.Basic

/-!
# Sound circuits

The invariants of the circuit model and the constructors that enforce them.

## Contents
- `CircuitError`: the ways in which a circuit breaks an invariant.
- `Circuit.check`: the register is not empty, every gate lies inside it, no two gates share a place,
  and the step count is the one that the gates span. The first fault in list order is reported.
- `Circuit.ofGates`, `Circuit.fitting`: checked construction over a given register and over the
  smallest one that holds the gates.
-/

namespace QuantumWorkbench

/-- An axis of the grid. -/
inductive Axis where
  | qubit
  | step
deriving DecidableEq, Repr

def Axis.name : Axis → String
  | qubit => "qubit"
  | step => "step"

/-- An invariant that a circuit breaks. Gates are named by their position in the list. -/
inductive CircuitError where
  | qubitOutOfRange (qubit : Index) (gate : Nat) (qubitCount : Index)
  | controlOutOfRange (control : Index) (gate : Nat) (qubitCount : Index)
  /-- Another gate occupies the place already. -/
  | slotOccupied (slot : Position) (gate : Nat)
  | stepCountMismatch (declared derived : Index)
  | emptyRegister
  /-- The gate is at the largest index, so no count covers it. -/
  | indexOverflow (gate : Nat) (axis : Axis)
deriving DecidableEq, Repr

def CircuitError.message : CircuitError → String
  | qubitOutOfRange qubit gate n =>
    s!"Qubit {qubit} at gate {gate} is outside a register of {n} qubits"
  | controlOutOfRange control gate n =>
    s!"Control {control} at gate {gate} is outside a register of {n} qubits"
  | slotOccupied slot gate =>
    s!"Gate {gate} overlaps another gate on qubit {slot.qubit} at step {slot.step}"
  | stepCountMismatch declared derived =>
    s!"Circuit declares {declared} steps but its gates span {derived}"
  | emptyRegister => "Circuit must have at least one qubit"
  | indexOverflow gate axis => s!"Gate {gate} uses the largest representable {axis.name} index"

namespace Circuit

/-- The number of steps that the gates span, as a checked result. -/
def checkedSpan (gates : List Gate) : Except CircuitError Index :=
  (span gates).mapError (.indexOverflow · .step)

/-- Takes the places of gate number `i`, unless one of them is taken already. -/
def occupy (i : Nat) : List Position → List Position → Except CircuitError (List Position)
  | taken, [] => .ok taken
  | taken, slot :: rest =>
    if slot ∈ taken then .error (.slotOccupied slot i) else occupy i (slot :: taken) rest

/-- Checks the gates from number `i` on, given the places taken by those before. -/
def checkGates (n : Index) : Nat → List Position → List Gate → Except CircuitError Unit
  | _, _, [] => .ok ()
  | i, taken, g :: rest =>
    if n ≤ g.target then .error (.qubitOutOfRange g.target i n)
    else match g.control?.filter (n ≤ ·) with
      | some c => .error (.controlOutOfRange c i n)
      | none => do
        let taken ← occupy i taken g.slots
        checkGates n (i + 1) taken rest

/-- Every invariant of the model, the first broken one as an error. -/
def check (c : Circuit) : Except CircuitError Unit := do
  if c.qubitCount = 0 then throw .emptyRegister
  checkGates c.qubitCount 0 [] c.gates
  let derived ← checkedSpan c.gates
  if derived ≠ c.stepCount then throw (.stepCountMismatch c.stepCount derived)

/-- The circuit with these gates over `n` qubits, if it is sound. -/
def ofGates (name : String) (n : Index) (gates : List Gate) : Except CircuitError Circuit := do
  let stepCount ← checkedSpan gates
  let c : Circuit := { gates, qubitCount := n, stepCount, name }
  c.check
  return c

/-- The circuit with these gates over the smallest register that holds them, and over one qubit
if there are none. -/
def fitting (name : String) (gates : List Gate) : Except CircuitError Circuit := do
  let widest ← (extent (gates.map (·.maxQubit))).mapError (.indexOverflow · .qubit)
  ofGates name (max 1 widest) gates

end Circuit

end QuantumWorkbench
