import QuantumWorkbench.Evaluation.Evaluator
import QuantumWorkbench.Settings.Basic
import QuantumWorkbench.Simulator.Sampling

/-!
# The simulator

Evaluates circuits in this process, by following the state vector of the register.

## Contents
- `Circuit.schedule`: the gates in the order of their steps, those of one step in list order.
- `Circuit.measuredQubits`: the qubits that are measured at any step.
- `Circuit.finalState`: the state vector behind the last gate.
- `Simulator`: a limit on the register, a number of shots and the numbers drawn for them.
- `Simulator.check`: what the simulator refuses. `Simulator.evaluate` checks, then simulates.
-/

namespace QuantumWorkbench

namespace Circuit

/-- The gates by step. Gates of one step keep their order. -/
def schedule (c : Circuit) : List Gate :=
  c.gates.mergeSort fun a b => a.step ≤ b.step

/-- The numbers of the qubits that a gate measures, in ascending order and each of them once. Inside
the register these are the targets along the schedule, sorted and without repetitions. -/
def measuredQubits (c : Circuit) : List Nat :=
  (List.range c.qubitCount.toNat).filter fun q =>
    c.gates.any fun g => g.kind = .measure ∧ g.target.toNat = q

/-- The state of the register behind the last gate. -/
def finalState (c : Circuit) : Statevector c.qubitCount.toNat :=
  c.schedule.foldl (fun v g => v.apply g.operation) (.ground _)

/-- The first control outside the register, in the gates from number `i` on. -/
def checkControls (n : Index) : Nat → List Gate → Except Fault Unit
  | _, [] => .ok ()
  | i, g :: rest =>
    match g.control?.filter (n ≤ ·) with
    | some control => .error (.invalidQubit control.toNat i)
    | none => checkControls n (i + 1) rest

end Circuit

/-- A simulator with its settings. -/
structure Simulator where
  maxQubits : Index := 20
  shots : UInt32 := 1024
  draws : Draws

namespace Simulator

/-- The simulator that settings describe. -/
def ofSettings (s : Settings) (draws : Draws) : Simulator :=
  { maxQubits := s.maxQubits, shots := s.shots, draws }

/-- Refuses registers beyond the limit, then targets outside the register, then controls
outside it. -/
def check (s : Simulator) (c : Circuit) : Except Fault Unit := do
  if s.maxQubits < c.qubitCount then
    throw (.malformed (.registerTooLarge c.qubitCount s.maxQubits))
  c.validate
  Circuit.checkControls c.qubitCount 0 c.gates

/-- Simulates a circuit that passed the check. Without measurements no shots are taken. -/
def run (s : Simulator) (c : Circuit) : Evaluation :=
  let final := c.finalState
  let measured := c.measuredQubits
  { states := final.qubitStates
    measurements :=
      if measured.isEmpty then .empty
      else countOutcomes measured s.shots.toNat fun k => final.sample (s.draws k) }

/-- The answer to a circuit. -/
def evaluate (s : Simulator) (c : Circuit) : Answer := do
  (s.check c).mapError .invalidCircuit
  return s.run c

/-- The simulator as an evaluator. -/
def evaluator {m : Type → Type} [Monad m] (s : Simulator) : Evaluator m where
  name := "local"
  evaluate c := pure (s.evaluate c)

end Simulator

end QuantumWorkbench
