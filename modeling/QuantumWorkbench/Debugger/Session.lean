import QuantumWorkbench.Circuit.Fault
import QuantumWorkbench.Evaluation.Basic

/-!
# Debug sessions

One stepped execution of a circuit, and the view of it that others get to see.

## Contents
- `toggle`: a set of steps as an ascending list, with one step put in or taken out.
- `Session`: the circuit under debug, how many of its steps are executed, and what the evaluator
  last said.
- `Snapshot`: what is shown of a session, or of its absence.
-/

namespace QuantumWorkbench

/-! ## Sets of steps -/

/-- Puts a step in its place. -/
def insertStep (step : Index) : List Index → List Index
  | [] => [step]
  | s :: rest => if step < s then step :: s :: rest else s :: insertStep step rest

/-- Takes a step out if it is there, and puts it in if it is not. -/
def toggle (step : Index) (steps : List Index) : List Index :=
  if step ∈ steps then steps.filter (· ≠ step) else insertStep step steps

/-! ## Sessions -/

/-- A stepped execution of a circuit. -/
structure Session where
  circuit : Circuit
  /-- Tells sessions apart. Later sessions have larger numbers, without a bound: a word of 64 bits
  would hold them for as many as `2 ^ 64` starts, which are out of reach. -/
  generation : Nat
  /-- The breakpoints in ascending order. -/
  breakpoints : List Index := []
  /-- The number of executed steps. -/
  cursor : Index := 0
  /-- Why the latest evaluation failed, if it did. -/
  lastError : Option Fault := none
  states : List QubitState
  measurements : Counts := .empty
  /-- An operation is waiting for the evaluator. -/
  inFlight : Bool := false
deriving DecidableEq, Repr

namespace Session

/-- A session before its first step. -/
def opening (circuit : Circuit) (generation : Nat) : Session :=
  { circuit, generation, states := QubitState.groundStates circuit.qubitCount }

/-- Every step has been executed. -/
def atEnd (s : Session) : Bool := s.circuit.stepCount ≤ s.cursor

/-- The session behind the step to `cursor`, with the evaluation of the circuit up to there. -/
def advance (s : Session) (cursor : Index) (e : Evaluation) : Session :=
  { s with cursor, states := e.states, measurements := e.measurements, lastError := none }

/-- The session after an evaluation failed. Nothing but the error changes. -/
def fail (s : Session) (fault : Fault) : Session := { s with lastError := some fault }

end Session

/-- The name under which a session is shown. -/
def sessionName (generation : Nat) : String := s!"s{generation}"

/-! ## Snapshots -/

/-- What is shown of a session. Without one, only the states are told. -/
structure Snapshot where
  session : Option Nat := none
  circuitName : Option String := none
  cursor : Index := 0
  stepCount : Index := 0
  breakpoints : List Index := []
  inFlight : Bool := false
  lastError : Option Fault := none
  states : List QubitState := []
  measurements : Counts := .empty
deriving DecidableEq, Repr

namespace Snapshot

def isRunning (s : Snapshot) : Bool := s.session.isSome

def ofSession (s : Session) : Snapshot :=
  { session := some s.generation, circuitName := some s.circuit.name, cursor := s.cursor,
    stepCount := s.circuit.stepCount, breakpoints := s.breakpoints, inFlight := s.inFlight,
    lastError := s.lastError, states := s.states, measurements := s.measurements }

def idle (states : List QubitState) : Snapshot := { states }

end Snapshot

end QuantumWorkbench
