import QuantumWorkbench.Circuit.Check
import QuantumWorkbench.Json.Shape

/-!
# Faults

What a user is told when a circuit cannot be used or evaluated. Each message names the gate and the
qubit where there is one, since these are the only hints at the place of the trouble.

## Contents
- `Malformation`: why a value is no circuit at all.
- `Fault`: the faults, with `Fault.message`, and `Fault.kind` for their four kinds.
-/

namespace QuantumWorkbench

/-- Why a value is no circuit. -/
inductive Malformation where
  /-- The text is no JSON. -/
  | notJson
  | gatesNotArray
  | shape (cause : ShapeError)
  /-- One of the gates cannot be read. -/
  | gateShape (gate : Nat) (cause : ShapeError)
  | unsound (cause : CircuitError)
  | registerTooLarge (qubitCount limit : Index)
  /-- Reported from outside, in words. -/
  | reported (reason : String)
deriving DecidableEq, Repr

def Malformation.message : Malformation → String
  | notJson => "the text is not JSON"
  | gatesNotArray => "gates must be an array"
  | shape cause => cause.message
  | gateShape gate cause => s!"gate at index {gate} is malformed: {cause.message}"
  | unsound cause => cause.message
  | registerTooLarge n limit => s!"{n} qubits exceed the local simulator limit of {limit}"
  | reported reason => reason

/-- The kinds of fault, by the names that services use. -/
inductive FaultKind where
  | parse
  | invalidGate
  | invalidQubit
  | simulation
deriving DecidableEq, Repr

def FaultKind.name : FaultKind → String
  | parse => "PARSE_ERROR"
  | invalidGate => "INVALID_GATE"
  | invalidQubit => "INVALID_QUBIT"
  | simulation => "SIMULATION_ERROR"

/-- Why a circuit cannot be used, or was not evaluated. -/
inductive Fault where
  | malformed (cause : Malformation)
  /-- The gate has no position with a whole number for its qubit. -/
  | invalidGate (gate : Nat)
  /-- The gate acts on a qubit outside the register. Read from untrusted text, the qubit may be
  negative. -/
  | invalidQubit (qubit : Int) (gate : Nat)
  /-- The evaluator turned the request down, with a status if it came over a wire. -/
  | rejected (reason : String) (status : Option Nat)
  /-- The evaluator was not reached, or its answer was not understood. -/
  | unanswered (cause : String)
deriving DecidableEq, Repr

namespace Fault

def message : Fault → String
  | malformed cause => s!"Invalid circuit: {cause.message}"
  | invalidGate gate => s!"Invalid gate at index {gate}: missing or invalid qubit position"
  | invalidQubit qubit gate => s!"Invalid qubit index {qubit} at gate {gate}"
  | rejected reason _ => s!"Simulation failed: {reason}"
  | unanswered cause => s!"Simulation error: {cause}"

def kind : Fault → FaultKind
  | malformed _ => .parse
  | invalidGate _ => .invalidGate
  | invalidQubit .. => .invalidQubit
  | rejected .. | unanswered _ => .simulation

/-- The number of the gate at fault, if one is. -/
def gate? : Fault → Option Nat
  | invalidGate gate | invalidQubit _ gate => some gate
  | malformed _ | rejected .. | unanswered _ => none

/-- The status that came with the refusal. -/
def status? : Fault → Option Nat
  | rejected _ status => status
  | malformed _ | invalidGate _ | invalidQubit .. | unanswered _ => none

end Fault

end QuantumWorkbench
