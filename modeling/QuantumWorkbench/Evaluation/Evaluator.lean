import QuantumWorkbench.Circuit.Validate
import QuantumWorkbench.Evaluation.Basic

/-!
# Evaluators and generators

The boundary to what evaluates circuits and to what makes them up.

## Contents
- `EvaluatorError`: why there was no answer, and `EvaluatorError.fault`, what the user is told of
  it.
- `Evaluator`: answers circuits, in any monad, and the first steps of circuits. Unless it says
  otherwise, the first steps are a circuit of their own. `Evaluator.simulate` validates first, so
  that an unsound circuit never reaches it.
- `Generator`: makes a circuit out of a description; `Generator.generateValidated` does not trust
  it.
-/

namespace QuantumWorkbench

/-- Why there was no answer. -/
inductive EvaluatorError where
  /-- The service cannot be reached or is not well. -/
  | unavailable (reason : String)
  /-- The credential was not accepted, or there is none. -/
  | unauthorized (reason : String)
  /-- The service turned the request down. -/
  | refused (status : Nat) (reason : String)
  /-- The exchange broke off. -/
  | broken (reason : String)
  /-- Data could not be written or read. -/
  | unreadable (reason : String)
  | invalidCircuit (fault : Fault)
  /-- No circuit was made. -/
  | notGenerated (reason : String)
deriving DecidableEq, Repr

namespace EvaluatorError

def message : EvaluatorError → String
  | unavailable reason => s!"Evaluator not available: {reason}"
  | unauthorized reason => s!"Authentication failed: {reason}"
  | refused status reason => s!"Request failed ({status}): {reason}"
  | broken reason => s!"Network error: {reason}"
  | unreadable reason => s!"Serialization error: {reason}"
  | invalidCircuit fault => fault.message
  | notGenerated reason => s!"Generation failed: {reason}"

/-- What the user is told: a refusal keeps its status, a fault of the circuit is passed on, and all
else is a failure to simulate. -/
def fault : EvaluatorError → Fault
  | refused status reason => .rejected reason (some status)
  | invalidCircuit fault => fault
  | e => .unanswered e.message

end EvaluatorError

/-- The answer to a circuit. -/
abbrev Answer := Except EvaluatorError Evaluation

/-- What evaluates circuits. -/
structure Evaluator (m : Type → Type) where
  name : String
  evaluate : Circuit → m Answer
  /-- The answer to the first steps of a circuit. -/
  evaluateUpTo : Circuit → Index → m Answer := fun c limit => evaluate (c.upTo limit)

namespace Evaluator

variable {m : Type → Type} [Monad m]

/-- The answer to a circuit that passes validation. Others are not shown to the evaluator. -/
def simulate (e : Evaluator m) (c : Circuit) : m (Except Fault Evaluation) :=
  match c.validate with
  | .error fault => pure (.error fault)
  | .ok () => (·.mapError EvaluatorError.fault) <$> e.evaluate c

end Evaluator

/-- What makes up a circuit that fits a description. -/
structure Generator (m : Type → Type) where
  generate : String → m (Except EvaluatorError Circuit)

namespace Generator

variable {m : Type → Type} [Monad m]

/-- A circuit that fits the description and passes validation. -/
def generateValidated (g : Generator m) (prompt : String) : m (Except EvaluatorError Circuit) :=
  (fun made => do
    let c ← made
    (c.validate).mapError EvaluatorError.invalidCircuit
    return c) <$> g.generate prompt

end Generator

end QuantumWorkbench
