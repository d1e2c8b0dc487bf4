import QuantumWorkbench.Debugger.Controller

/-!
# Calls of the controller

An operation that evaluates, as a value that goes from section to section: a step, or a run of steps
up to a breakpoint.

## Contents
- `StepOutcome`, `StopReason`, `Outcome`: what the calls report.
- `Call`: a call with what it waits for.
- `Call.begin`, `Call.decide`, `Call.settle`, `Call.finish`: its sections.
- `Call.drive`: a call from beginning to end, with nothing else in between.
- `Controller.step`, `Controller.continueToBreakpoint`: the calls against an evaluator.
-/

namespace QuantumWorkbench

/-! ## Outcomes -/

/-- What a step reports. -/
inductive StepOutcome where
  | advanced (cursor : Index)
  | failed (fault : Fault)
  | endOfCircuit
  /-- The session was stopped or replaced before the answer arrived. -/
  | discarded
deriving DecidableEq, Repr

/-- Why a run of steps ended. -/
inductive StopReason where
  | breakpoint (step : Index)
  | endOfCircuit
  | failed (fault : Fault)
  | discarded
deriving DecidableEq, Repr

/-- What a call reports. -/
inductive Outcome where
  | step (outcome : StepOutcome)
  /-- A run of steps, with the number of those that were committed. -/
  | run (taken : Index) (reason : StopReason)
deriving DecidableEq, Repr

/-! ## Calls -/

inductive CallKind where
  | step
  | run
deriving DecidableEq, Repr

/-- Where a call stands. -/
inductive Stage where
  | deciding
  /-- It asked about the circuit up to the step after `cursor`. -/
  | awaiting (circuit : Circuit) (cursor : Index)
  /-- It has its outcome, and still holds the session. -/
  | finishing (outcome : Outcome)
deriving DecidableEq, Repr

/-- A call that holds a session. -/
structure Call where
  kind : CallKind
  generation : Nat
  /-- The number of steps that the call committed. -/
  taken : Index := 0
  stage : Stage := .deciding
deriving DecidableEq, Repr

namespace Call

/-- The outcome of a call that ends without a step of its own. -/
def stopped (c : Call) (reason : StopReason) : Outcome :=
  match c.kind, reason with
  | .run, reason => .run c.taken reason
  | .step, .failed fault => .step (.failed fault)
  | .step, .endOfCircuit => .step .endOfCircuit
  | .step, .breakpoint _ | .step, .discarded => .step .discarded

/-- Takes the running session. -/
def begin (kind : CallKind) (k : Controller) : Except DebugError (Call × Controller) := do
  let (generation, k) ← k.acquire
  return ({ kind, generation }, k)

/-- Decides what to do next. Only runs of steps heed breakpoints. -/
def decide (c : Call) (k : Controller) : Call :=
  let stage := match k.decide c.generation (c.kind = .run) with
    | .evaluate circuit cursor => .awaiting circuit cursor
    | .endOfCircuit => .finishing (c.stopped .endOfCircuit)
    | .breakpoint step => .finishing (c.stopped (.breakpoint step))
    | .discarded => .finishing (c.stopped .discarded)
  { c with stage }

/-- Settles the answer to a question about the circuit up to the step after `cursor`. -/
def settle (c : Call) (cursor : Index) (answer : Answer) (k : Controller) : Call × Controller :=
  let (settlement, k) := k.settle c.generation cursor answer
  let c := match settlement, c.kind with
    | .advanced cursor, .step => { c with stage := .finishing (.step (.advanced cursor)) }
    | .advanced _, .run => { c with taken := c.taken + 1, stage := .deciding }
    | .failed fault, _ => { c with stage := .finishing (c.stopped (.failed fault)) }
    | .discarded, _ => { c with stage := .finishing (c.stopped .discarded) }
  (c, k)

/-- Gives the session back, at the end of a call or when it is dropped. -/
def finish (c : Call) (k : Controller) : Controller := k.release c.generation

/-! ## Undisturbed calls -/

/-- Takes a call to its end, with at most `fuel` evaluations. -/
def drive {m : Type → Type} [Monad m] (e : Evaluator m) :
    Nat → Call → Controller → m (Outcome × Controller)
  | fuel, c, k =>
    match c.stage, fuel with
    | .finishing outcome, _ => pure (outcome, c.finish k)
    | .deciding, fuel + 1 => drive e fuel (c.decide k) k
    | .awaiting circuit cursor, fuel + 1 => do
      let answer ← e.evaluateUpTo circuit (cursor + 1)
      let (c, k) := c.settle cursor answer k
      drive e fuel c k
    | _, 0 => pure (c.stopped .discarded, c.finish k)

end Call

namespace Controller

variable {m : Type → Type} [Monad m]

/-- The number of sections that a call can go through: two for each step that is left, and two at
the end. -/
def callFuel (k : Controller) : Nat :=
  match k.session? with
  | some s => 2 * (s.circuit.stepCount.toNat - s.cursor.toNat) + 2
  | none => 0

/-- Makes a call and waits for its outcome. -/
def perform (e : Evaluator m) (kind : CallKind) (k : Controller) :
    m (Except DebugError (Outcome × Controller)) :=
  match Call.begin kind k with
  | .error error => pure (.error error)
  | .ok (c, k) => .ok <$> c.drive e k.callFuel k

/-- Executes the next step. -/
def step (e : Evaluator m) (k : Controller) : m (Except DebugError (Outcome × Controller)) :=
  k.perform e .step

/-- Executes steps until the next one is a breakpoint, the circuit ends, or an evaluation fails. -/
def continueToBreakpoint (e : Evaluator m) (k : Controller) :
    m (Except DebugError (Outcome × Controller)) :=
  k.perform e .run

end Controller

end QuantumWorkbench
