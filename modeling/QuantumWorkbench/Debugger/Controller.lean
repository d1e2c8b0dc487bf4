import QuantumWorkbench.Circuit.Validate
import QuantumWorkbench.Debugger.Session
import QuantumWorkbench.Evaluation.Evaluator

/-!
# The step controller

Holds the one session that may be running, and publishes a snapshot after every change.

An evaluation takes its time, and meanwhile the session may be stopped, replaced or changed. So an
operation that evaluates is cut into sections: it acquires the session, decides what to ask, and
settles the answer when it arrives; at its end, or when it is dropped, it releases the session. Each
section names the generation of the session it belongs to, and does nothing to any other session.

## Contents
- `DebugError`: why an operation is refused.
- `Controller`: the state, and `Controller.snapshot`, the view of it.
- `Controller.start`, `Controller.toggleBreakpoint`, `Controller.stop`: the operations of one
  section.
- `Controller.acquire`, `Controller.decide`, `Controller.settle`, `Controller.release`: the sections
  of an operation that evaluates.
-/

namespace QuantumWorkbench

/-- Why an operation is refused. -/
inductive DebugError where
  | notRunning
  /-- Another operation of the session is waiting for the evaluator. -/
  | requestInFlight (session : Nat)
  /-- The circuit did not pass validation. -/
  | invalid (fault : Fault)
deriving DecidableEq, Repr

def DebugError.message : DebugError → String
  | notRunning => "No debug session is running"
  | requestInFlight session => s!"Session {sessionName session} already has an evaluation in flight"
  | invalid fault => fault.message

/-- The state of the controller. -/
structure Controller where
  session? : Option Session := none
  /-- The states that are shown while no session is running. -/
  idleStates : List QubitState := []
  /-- The generation of the latest session, and so the number of starts. It has no bound, since the
  `2 ^ 64` starts that would exhaust a word are out of reach. -/
  generation : Nat := 0
  /-- The latest snapshot that was published. -/
  published : Snapshot := {}
  /-- How many snapshots were published. -/
  publications : Nat := 0
deriving DecidableEq, Repr

namespace Controller

/-! ## Views -/

def isRunning (k : Controller) : Bool := k.session?.isSome

/-- The present view. -/
def snapshot (k : Controller) : Snapshot :=
  match k.session? with
  | some s => .ofSession s
  | none => .idle k.idleStates

/-- The controller on one line. -/
def describe (k : Controller) (evaluator : String) : String :=
  let running := if k.isRunning then "true" else "false"
  "StepController \x7b evaluator: " ++ literalText evaluator ++ ", running: " ++ running ++ " \x7d"

/-- Publishes the present view. -/
def publish (k : Controller) : Controller :=
  { k with published := k.snapshot, publications := k.publications + 1 }

/-- The running session, if it has the given generation. -/
def current? (k : Controller) (generation : Nat) : Option Session :=
  k.session?.filter (·.generation = generation)

/-- Changes the session and publishes the change. -/
def withSession (k : Controller) (s : Session) : Controller :=
  { k with session? := some s }.publish

/-! ## Operations of one section -/

/-- Opens a session on a circuit that passes validation, in place of the one that is running. -/
def start (k : Controller) (circuit : Circuit) : Except DebugError (Nat × Controller) := do
  circuit.validate.mapError .invalid
  let generation := k.generation + 1
  return (generation, { k with generation }.withSession (.opening circuit generation))

/-- Sets a breakpoint or clears it, and says whether it is set now. -/
def toggleBreakpoint (k : Controller) (step : Index) : Except DebugError (Bool × Controller) :=
  match k.session? with
  | none => .error .notRunning
  | some s =>
    let breakpoints := toggle step s.breakpoints
    .ok (breakpoints.contains step, k.withSession { s with breakpoints })

/-- Ends the session, and says whether there was one. The states go back to the ground. -/
def stop (k : Controller) : Bool × Controller :=
  match k.session? with
  | none => (false, k)
  | some s =>
    let idleStates := QubitState.groundStates s.circuit.qubitCount
    (true, { k with session? := none, idleStates }.publish)

/-! ## Sections of an operation that evaluates -/

/-- Takes the session for one operation. The result is its generation. -/
def acquire (k : Controller) : Except DebugError (Nat × Controller) :=
  match k.session? with
  | none => .error .notRunning
  | some s =>
    if s.inFlight then .error (.requestInFlight s.generation)
    else .ok (s.generation, k.withSession { s with inFlight := true })

/-- What to do next. -/
inductive Decision where
  /-- Ask about the steps up to the one after `cursor`. -/
  | evaluate (circuit : Circuit) (cursor : Index)
  | endOfCircuit
  /-- The next step is a breakpoint. -/
  | breakpoint (step : Index)
  /-- The session is gone. -/
  | discarded
deriving DecidableEq, Repr

/-- Decides what to do next in a session. The end of the circuit comes before any breakpoint. -/
def decide (k : Controller) (generation : Nat) (honourBreakpoints : Bool) : Decision :=
  match k.current? generation with
  | none => .discarded
  | some s =>
    if s.atEnd then .endOfCircuit
    else if honourBreakpoints && s.breakpoints.contains (s.cursor + 1) then
      .breakpoint (s.cursor + 1)
    else .evaluate s.circuit s.cursor

/-- What became of an answer. -/
inductive Settlement where
  | advanced (cursor : Index)
  | failed (fault : Fault)
  /-- The session is gone, and the answer with it. -/
  | discarded
deriving DecidableEq, Repr

/-- Commits an answer to the session that asked for it, from where it stood at `cursor`. -/
def settle (k : Controller) (generation : Nat) (cursor : Index) (answer : Answer) :
    Settlement × Controller :=
  match k.current? generation, answer with
  | none, _ => (.discarded, k)
  | some s, .ok e => (.advanced (cursor + 1), k.withSession (s.advance (cursor + 1) e))
  | some s, .error e => (.failed e.fault, k.withSession (s.fail e.fault))

/-- Gives the session back. -/
def release (k : Controller) (generation : Nat) : Controller :=
  match k.current? generation with
  | none => k
  | some s => k.withSession { s with inFlight := false }

end Controller

end QuantumWorkbench
