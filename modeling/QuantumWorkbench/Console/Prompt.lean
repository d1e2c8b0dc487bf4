import QuantumWorkbench.Console.Layout
import QuantumWorkbench.Debugger.Call
import QuantumWorkbench.Decimal.Numeral
import QuantumWorkbench.Text.Blank
import QuantumWorkbench.Text.Lines
import QuantumWorkbench.Text.Lowercase

/-!
# The debugger's prompt

A session that its user drives by typing commands, one a line.

## Contents
- `PromptCommand`, `PromptCommand.ofLine`: the commands and how they are typed.
- `Prompt`: the controller with the circuit and the breakpoints that outlive its sessions.
- `Prompt.opening`: a prompt with its first session.
- `Prompt.enter`: what one line does and shows.
- `Prompt.session`: everything that some lines show, up to the end of the input.
-/

namespace QuantumWorkbench

/-! ## Commands -/

inductive PromptCommand where
  | step
  | run
  | toggle (step : Index)
  | state
  | stop
  | restart
  | help
  | quit
deriving DecidableEq, Repr

/-- Why a line is no command. -/
inductive PromptError where
  | missingStep
  | notAStep (word : String)
  | unknown (word : String)
  | tooManyWords (command : String)
deriving DecidableEq, Repr

def PromptError.message : PromptError → String
  | missingStep => "break needs a step number"
  | notAStep word => s!"'{word}' is not a step number"
  | unknown word => s!"Unknown command '{word}' (try 'help')"
  | tooManyWords command => s!"Too many arguments for '{command}'"

namespace PromptCommand

/-- The command with the given name in lower case, if it needs nothing more. -/
def ofName? : String → Option PromptCommand
  | "step" | "s" => some step
  | "continue" | "c" => some run
  | "state" => some state
  | "stop" => some stop
  | "restart" => some restart
  | "help" | "h" | "?" => some help
  | "quit" | "q" | "exit" => some quit
  | _ => none

def isToggle (name : String) : Bool := name = "break" || name = "b"

/-- The command in a line. A line of blanks holds none, and names are known in any case. -/
def ofLine (line : String) : Except PromptError (Option PromptCommand) :=
  match words line with
  | [] => .ok none
  | head :: args =>
    let name := lowerText head
    if isToggle name then
      match args with
      | [] => .error .missingStep
      | arg :: more =>
        match word? 32 arg with
        | none => .error (.notAStep arg)
        | some n =>
          if more.isEmpty then .ok (some (toggle (.ofNat n)))
          else .error (.tooManyWords head)
    else
      match ofName? name with
      | none => .error (.unknown name)
      | some command => if args.isEmpty then .ok (some command) else .error (.tooManyWords head)

end PromptCommand

/-! ## What is shown -/

def promptText : String := "qstep> "

def helpLines : List String :=
  ["step, s        execute the next step",
    "  continue, c    run until the next breakpoint or the end",
    "  break N, b N   toggle a breakpoint before step N (1-based)",
    "  state          show the current qubit states",
    "  stop           end the session",
    "  restart        start over, keeping current breakpoints",
    "  help, h        show this help",
    "  quit, q        leave the debugger"]

def mistakeLine (text : String) : String := "? " ++ text
def failureLine (text : String) : String := "✗ " ++ text

/-- Steps between brackets. -/
def stepsText (steps : List Index) : String :=
  "[" ++ ", ".intercalate (steps.map fun s => toString s) ++ "]"

def Snapshot.lines (s : Snapshot) : List String :=
  (if s.isRunning then
      [s!"  Step {s.cursor}/{s.stepCount}, breakpoints: {stepsText s.breakpoints}"]
    else ["  No session is running"])
  ++ (s.lastError.map fun fault => s!"  Last error: {fault.message}").toList
  ++ stateLines s.states ++ measurementLines s.measurements

/-- The gates of the next step, if there is one. -/
def Snapshot.positionLines (s : Snapshot) (c : Circuit) : List String :=
  if s.stepCount ≤ s.cursor then []
  else
    let gates := c.gatesAt s.cursor
    let text :=
      if gates.isEmpty then "no gates" else ", ".intercalate (gates.map fun g => toString g)
    [s!"  Next: step {s.cursor + 1} [{text}]"]

/-- What is shown of the outcome of a call. -/
def Outcome.lines (s : Snapshot) (c : Circuit) : Outcome → List String
  | .step (.advanced cursor) =>
    [s!"✓ Step {cursor}/{s.stepCount}"] ++ s.lines ++ s.positionLines c
  | .step (.failed fault) => [failureLine fault.message, s!"  Still at step {s.cursor}"]
  | .step .endOfCircuit => ["  End of circuit"]
  | .run taken (.breakpoint pause) =>
    [s!"● Paused before step {pause} after {taken} step(s)"] ++ s.lines ++ s.positionLines c
  | .run taken .endOfCircuit => [s!"✓ Reached end of circuit after {taken} step(s)"] ++ s.lines
  | .run taken (.failed fault) =>
    [failureLine fault.message, s!"  Stopped at step {s.cursor} after {taken} step(s)"]
  | .step .discarded | .run _ .discarded => ["  Result discarded"]

/-! ## Prompts -/

/-- A controller at its user's hands. -/
structure Prompt where
  circuit : Circuit
  controller : Controller
  /-- The breakpoints, which also hold for sessions to come. -/
  kept : List Index := []
deriving DecidableEq, Repr

/-- Makes a set of steps hold a step, or not. -/
def keepStep (kept : List Index) (step : Index) (isSet : Bool) : List Index :=
  if isSet = kept.contains step then kept else toggle step kept

/-- What a line leads to. -/
inductive Reaction where
  /-- Some lines are shown, and the prompt goes on. -/
  | shown (lines : List String) (p : Prompt)
  | left
  | failed (error : DebugError)

namespace Prompt

/-- Sets breakpoints in the running session and keeps them. A step that is given twice is cleared
again. -/
def toggleAll (p : Prompt) : List Index → Except DebugError Prompt
  | [] => .ok p
  | step :: rest => do
    let (isSet, controller) ← p.controller.toggleBreakpoint step
    toggleAll { p with controller, kept := keepStep p.kept step isSet } rest

/-- A prompt with a session on a circuit. -/
def opening (circuit : Circuit) (breakpoints : List Index) : Except DebugError Prompt := do
  let (_, controller) ← ({} : Controller).start circuit
  toggleAll { circuit, controller } breakpoints

/-- Sets breakpoints in the running session only. -/
def setBreakpoints (k : Controller) : List Index → Except DebugError Controller
  | [] => .ok k
  | step :: rest => do
    let (_, k) ← k.toggleBreakpoint step
    setBreakpoints k rest

/-- Starts over with the breakpoints that are kept. -/
def restart (p : Prompt) : Except DebugError Prompt := do
  let (_, controller) ← p.controller.start p.circuit
  return { p with controller := ← setBreakpoints controller p.kept }

variable {m : Type → Type} [Monad m]

/-- Makes a call and shows its outcome. -/
def perform (e : Evaluator m) (p : Prompt) (kind : CallKind) : m Reaction := do
  match ← p.controller.perform e kind with
  | .error error => return .shown [failureLine error.message] p
  | .ok (outcome, controller) =>
    return .shown (outcome.lines controller.snapshot p.circuit) { p with controller }

/-- Carries out a command that needs no evaluator. -/
def obey (p : Prompt) : PromptCommand → Reaction
  | .toggle step =>
    match p.controller.toggleBreakpoint step with
    | .error error => .shown [failureLine error.message] p
    | .ok (isSet, controller) =>
      .shown [if isSet then s!"  Breakpoint set before step {step}"
          else s!"  Breakpoint cleared at step {step}"]
        { p with controller, kept := keepStep p.kept step isSet }
  | .state => .shown p.controller.snapshot.lines p
  | .stop =>
    let (wasRunning, controller) := p.controller.stop
    .shown [if wasRunning then "  Session stopped" else "  No session is running"]
      { p with controller }
  | .restart =>
    match p.restart with
    | .error error => .failed error
    | .ok p => .shown (["  Restarted"] ++ p.controller.snapshot.positionLines p.circuit) p
  | .help => .shown helpLines p
  | .quit => .left
  | .step | .run => .shown [] p

/-- What a line leads to. -/
def enter (e : Evaluator m) (p : Prompt) (line : String) : m Reaction :=
  match PromptCommand.ofLine line with
  | .error error => return .shown [mistakeLine error.message] p
  | .ok none => return .shown [] p
  | .ok (some .step) => p.perform e .step
  | .ok (some .run) => p.perform e .run
  | .ok (some command) => return p.obey command

/-- Reads lines until one leaves the prompt, and shows everything after `text`. The end of the input
ends the line of the prompt. -/
def session (e : Evaluator m) (p : Prompt) (text : String) :
    List String → m (String × Except DebugError Unit)
  | [] => return (text ++ promptText ++ "\n", .ok ())
  | line :: rest => do
    let text := text ++ promptText
    match ← p.enter e line with
    | .left => return (text, .ok ())
    | .failed error => return (text, .error error)
    | .shown lines p => session e p (text ++ joinLines lines) rest

end Prompt

end QuantumWorkbench
