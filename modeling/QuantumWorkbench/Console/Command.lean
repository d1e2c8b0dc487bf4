import QuantumWorkbench.Console.Load
import QuantumWorkbench.Console.Prompt
import QuantumWorkbench.Json.Printer
import QuantumWorkbench.Service.Evaluator
import QuantumWorkbench.Simulator.Evaluate

/-!
# Commands

What the program does, as values: a command sees its surroundings, and leaves behind what it
printed, the files it wrote and the requests it sent.

## Contents
- `Surroundings`: files, environment variables, the service, and the numbers drawn for shots.
- `Console`: what a command has left behind so far.
- `CommandM`: commands under way.
- `Command`: the commands with their arguments, and `Command.execute`, what they do.
-/

namespace QuantumWorkbench

/-! ## Surroundings and traces -/

structure Surroundings where
  files : FileView
  env : Settings.Environment
  service : Service
  draws : Draws
  /-- What is typed. -/
  input : String := ""

/-- What a command has left behind. -/
structure Console where
  out : String := ""
  err : String := ""
  /-- The files that were written, with their texts. -/
  written : List (String × String) := []
  /-- All requests that were sent to the service, by this command and those before. -/
  sent : List Request := []
deriving DecidableEq, Repr

/-- Commands under way. -/
abbrev CommandM := ExceptT CommandError (StateM Console)

namespace CommandM

/-- Prints text. -/
def print (text : String) : CommandM Unit := modify fun c => { c with out := c.out ++ text }

def printLines (lines : List String) : CommandM Unit := print (joinLines lines)

/-- Prints a line on the side, where it is not part of the result. -/
def note (line : String) : CommandM Unit := modify fun c => { c with err := c.err ++ line ++ "\n" }

/-- Carries out an exchange with the service. -/
def exchange {α : Type} (x : Exchange α) : CommandM α := do
  let (a, sent) := x.run (← get).sent
  modify fun c => { c with sent }
  return a

/-- Writes a file. -/
def write (files : FileView) (path text : String) : CommandM Unit := do
  if !files.isWritable path then throw (.unwritableFile path)
  modify fun c => { c with written := c.written ++ [(path, text)] }

end CommandM

/-! ## Evaluators -/

/-- The evaluator that settings name. -/
def Surroundings.evaluator (s : Surroundings) (settings : Settings) : Evaluator Exchange :=
  match settings.evaluator with
  | .service => (RemoteEvaluator.ofSettings settings).evaluator s.service
  | .simulator => (Simulator.ofSettings settings s.draws).evaluator

/-! ## Commands -/

inductive Command where
  /-- Prints the circuit in a script. -/
  | parse (input format : String)
  /-- Writes a circuit as a script. -/
  | render (input : String) (dialect : Dialect) (output : Option String)
  /-- Checks a circuit. -/
  | validate (input : String)
  /-- Evaluates a circuit. -/
  | simulate (input : String) (config : Option String) (evaluator : Option EvaluatorKind)
  /-- Steps through a circuit. -/
  | debug (input : String) (config : Option String) (evaluator : Option EvaluatorKind)
      (breakpoints : List Index)
  /-- Has a circuit made. -/
  | generate (prompt : String) (dialect : Dialect) (output config : Option String)
  | version
deriving DecidableEq, Repr

namespace Command

open CommandM

/-- The files that a command reads if it gets that far. -/
def sources : Command → List String
  | parse input _ | render input _ _ | validate input => [input]
  | simulate input config _ | debug input config _ _ => input :: config.toList
  | generate _ _ _ config => config.toList
  | version => []

/-- The files that a command writes if it gets that far. -/
def targets : Command → List String
  | render _ _ output | generate _ _ output _ => output.toList
  | _ => []

/-- The version of the program. -/
def versionNumber : String := "0.4.0"

def versionLines : List String :=
  [s!"qstep v{versionNumber} - quantum circuit translator and step debugger",
    "",
    "Components:",
    "  qstep-ir                 Circuit model and validator",
    "  qstep-source             Qiskit and Q# translation",
    "  qstep-hal                Evaluator and generator traits",
    "  qstep-debug              Breakpoint-aware step controller",
    "  qstep-adapter-http       Remote simulation service client",
    "  qstep-adapter-sim        Local statevector evaluator",
    "",
    "License:    Apache-2.0"]

/-- A circuit with its gates, and what the validator has to say. -/
def summaryLines (c : Circuit) : List String :=
  [s!"✓ {c.name} ({c.sizeText})"]
  ++ c.gates.zipIdx.map (fun (g, i) => "  " ++ padLeft 3 (toString i) ++ "  " ++ toString g)
  ++ match c.validate with
    | .ok () => []
    | .error fault => ["! " ++ fault.message]

def runParse (s : Surroundings) (input format : String) : CommandM Unit := do
  if isJsonPath input then throw (.alreadyJson input)
  let c := Circuit.ofScript (← s.files.input input) .qiskit
  match lowerText format with
  | "json" => printLines [c.toJson.pretty]
  | "summary" => printLines (summaryLines c)
  | other => throw (.unknownFormat other)

def runRender (s : Surroundings) (input : String) (dialect : Dialect) (output : Option String) :
    CommandM Unit := do
  let c ← s.files.loadCircuit input
  let text := c.toScript dialect
  match output with
  | some path =>
    write s.files path text
    note s!"✓ Rendered {input} as {dialect.name} to {path}"
  | none => print text

def runValidate (s : Surroundings) (input : String) : CommandM Unit := do
  let text ← s.files.input input
  judgeFile input text
  printLines [s!"✓ {input} is valid"]

def runSimulate (s : Surroundings) (input : String) (config : Option String)
    (evaluator : Option EvaluatorKind) : CommandM Unit := do
  let settings ← s.files.loadSettings s.env config evaluator
  let e := s.evaluator settings
  let c ← s.files.loadCircuit input
  printLines [s!"→ Simulating {input} on {e.name} ({c.sizeText})"]
  match ← exchange (e.simulate c) with
  | .error fault => throw (.notSimulated fault)
  | .ok evaluation =>
    printLines (["✓ Evaluation complete"] ++ stateLines evaluation.states
      ++ measurementLines evaluation.measurements)

/-- Opens a prompt and prints what stands above it. -/
def openPrompt (s : Surroundings) (input : String) (config : Option String)
    (evaluator : Option EvaluatorKind) (breakpoints : List Index) :
    CommandM (Evaluator Exchange × Prompt) := do
  let settings ← s.files.loadSettings s.env config evaluator
  let c ← s.files.loadCircuit input
  let e := s.evaluator settings
  let p ← (Prompt.opening c breakpoints).mapError CommandError.notDebugged
  printLines ([s!"→ Debugging {input} on {e.name} ({c.sizeText})"] ++ helpLines
    ++ p.controller.snapshot.positionLines c)
  return (e, p)

def runDebug (s : Surroundings) (input : String) (config : Option String)
    (evaluator : Option EvaluatorKind) (breakpoints : List Index) : CommandM Unit := do
  let (e, p) ← openPrompt s input config evaluator breakpoints
  let lines := (textLines s.input).map String.ofList
  let (text, result) ← exchange (p.session e "" lines)
  print text
  MonadExcept.ofExcept (result.mapError CommandError.notDebugged)

def runGenerate (s : Surroundings) (prompt : String) (dialect : Dialect)
    (output config : Option String) : CommandM Unit := do
  let settings ← s.files.loadSettings s.env config none
  let generator := (Client.ofSettings settings).generator s.service
  match ← exchange (generator.generateValidated prompt) with
  | .error error => throw (.notGenerated error)
  | .ok c =>
    note s!"✓ Generated {c.name} ({c.sizeText})"
    let text := c.toScript dialect
    match output with
    | some path =>
      write s.files path text
      note s!"  Written to {path}"
    | none => print text

/-- Carries out a command. -/
def run (s : Surroundings) : Command → CommandM Unit
  | parse input format => runParse s input format
  | render input dialect output => runRender s input dialect output
  | validate input => runValidate s input
  | simulate input config evaluator => runSimulate s input config evaluator
  | debug input config evaluator breakpoints => runDebug s input config evaluator breakpoints
  | generate prompt dialect output config => runGenerate s prompt dialect output config
  | version => printLines versionLines

/-- What a command leaves behind after the requests in `sent`, and why it failed if it did. -/
def execute (c : Command) (s : Surroundings) (sent : List Request) :
    Except CommandError Unit × Console :=
  (c.run s).run.run { sent }

end Command

end QuantumWorkbench
