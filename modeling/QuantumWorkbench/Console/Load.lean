import QuantumWorkbench.Circuit.Wire
import QuantumWorkbench.Console.Path
import QuantumWorkbench.Debugger.Controller
import QuantumWorkbench.Script.Circuit
import QuantumWorkbench.Settings.Load

/-!
# Circuits and settings from files

## Contents
- `CommandError`: why a command fails.
- `isJsonPath`: the extension says whether a file holds data or a script.
- `Circuit.ofFile`: the circuit in a file, as the commands that use it read it.
- `judgeFile`: the verdict on a file, as the command that checks files gives it.
- `FileView.loadCircuit`, `FileView.loadSettings`: both from the file system.
-/

namespace QuantumWorkbench

/-- Why a command fails. -/
inductive CommandError where
  | fileNotFound (path : String)
  | unreadableFile (path : String)
  | unwritableFile (path : String)
  /-- The file holds data that is no circuit. -/
  | invalidCircuit (fault : Fault)
  | unreadableDialect (dialect : Dialect)
  | notJson
  /-- A script is wanted, and the file holds data. -/
  | alreadyJson (path : String)
  | unknownFormat (name : String)
  /-- The circuit did not pass. -/
  | rejected (fault : Fault)
  | settings (error : SettingsError)
  | notSimulated (fault : Fault)
  | notDebugged (error : DebugError)
  | notGenerated (error : EvaluatorError)
deriving DecidableEq, Repr

def CommandError.message : CommandError → String
  | fileNotFound path => s!"File not found: {path}"
  | unreadableFile path => s!"Failed to read file: {path}"
  | unwritableFile path => s!"Failed to write {path}"
  | invalidCircuit fault => s!"Invalid circuit: {fault.message}"
  | unreadableDialect d => s!"The {d.name} dialect can be rendered but not parsed"
  | notJson => "Parse error: the text is not JSON"
  | alreadyJson path => s!"parse reads Qiskit scripts; {path} is already a JSON circuit"
  | unknownFormat name => s!"Unknown format: '{name}'. Available: summary, json"
  | rejected fault =>
    let place := (fault.gate?.map fun i => s!" (gate {i})").getD ""
    s!"{fault.message} [{fault.kind.name}]{place}"
  | settings error => s!"Failed to load configuration: {error.message}"
  | notSimulated fault => fault.message
  | notDebugged error => error.message
  | notGenerated error => s!"Generation failed: {error.message}"

/-! ## Circuits -/

/-- Does the file hold data? Only its extension counts. -/
def isJsonPath (path : String) : Bool := (Path.extension path).toLower = "json"

/-- The circuit in a file with the given path and text. Data is validated; a script is taken as it
is. Files of an unknown kind are scripts of calls. -/
def Circuit.ofFile (path text : String) : Except CommandError Circuit :=
  if isJsonPath path then (Circuit.parse text).mapError .invalidCircuit
  else
    match (Dialect.ofExtension? (Path.extension path)).getD .qiskit with
    | .qiskit => .ok (Circuit.ofScript text .qiskit)
    | d => .error (.unreadableDialect d)

/-- The verdict on a file with the given path and text. Data is checked as an untrusted value, and
all else as a script of calls. -/
def judgeFile (path text : String) : Except CommandError Unit := do
  let verdict ← if isJsonPath path then
      match Json.parse? text with
      | some v => pure (Circuit.validateJson v)
      | none => throw .notJson
    else pure (Circuit.ofScript text .qiskit).validate
  verdict.mapError .rejected

namespace FileView

/-- The text of an input file. -/
def input (files : FileView) (path : String) : Except CommandError String :=
  match files.read path with
  | .ok text => .ok text
  | .error .isDirectory => .error (.unreadableFile path)
  | .error _ => .error (.fileNotFound path)

def loadCircuit (files : FileView) (path : String) : Except CommandError Circuit := do
  Circuit.ofFile path (← files.input path)

/-! ## Settings -/

/-- The text of the settings file. The one that is named has to be there. -/
def settingsText (files : FileView) : Option String → Except SettingsError (Option String)
  | some path => (some <$> files.read path).mapError fun fault => .unreadable path fault.message
  | none => .ok files.userSettings

/-- The settings of a session, with the evaluator that its user chose. -/
def loadSettings (files : FileView) (env : Settings.Environment) (path : Option String)
    (evaluator : Option EvaluatorKind) : Except CommandError Settings := do
  let s ← (do Settings.load (← files.settingsText path) env).mapError CommandError.settings
  return { s with evaluator := evaluator.getD s.evaluator }

end FileView

end QuantumWorkbench
