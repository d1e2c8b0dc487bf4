import QuantumWorkbench.Console.Program

/-!
# Running the program

The outer layer: it looks up what a command needs to see, runs the command, and leaves behind what
the command wrote. A prompt is shown line by line.
-/

namespace QuantumWorkbench

/-- A file as it is found. -/
def readPath (path : String) : IO (Except FileFault String) := do
  try
    return .ok (← IO.FS.readFile path)
  catch e =>
    match e with
    | .noFileOrDirectory .. => return .error .missing
    | .inappropriateType .. => return .error .isDirectory
    | _ => return .error .notDirectory

/-- Is there a directory? -/
def isDirectoryPath (path : String) : IO Bool := do
  try
    (← IO.FS.realPath path).isDir
  catch _ => return false

/-- A file can be written if its directory is there and it is no directory itself. -/
def isWritablePath (path : String) : IO Bool := do
  let names := Path.segments path
  let parent := match names.dropLast with
    | [] => "."
    | above => "/".intercalate above ++ "/"
  return (← isDirectoryPath parent) && !(← isDirectoryPath path)

/-- What a command gets to see. -/
def lookAround (command : Command) : IO Surroundings := do
  let read ← command.sources.mapM fun path => return (path, ← readPath path)
  let writable ← command.targets.filterM isWritablePath
  let home := (← IO.getEnv "HOME").getD ""
  let userSettings := (← readPath (home ++ "/" ++ userSettingsPath)).toOption
  let env ← Settings.knownVariables.filterMapM fun (name, _) => do
    return (← IO.getEnv name).map fun value => (name, value)
  let seed := UInt64.ofNat (← IO.rand 0 (UInt64.size - 1))
  return {
    files := {
      read := fun path => (read.lookup path).getD (.error .missing)
      isWritable := fun path => writable.contains path
      userSettings }
    env := fun name => env.lookup name
    service := { reply := fun _ _ => .error "no connection to the service" }
    draws := .ofSeed seed }

/-- Shows a prompt line by line, up to the end of the input. -/
partial def converse (e : Evaluator Exchange) (p : Prompt) (sent : List Request) :
    IO (Except DebugError Unit) := do
  let output ← IO.getStdout
  output.putStr promptText
  output.flush
  let line ← (← IO.getStdin).getLine
  if line.isEmpty then
    output.putStr "\n"
    return .ok ()
  match (p.enter e line).run sent with
  | (.left, _) => return .ok ()
  | (.failed error, _) => return .error error
  | (.shown lines p, sent) =>
    output.putStr (joinLines lines)
    converse e p sent

/-- Leaves behind what a run wrote. -/
def leave (run : ProgramRun) : IO UInt32 := do
  IO.print run.console.out
  IO.eprint run.console.err
  for (path, text) in run.console.written do
    IO.FS.writeFile path text
  return run.code.toUInt32

/-- Runs a debugger against its user. -/
def debugInteractively (s : Surroundings) (input : String) (config : Option String)
    (evaluator : Option EvaluatorKind) (breakpoints : List Index) : IO UInt32 := do
  match (Command.openPrompt s input config evaluator breakpoints).run.run {} with
  | (.error error, console) => leave (.ofResult (.error error) console)
  | (.ok (e, p), console) =>
    let _ ← leave (.ofResult (.ok ()) console)
    let result ← converse e p console.sent
    leave (.ofResult (result.mapError .notDebugged) {})

end QuantumWorkbench

open QuantumWorkbench in
def main (words : List String) : IO UInt32 := do
  match Command.ofArguments words with
  | .error halt => leave (.ofHalt halt)
  | .ok command =>
    let s ← lookAround command
    match command with
    | .debug input config evaluator breakpoints =>
      debugInteractively s input config evaluator breakpoints
    | _ =>
      let (result, console) := command.execute s []
      leave (.ofResult result console)
