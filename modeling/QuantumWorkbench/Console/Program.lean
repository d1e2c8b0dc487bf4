import QuantumWorkbench.Console.Arguments

/-!
# The program

## Contents
- `ProgramRun`: what a run of the program leaves behind, with its exit code.
- `ProgramRun.ofResult`, `ProgramRun.ofHalt`: how a command, or a command line without one, ends.
- `runProgram`: the program, from its arguments to its end.
-/

namespace QuantumWorkbench

/-- A run of the program. -/
structure ProgramRun where
  /-- `0` after success, `1` if the command failed, and `2` if the arguments make no command. -/
  code : Nat
  console : Console
deriving DecidableEq, Repr

namespace ProgramRun

/-- The name of the program. -/
def programName : String := "qstep"

/-- The end of a command. An error is told on the side. -/
def ofResult (result : Except CommandError Unit) (console : Console) : ProgramRun :=
  match result with
  | .ok () => { code := 0, console }
  | .error error =>
    { code := 1, console := { console with err := console.err ++ s!"Error: {error.message}\n" } }

/-- The end of a command line that leads to no command. -/
def ofHalt : Halt → ProgramRun
  | .help => { code := 0, console := { out := joinLines usageLines } }
  | .version =>
    { code := 0, console := { out := s!"{programName} {Command.versionNumber}\n" } }
  | .misuse m => { code := 2, console := { err := s!"error: {m.message}\n" } }

end ProgramRun

/-- Runs the program with the words behind its name. -/
def runProgram (words : List String) (s : Surroundings) : ProgramRun :=
  match Command.ofArguments words with
  | .error halt => .ofHalt halt
  | .ok command =>
    let (result, console) := command.execute s []
    .ofResult result console

end QuantumWorkbench
