import QuantumWorkbench.Console.Command
import QuantumWorkbench.Console.Options
import QuantumWorkbench.Text.Pieces

/-!
# Arguments

The command lines of the program.

## Contents
- `Chosen`: what the options of a command line choose.
- `options`: the options there are, by their names.
- `Verb`: a command's name, the options it knows, and the command that they make; `verbs` lists
  them.
- `Command.ofArguments`: the command that a command line asks for.
- `usageLines`: how the program is used.
-/

namespace QuantumWorkbench

/-! ## Choices -/

/-- What the options of a command line choose. -/
structure Chosen where
  input : Option String := none
  format : Option String := none
  dialect : Option Dialect := none
  output : Option String := none
  evaluator : Option EvaluatorKind := none
  breakpoints : List Index := []
  prompt : Option String := none
  config : Option String := none
deriving DecidableEq, Repr

/-- A step as an option gives it. Unlike elsewhere, zero may have a minus before it. -/
def stepNumber? (cs : List Char) : Option Index :=
  match cs with
  | '-' :: digits => ((numeral? digits).filter (· = 0)).map .ofNat
  | _ => (word? 32 (String.ofList cs)).map .ofNat

namespace Chosen

/-- An option that chooses a value once. -/
def once {α : Type} (name : String) (letter : Option Char) (read : String → Option α)
    (field : Chosen → Option α) (choose : α → Chosen → Chosen) : Choice Chosen where
  name
  letter
  effect := .take fun value c =>
    match read value, field c with
    | none, _ => .error (.refusedValue name value)
    | some _, some _ => .error (.repeated name)
    | some a, none => .ok (choose a c)

def input? : Choice Chosen :=
  once "input" (some 'i') some input fun v c => { c with input := some v }

def format? : Choice Chosen :=
  once "format" (some 'f') some format fun v c => { c with format := some v }

def dialect? : Choice Chosen :=
  once "dialect" (some 'd') (fun v => (Dialect.ofName v).toOption) dialect
    fun v c => { c with dialect := some v }

def output? : Choice Chosen :=
  once "output" (some 'o') some output fun v c => { c with output := some v }

def evaluator? : Choice Chosen :=
  once "evaluator" (some 'e') (fun v => (EvaluatorKind.ofName v).toOption) evaluator
    fun v c => { c with evaluator := some v }

/-- Steps between commas. The option may be given again for more. -/
def breakpoints? : Choice Chosen where
  name := "break"
  letter := some 'b'
  effect := .take fun value c =>
    match (pieces (· = ',') value.toList).mapM stepNumber? with
    | some steps => .ok { c with breakpoints := c.breakpoints ++ steps }
    | none => .error (.refusedValue "break" value)

def prompt? : Choice Chosen :=
  once "prompt" (some 'p') some prompt fun v c => { c with prompt := some v }

/-- The path of a settings file, which is not empty. -/
def config? : Choice Chosen :=
  once "config" none (fun v => if v.isEmpty then none else some v) config
    fun v c => { c with config := some v }

/-- The options that can stand anywhere. How much is logged is no matter of the result. -/
def everywhere : List (Choice Chosen) :=
  [{ name := "verbose", letter := some 'v', effect := .mark }, config?,
    { name := "help", letter := some 'h', effect := .halt .help }]

/-- The option that can stand only before the command. -/
def version? : Choice Chosen :=
  { name := "version", letter := some 'V', effect := .halt .version }

/-- A value that has to be chosen. -/
def require {α : Type} (name : String) : Option α → Except Misuse α
  | some a => .ok a
  | none => .error (.missingOption name)

end Chosen

/-! ## Verbs -/

/-- A command as it is typed. -/
structure Verb where
  name : String
  purpose : String
  options : List (Choice Chosen)
  command : Chosen → Except Misuse Command

open Chosen in
/-- The commands, in the order in which they are explained. -/
def verbs : List Verb :=
  [{ name := "parse"
     purpose := "Parse a Qiskit script and print the circuit"
     options := [input?, format?]
     command := fun c => do
      return .parse (← require "input" c.input) (c.format.getD "summary") },
    { name := "render"
      purpose := "Render a circuit as source text"
      options := [input?, dialect?, output?]
      command := fun c => do
        return .render (← require "input" c.input) (c.dialect.getD .qiskit) c.output },
    { name := "validate"
      purpose := "Check a circuit against the model invariants"
      options := [input?]
      command := fun c => return .validate (← require "input" c.input) },
    { name := "simulate"
      purpose := "Evaluate a whole circuit once"
      options := [input?, evaluator?]
      command := fun c => return .simulate (← require "input" c.input) c.config c.evaluator },
    { name := "debug"
      purpose := "Step through a circuit interactively"
      options := [input?, evaluator?, breakpoints?]
      command := fun c => do
        return .debug (← require "input" c.input) c.config c.evaluator c.breakpoints },
    { name := "generate"
      purpose := "Ask the generation service for a circuit"
      options := [prompt?, dialect?, output?]
      command := fun c => do
        return .generate (← require "prompt" c.prompt) (c.dialect.getD .qiskit) c.output c.config },
    { name := "version"
      purpose := "Show version information"
      options := []
      command := fun _ => .ok .version }]

/-- The command that explains the others. -/
def helpVerb : String := "help"

/-! ## Command lines -/

namespace Command

/-- What a question for help leads to. It can name one command. -/
def answerHelp (names : List String) : Halt :=
  match names with
  | [] => .help
  | name :: rest =>
    if name ≠ helpVerb ∧ verbs.all (·.name ≠ name) then .misuse (.unknownCommand name)
    else
      match rest with
      | [] => .help
      | word :: _ => .misuse (.unknownCommand word)

/-- What may stand behind the options of a command: nothing, or the word that ends them. -/
def checkRest : List String → Except Misuse Unit
  | [] => .ok ()
  | word :: rest =>
    if word ≠ endOfOptions then .error (.unexpectedWord word)
    else match rest with
      | [] => .ok ()
      | extra :: _ => .error (.unexpectedWord extra)

/-- The command of a verb with the words behind it, where `before` was read in front of it. -/
def ofVerb (verb : Verb) (before : Reading Chosen) (words : List String) : Except Halt Command := do
  let (r, rest) ← readOptions (verb.options ++ Chosen.everywhere) { chosen := {} } words
  let result : Except Misuse Command := do
    checkRest rest
    let chosen ← r.settle
    let first ← before.settle
    -- the later one of two settings files counts
    verb.command { chosen with config := chosen.config <|> first.config }
  result.mapError Halt.misuse

/-- The command that the words after the program's name ask for. -/
def ofArguments (words : List String) : Except Halt Command := do
  let (r, rest) ← readOptions (Chosen.version? :: Chosen.everywhere) { chosen := {} } words
  match rest with
  | [] => throw (.misuse .missingCommand)
  | name :: rest =>
    if name = helpVerb then throw (answerHelp rest)
    match verbs.find? (·.name = name) with
    | some verb => ofVerb verb r rest
    | none => throw (.misuse (.unknownCommand name))

end Command

/-- How the program is used. -/
def usageLines : List String :=
  ["Quantum circuit translator and step debugger", "", "Usage: qstep [OPTIONS] <COMMAND>", "",
    "Commands:"]
  ++ verbs.map (fun v => "  " ++ padRight 10 v.name ++ v.purpose)
  ++ ["  " ++ padRight 10 helpVerb ++ "Print this message or the help of the given subcommand(s)"]

end QuantumWorkbench
