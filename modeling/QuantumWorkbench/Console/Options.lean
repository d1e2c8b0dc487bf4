/-!
# Options

Options on a command line, in their long and their short forms, by a table of the options that there
are.

## Contents
- `Misuse`, `Halt`: why a command line leads to no command.
- `Effect`, `Choice`: an option, and what it does to the values chosen so far.
- `Reading`: the values chosen so far, and a value that is still due.
- `readOptions`: the options up to the first word that is none.
-/

namespace QuantumWorkbench

/-! ## Ends -/

/-- What is wrong with a command line. -/
inductive Misuse where
  | unknownOption (word : String)
  | missingValue (name : String)
  | unexpectedValue (name : String)
  | refusedValue (name value : String)
  | repeated (name : String)
  | missingOption (name : String)
  | unknownCommand (name : String)
  | missingCommand
  | unexpectedWord (word : String)
deriving DecidableEq, Repr

def Misuse.message : Misuse → String
  | unknownOption word => s!"unexpected argument '{word}' found"
  | missingValue name => s!"a value is required for '--{name}' but none was supplied"
  | unexpectedValue name => s!"unexpected value for '--{name}' found; no more were expected"
  | refusedValue name value => s!"invalid value '{value}' for '--{name}'"
  | repeated name => s!"the argument '--{name}' cannot be used multiple times"
  | missingOption name => s!"the required argument '--{name}' was not provided"
  | unknownCommand name => s!"unrecognized subcommand '{name}'"
  | missingCommand => "a subcommand is required but one was not provided"
  | unexpectedWord word => s!"unexpected argument '{word}' found"

/-- Why a command line leads to no command. -/
inductive Halt where
  | misuse (m : Misuse)
  /-- The reader asks how the program is used. -/
  | help
  /-- The reader asks for the version. -/
  | version
deriving DecidableEq, Repr

/-! ## Options -/

/-- How a value changes the values chosen so far. -/
abbrev Change (α : Type) := String → α → Except Misuse α

/-- What an option does to the values chosen so far. -/
inductive Effect (α : Type) where
  /-- It takes no value and chooses nothing. -/
  | mark
  /-- It ends the reading. -/
  | halt (reason : Halt)
  /-- It takes a value. -/
  | take (change : Change α)

/-- An option. -/
structure Choice (α : Type) where
  /-- The name behind two dashes. -/
  name : String
  /-- The letter behind one dash. -/
  letter : Option Char
  effect : Effect α

/-! ## Readings -/

/-- The values chosen so far. A value that is a word of its own is judged only when the next option
comes, or at the end. -/
structure Reading (α : Type) where
  chosen : α
  due : Option (α → Except Misuse α) := none

namespace Reading

variable {α : Type}

/-- The values with the one that is due. -/
def settle (r : Reading α) : Except Misuse α :=
  match r.due with
  | none => .ok r.chosen
  | some change => change r.chosen

/-- Judges a value at once, after the one that is due. -/
def apply (r : Reading α) (change : α → Except Misuse α) : Except Misuse (Reading α) := do
  let chosen ← change (← r.settle)
  return { chosen }

/-- Puts a value off. -/
def hold (r : Reading α) (change : α → Except Misuse α) : Except Misuse (Reading α) := do
  return { chosen := ← r.settle, due := some change }

end Reading

/-! ## Words -/

/-- Does the word stand for itself? All others begin with a dash; a single dash is such a
word too. -/
def isPlainWord (word : String) : Bool := word = "-" || word.toList.head? ≠ some '-'

/-- Behind this word there are no more options. -/
def endOfOptions : String := "--"

section

variable {α : Type}

/-- Reads a group of letters behind one dash. The first one that takes a value takes the rest of the
group, or the next word when nothing is left. -/
def readLetters (table : List (Choice α)) (r : Reading α) :
    List Char → Except Halt (Reading α × Option (String × Change α))
  | [] => .ok (r, none)
  | c :: cs =>
    match table.find? (·.letter = some c) with
    | none => .error (.misuse (.unknownOption (String.ofList ['-', c])))
    | some o =>
      match o.effect with
      | .mark => do
        let r ← (r.apply .ok).mapError .misuse
        readLetters table r cs
      | .halt reason => do
        let _ ← r.settle.mapError Halt.misuse
        .error reason
      | .take change =>
        match cs with
        | [] => .ok (r, some (o.name, change))
        | '=' :: value | value => do
          let r ← (r.apply (change (String.ofList value))).mapError Halt.misuse
          return (r, none)

/-- Reads a name behind two dashes, and the value that follows it after an equals sign. -/
def readName (table : List (Choice α)) (r : Reading α) (word : List Char) :
    Except Halt (Reading α × Option (String × Change α)) :=
  let name := String.ofList (word.takeWhile (· ≠ '='))
  let value := ((word.dropWhile (· ≠ '=')).tail?).map String.ofList
  match table.find? (·.name = name) with
  | none => .error (.misuse (.unknownOption ("--" ++ name)))
  | some o =>
    match o.effect, value with
    | .take change, none => .ok (r, some (o.name, change))
    | .take change, some value => do
      let r ← (r.apply (change value)).mapError Halt.misuse
      return (r, none)
    | .mark, none => do
      let r ← (r.apply .ok).mapError Halt.misuse
      return (r, none)
    | .halt reason, none => do
      let _ ← r.settle.mapError Halt.misuse
      .error reason
    | _, some _ => .error (.misuse (.unexpectedValue o.name))

/-- Reads a word that begins with a dash. An option whose value has to be the next word is given
back, with its name. -/
def readOption (table : List (Choice α)) (r : Reading α) (word : String) :
    Except Halt (Reading α × Option (String × Change α)) :=
  match word.toList with
  | '-' :: '-' :: name => readName table r name
  | '-' :: letters => readLetters table r letters
  | _ => .error (.misuse (.unexpectedWord word))

/-- Reads options and their values. What is left begins with a word that is neither. -/
def readOptions (table : List (Choice α)) (r : Reading α) :
    List String → Except Halt (Reading α × List String)
  | [] => .ok (r, [])
  | word :: rest =>
    if isPlainWord word || word = endOfOptions then .ok (r, word :: rest)
    else do
      match ← readOption table r word, rest with
      | (r, none), rest => readOptions table r rest
      | (r, some (name, change)), value :: rest =>
        if isPlainWord value then
          let r ← (r.hold (change value)).mapError Halt.misuse
          readOptions table r rest
        else .error (.misuse (.missingValue name))
      | (_, some (name, _)), [] => .error (.misuse (.missingValue name))

end

end QuantumWorkbench
