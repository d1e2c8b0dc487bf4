import QuantumWorkbench.Json.Shape

/-!
# Dialects

The notations in which a circuit can be written as a program.

## Contents
- `Dialect`: a notation that is read and written, and one that is only written.
- `Dialect.ofName`: a dialect by any of its names, in any case.
- `Dialect.ofExtension?`: a dialect by the extension of a file.
- `Dialect.ofJson`: a dialect in data, where names are exact.
-/

namespace QuantumWorkbench

/-- A notation for circuits. -/
inductive Dialect where
  /-- Scripts of calls on a circuit object. -/
  | qiskit
  /-- Operations on an array of qubits. This notation is written and not read. -/
  | qsharp
deriving DecidableEq, Repr

/-- A name that no dialect has. -/
structure UnknownDialect where
  name : String
deriving DecidableEq, Repr

def UnknownDialect.message (e : UnknownDialect) : String :=
  s!"Unknown dialect '{e.name}'. Available: python (qiskit), qsharp (q#)"

namespace Dialect

def name : Dialect → String
  | qiskit => "qiskit"
  | qsharp => "qsharp"

/-- Whether scripts in the dialect are read. -/
def isReadable : Dialect → Bool
  | qiskit => true
  | qsharp => false

/-- The usual extension of files in the dialect. -/
def extension : Dialect → String
  | qiskit => "py"
  | qsharp => "qs"

/-- The dialect with the given name, where only ASCII letters are known in any case. -/
def ofName (name : String) : Except UnknownDialect Dialect :=
  match name.toLower with
  | "python" | "qiskit" | "py" => .ok qiskit
  | "qsharp" | "q#" | "qs" => .ok qsharp
  | other => .error { name := other }

/-- The dialect of files with the given extension. -/
def ofExtension? (ext : String) : Option Dialect :=
  match ext.toLower with
  | "py" => some qiskit
  | "qs" => some qsharp
  | _ => none

/-- The names in data. -/
def ofDataName? : String → Option Dialect
  | "qiskit" | "python" => some qiskit
  | "qsharp" | "q#" => some qsharp
  | _ => none

def ofJson (v : Json) : Except ShapeError Dialect :=
  v.readVariant ["python", "qiskit", "q#", "qsharp"] ofDataName?

end Dialect

end QuantumWorkbench
