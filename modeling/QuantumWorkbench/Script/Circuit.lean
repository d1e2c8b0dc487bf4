import QuantumWorkbench.Circuit.Basic
import QuantumWorkbench.Script.Dialect
import QuantumWorkbench.Script.Line
import QuantumWorkbench.Text.Lines

/-!
# Circuits as scripts

## Contents
- `Circuit.ofScript`: the circuit of a script. Each line that stands for a gate takes the next step,
  so that steps count gates and not lines. Reading never fails: a script that says nothing gives an
  empty circuit, and the validator judges the result.
- `Circuit.toScript`: the script of a circuit, one line for each gate between a fixed head and a
  fixed end. Writing never fails either.
-/

namespace QuantumWorkbench.Circuit

/-! ## Reading -/

/-- The name of every circuit that is read from a script. -/
def scriptName : String := "Parsed Circuit"

/-- The gates of some lines, the first of them at `step`. -/
def gatesOfLines (step : Index) : List (List Char) → List Gate
  | [] => []
  | line :: rest =>
    match Gate.ofLine? line step with
    | some g => g :: gatesOfLines (step + 1) rest
    | none => gatesOfLines step rest

/-- The circuit of a script in the dialect that is read. The register is the first one declared. -/
def ofLines (lines : List (List Char)) : Circuit :=
  let gates := gatesOfLines 0 lines
  { gates, qubitCount := (lines.findSome? registerSize?).getD 0,
    stepCount := UInt32.ofNat gates.length, name := scriptName }

/-- The circuit of a script. A dialect that is not read gives an empty circuit. -/
def ofScript (text : String) : Dialect → Circuit
  | .qiskit => ofLines (textLines text)
  | .qsharp => { gates := [], qubitCount := 0, stepCount := 0, name := scriptName }

/-! ## Writing -/

/-- The call that places a gate. -/
def callLine (g : Gate) : String :=
  match g.operation with
  | .hadamard q => s!"circuit.h({q})"
  | .pauliX q => s!"circuit.x({q})"
  | .controlledNot c t _ => s!"circuit.cx({c}, {t})"
  | .measure q => s!"circuit.measure({q}, {q})"

/-- The statement that applies a gate. -/
def statementLine (g : Gate) : String :=
  match g.operation with
  | .hadamard q => s!"H(qubits[{q}]);"
  | .pauliX q => s!"X(qubits[{q}]);"
  | .controlledNot c t _ => s!"CNOT(qubits[{c}], qubits[{t}]);"
  | .measure q => s!"set results w/= {q} <- M(qubits[{q}]);"

/-- The lines of a script of calls. -/
def callScript (c : Circuit) : List String :=
  ["from qiskit import QuantumCircuit, QuantumRegister, ClassicalRegister",
    "",
    "# Create quantum registers",
    s!"qr = QuantumRegister({c.qubitCount})",
    s!"cr = ClassicalRegister({c.qubitCount})",
    "circuit = QuantumCircuit(qr, cr)",
    ""]
  ++ c.gates.map callLine

/-- The lines of an operation in its namespace. -/
def operationScript (c : Circuit) : List String :=
  ["namespace QuantumProgram \x7b",
    "    open Microsoft.Quantum.Canon;",
    "    open Microsoft.Quantum.Intrinsic;",
    "",
    "    operation RunCircuit() : Result[] \x7b",
    s!"        use qubits = Qubit[{c.qubitCount}];",
    s!"        mutable results = new Result[{c.qubitCount}];",
    ""]
  ++ c.gates.map (fun g => "        " ++ statementLine g)
  ++ ["",
    "        return results;",
    "    \x7d",
    "\x7d"]

/-- The lines of the script of a circuit. -/
def scriptLines (c : Circuit) : Dialect → List String
  | .qiskit => c.callScript
  | .qsharp => c.operationScript

/-- The script of a circuit. Every line ends in a line feed. -/
def toScript (c : Circuit) (d : Dialect) : String := joinLines (c.scriptLines d)

end QuantumWorkbench.Circuit
