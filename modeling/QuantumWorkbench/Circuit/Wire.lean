import QuantumWorkbench.Circuit.Validate
import QuantumWorkbench.Json.Reader

/-!
# Circuits as JSON

## Contents
- `Gate.toJson`, `Circuit.toJson`: the written form. A control and a description are written only
  where there is one.
- `Gate.ofJson`: a gate with all its invariants.
- `Circuit.ofJson`, `Circuit.parse`: the strict loader. It validates the untrusted value first, so
  that a malformed circuit is reported in the words of the validator. The step count is that of the
  gates; a declared count must agree.
-/

namespace QuantumWorkbench

namespace GateKind

/-- A kind by its name. -/
def ofJson (v : Json) : Except ShapeError GateKind :=
  v.readVariant (all.map name) ofName?

end GateKind

namespace Position

def toJson (p : Position) : Json :=
  .obj [("qubit", .int p.qubit.toNat), ("step", .int p.step.toNat)]

def qubitField : Field Index := { name := "qubit", read := Json.readIndex }
def stepField : Field Index := { name := "step", read := Json.readIndex }

def ofJson : Json → Except ShapeError Position :=
  Json.readRecord "Position" [qubitField.toCheck, stepField.toCheck] fun fields => do
    let qubit ← qubitField.get fields
    let step ← stepField.get fields
    return { qubit, step }

end Position

namespace Gate

def toJson (g : Gate) : Json :=
  .obj <| [("type", .str g.kind.name), ("position", g.position.toJson)]
    ++ (g.control?.map fun c => ("control", Json.int c.toNat)).toList

def kindField : Field GateKind := { name := "type", read := GateKind.ofJson }
def positionField : Field Position := { name := "position", read := Position.ofJson }
def controlField : Field (Option Index) :=
  { name := "control", read := Json.readOption Json.readIndex, missing? := some none }

def ofJson : Json → Except ShapeError Gate :=
  Json.readRecord "RawGate" [kindField.toCheck, positionField.toCheck, controlField.toCheck]
    fun fields => do
      let kind ← kindField.get fields
      let position ← positionField.get fields
      let control ← controlField.get fields
      (ofParts kind position control).mapError fun e => .inconsistent e.message

end Gate

namespace Circuit

def toJson (c : Circuit) : Json :=
  .obj <| [("gates", .arr (c.gates.map Gate.toJson)), ("qubits", .int c.qubitCount.toNat),
      ("steps", .int c.stepCount.toNat), ("name", .str c.name)]
    ++ (c.description.map fun d => ("description", Json.str d)).toList

/-- A circuit as it is declared, its gates unread. -/
structure Declaration where
  gates : List Json
  qubits : Index
  steps : Option Index
  name : String
  description : Option String

namespace Declaration

def gatesField : Field (List Json) := { name := "gates", read := Json.readList .ok }
def qubitsField : Field Index :=
  { name := "qubits", read := Json.readIndex, missing? := some 0 }
def stepsField : Field (Option Index) :=
  { name := "steps", read := Json.readOption Json.readIndex, missing? := some none }
def nameField : Field String := { name := "name", read := Json.readString, missing? := some "" }
def descriptionField : Field (Option String) :=
  { name := "description", read := Json.readOption Json.readString, missing? := some none }

def ofJson : Json → Except ShapeError Declaration :=
  Json.readRecord "RawCircuit"
    [gatesField.toCheck, qubitsField.toCheck, stepsField.toCheck, nameField.toCheck,
      descriptionField.toCheck]
    fun fields => do
      let gates ← gatesField.get fields
      let qubits ← qubitsField.get fields
      let steps ← stepsField.get fields
      let name ← nameField.get fields
      let description ← descriptionField.get fields
      return { gates, qubits, steps, name, description }

end Declaration

/-- Reads the gates from number `i` on. -/
def readGates : Nat → List Json → Except Fault (List Gate)
  | _, [] => .ok []
  | i, v :: rest => do
    let g ← (Gate.ofJson v).mapError fun e => .malformed (.gateShape i e)
    return g :: (← readGates (i + 1) rest)

/-- The circuit that an untrusted value declares. -/
def ofJson (v : Json) : Except Fault Circuit := do
  validateJson v
  let declared ← (Declaration.ofJson v).mapError fun e => .malformed (.shape e)
  let gates ← readGates 0 declared.gates
  let stepCount ← (checkedSpan gates).mapError fun e => .malformed (.unsound e)
  if declared.steps.any (· ≠ stepCount) then
    throw (.malformed (.unsound (.stepCountMismatch (declared.steps.getD 0) stepCount)))
  return { gates, qubitCount := declared.qubits, stepCount, name := declared.name,
           description := declared.description }

/-- The circuit that a text declares. -/
def parse (text : String) : Except Fault Circuit :=
  match Json.parse? text with
  | some v => ofJson v
  | none => .error (.malformed .notJson)

end Circuit

end QuantumWorkbench
