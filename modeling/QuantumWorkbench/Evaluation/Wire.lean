import QuantumWorkbench.Evaluation.Basic
import QuantumWorkbench.Json.Reader
import QuantumWorkbench.Json.Shape

/-!
# Evaluations as JSON

## Contents
- `QubitState.toJson`, `QubitState.ofJson`: a state, with its amplitudes in a record of their own.
- `Evaluation.ofJson`, `Evaluation.parse?`: the answer of a service. Both of its parts may be
  missing, and other fields are passed over.
-/

namespace QuantumWorkbench

namespace QubitState

def toJson (s : QubitState) : Json :=
  .obj [("qubit", .int s.qubit.toNat),
    ("state", .obj [("alpha", .real s.zero), ("beta", .real s.one)])]

def alphaField : Field Float := { name := "alpha", read := Json.readDouble }
def betaField : Field Float := { name := "beta", read := Json.readDouble }

/-- The amplitudes for `0` and for `1`. -/
def amplitudesOfJson : Json → Except ShapeError (Float × Float) :=
  Json.readRecord "WireAmplitudes" [alphaField.toCheck, betaField.toCheck] fun fields => do
    let alpha ← alphaField.get fields
    let beta ← betaField.get fields
    return (alpha, beta)

def qubitField : Field Index := { name := "qubit", read := Json.readIndex }
def stateField : Field (Float × Float) := { name := "state", read := amplitudesOfJson }

def ofJson : Json → Except ShapeError QubitState :=
  Json.readRecord "WireState" [qubitField.toCheck, stateField.toCheck] fun fields => do
    let qubit ← qubitField.get fields
    let (zero, one) ← stateField.get fields
    return { qubit, zero, one }

end QubitState

/-- Counts out of an object from outcomes to numbers. -/
def Counts.ofJson (v : Json) : Except ShapeError Counts :=
  match v with
  | .obj fields => do
    let entries ← fields.mapM fun (outcome, n) => (outcome, ·) <$> n.readCount
    return ofList entries
  | _ => v.mismatch "a map"

namespace Evaluation

def measurementsField : Field Counts :=
  { name := "measurements", read := Counts.ofJson, missing? := some .empty }
def statesField : Field (List QubitState) :=
  { name := "states", read := Json.readList QubitState.ofJson, missing? := some [] }

def ofJson : Json → Except ShapeError Evaluation :=
  Json.readRecord "Evaluation" [measurementsField.toCheck, statesField.toCheck] fun fields => do
    let measurements ← measurementsField.get fields
    let states ← statesField.get fields
    return { measurements, states }

/-- The evaluation that a text holds. Repeated outcomes count as the last one, and a repeated part
is an error. -/
def parse? (text : String) : Option Evaluation :=
  (Json.read? text).bind fun v => (ofJson v).toOption

end Evaluation

end QuantumWorkbench
