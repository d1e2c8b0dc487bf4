import QuantumWorkbench.Circuit.Fault

/-!
# Validation before evaluation

The bar that a circuit must pass before any evaluator sees it: every gate acts on a qubit of the
register. The first gate that does not is reported. Controls are not looked at here; they belong to
the invariants of the model.

## Contents
- `Circuit.validate`: for a circuit.
- `Circuit.validateJson`: for an untrusted value, whose gates may not be gates at all.
-/

namespace QuantumWorkbench.Circuit

/-- Validates the gates from number `i` on. -/
def validateGates (n : Index) : Nat → List Gate → Except Fault Unit
  | _, [] => .ok ()
  | i, g :: rest =>
    if n ≤ g.target then .error (.invalidQubit g.target.toNat i) else validateGates n (i + 1) rest

def validate (c : Circuit) : Except Fault Unit :=
  validateGates c.qubitCount 0 c.gates

/-- The qubit of an untrusted gate: the whole number under `qubit` in the object
under `position`. -/
def targetOfJson? (gate : Json) : Option Int := do
  let position ← gate.field? "position"
  guard position.isObject
  let qubit ← position.field? "qubit"
  qubit.integer?

/-- Validates untrusted gates from number `i` on, over `n` qubits. -/
def validateJsonGates (n : Int) : Nat → List Json → Except Fault Unit
  | _, [] => .ok ()
  | i, gate :: rest =>
    match targetOfJson? gate with
    | none => .error (.invalidGate i)
    | some q =>
      if q < 0 ∨ n ≤ q then .error (.invalidQubit q i) else validateJsonGates n (i + 1) rest

/-- Validates an untrusted value. A register size that is missing or no whole number counts as none
at all. -/
def validateJson (v : Json) : Except Fault Unit :=
  match (v.field? "gates").bind Json.items? with
  | none => .error (.malformed .gatesNotArray)
  | some gates =>
    validateJsonGates (((v.field? "qubits").bind Json.integer?).getD 0) 0 gates

end QuantumWorkbench.Circuit
