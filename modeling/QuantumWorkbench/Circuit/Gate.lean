/-!
# Gates

The operations a circuit may contain and their places on the grid of qubits and logical steps.

## Contents
- `Index`: qubits and steps are numbered by 32-bit words.
- `GateKind`: the closed set of kinds, with the names that circuit files use.
- `Operation`: a kind together with the qubits it acts on. A controlled operation carries its
  control, and the control differs from the target; both facts hold by the shape of the type.
- `Gate`: an operation at a step. `Gate.ofParts` builds one from loose parts and says what is wrong
  with them; `Gate.parts_of_ofParts` says that it keeps what it was given.
-/

namespace QuantumWorkbench

/-- The number of a qubit or of a logical step. -/
abbrev Index := UInt32

/-- The largest index. Nothing can be placed one past it. -/
def Index.last : Index := 4294967295

/-- The kinds of operation. -/
inductive GateKind where
  | hadamard
  | pauliX
  | controlledNot
  | measure
deriving DecidableEq, Repr

namespace GateKind

/-- The name of a kind in circuit files and in messages. -/
def name : GateKind → String
  | hadamard => "H"
  | pauliX => "X"
  | controlledNot => "CNOT"
  | measure => "MEASURE"

/-- The kinds in the order in which messages list them. -/
def all : List GateKind := [hadamard, pauliX, controlledNot, measure]

def ofName? (name : String) : Option GateKind :=
  all.find? fun kind => kind.name = name

/-- The number of qubits that an operation of this kind acts on. -/
def arity : GateKind → Nat
  | controlledNot => 2
  | hadamard | pauliX | measure => 1

theorem ofName?_name (kind : GateKind) : ofName? kind.name = some kind := by
  cases kind <;> decide

end GateKind

/-- A place on the grid: a qubit at a step. -/
structure Position where
  qubit : Index
  step : Index
deriving DecidableEq, Repr

instance : ToString Position where
  toString p := s!"q{p.qubit}@{p.step}"

/-- A kind of operation with the qubits it acts on. -/
inductive Operation where
  | hadamard (qubit : Index)
  | pauliX (qubit : Index)
  /-- Flips `target` where `control` is set. A qubit does not control itself. -/
  | controlledNot (control target : Index) (control_ne_target : control ≠ target)
  | measure (qubit : Index)
deriving DecidableEq, Repr

namespace Operation

def kind : Operation → GateKind
  | hadamard _ => .hadamard
  | pauliX _ => .pauliX
  | controlledNot .. => .controlledNot
  | measure _ => .measure

/-- The qubit that the operation changes or reads. -/
def target : Operation → Index
  | hadamard q | pauliX q | measure q => q
  | controlledNot _ t _ => t

def control? : Operation → Option Index
  | controlledNot c _ _ => some c
  | hadamard _ | pauliX _ | measure _ => none

/-- The qubits the operation touches, the control before the target. -/
def qubits (op : Operation) : List Index :=
  op.control?.toList ++ [op.target]

/-- The highest qubit the operation touches. -/
def maxQubit (op : Operation) : Index :=
  match op.control? with
  | some c => max c op.target
  | none => op.target

theorem control?_isSome_iff (op : Operation) :
    op.control?.isSome ↔ op.kind = .controlledNot := by
  cases op <;> simp [control?, kind]

theorem mem_qubits {op : Operation} {q : Index} :
    q ∈ op.qubits ↔ op.control? = some q ∨ q = op.target := by
  rw [qubits, List.mem_append, Option.mem_toList, List.mem_singleton]

theorem control?_ne_target (op : Operation) : op.control? ≠ some op.target := by
  cases op with
  | controlledNot c t ne => simpa [control?, target] using ne
  | _ => simp [control?]

/-- An operation is known by its kind, its target and its control. -/
theorem ext_parts {a b : Operation} (hk : a.kind = b.kind) (ht : a.target = b.target)
    (hc : a.control? = b.control?) : a = b := by
  cases a <;> cases b <;> simp_all [kind, target, control?]

end Operation

/-- An operation at a step of a circuit. -/
structure Gate where
  operation : Operation
  step : Index
deriving DecidableEq, Repr

/-- What is wrong with the parts of a gate. -/
inductive GateError where
  /-- The kind acts under a control and none is given. -/
  | missingControl (kind : GateKind) (step : Index)
  /-- A control is given to a kind that takes none. -/
  | unexpectedControl (kind : GateKind) (step : Index)
  /-- The control is the target. -/
  | selfControlled (qubit step : Index)
deriving DecidableEq, Repr

def GateError.message : GateError → String
  | missingControl kind step => s!"{kind.name} gate at step {step} requires a control qubit"
  | unexpectedControl kind step =>
    s!"{kind.name} gate at step {step} does not take a control qubit"
  | selfControlled qubit step =>
    s!"Gate at step {step} is controlled by its own target qubit {qubit}"

namespace Gate

def kind (g : Gate) : GateKind := g.operation.kind
def target (g : Gate) : Index := g.operation.target
def control? (g : Gate) : Option Index := g.operation.control?
def qubits (g : Gate) : List Index := g.operation.qubits
def maxQubit (g : Gate) : Index := g.operation.maxQubit
def position (g : Gate) : Position := ⟨g.target, g.step⟩

/-- The grid places the gate occupies, the control's before the target's. -/
def slots (g : Gate) : List Position := g.qubits.map (⟨·, g.step⟩)

def hadamard (qubit step : Index) : Gate := ⟨.hadamard qubit, step⟩
def pauliX (qubit step : Index) : Gate := ⟨.pauliX qubit, step⟩
def measure (qubit step : Index) : Gate := ⟨.measure qubit, step⟩

/-- A controlled-NOT, unless the control is the target. -/
def controlledNot (control target step : Index) : Except GateError Gate :=
  if h : control = target then .error (.selfControlled control step)
  else .ok ⟨.controlledNot control target h, step⟩

/-- The gate of the given kind at `position`, if exactly the controlled kind has a control and the
control is not the target. -/
def ofParts (kind : GateKind) (position : Position) (control : Option Index) :
    Except GateError Gate :=
  match kind, control with
  | .controlledNot, some c => controlledNot c position.qubit position.step
  | .controlledNot, none => .error (.missingControl kind position.step)
  | .hadamard, none => .ok (hadamard position.qubit position.step)
  | .pauliX, none => .ok (pauliX position.qubit position.step)
  | .measure, none => .ok (measure position.qubit position.step)
  | _, some _ => .error (.unexpectedControl kind position.step)

/-- A gate is the one built from its own parts. -/
theorem ofParts_self (g : Gate) : ofParts g.kind g.position g.control? = .ok g := by
  obtain ⟨op, step⟩ := g
  cases op with
  | controlledNot c t ne =>
    simp [ofParts, controlledNot, kind, position, target, control?, Operation.kind,
      Operation.target, Operation.control?, ne]
  | _ => rfl

/-- A gate that was built has the parts it was built from. -/
theorem parts_of_ofParts {kind : GateKind} {position : Position} {control : Option Index} {g : Gate}
    (h : ofParts kind position control = .ok g) :
    g.kind = kind ∧ g.position = position ∧ g.control? = control := by
  unfold ofParts at h
  split at h
  · unfold controlledNot at h
    split at h
    · cases h
    · cases h; exact ⟨rfl, rfl, rfl⟩
  all_goals first | cases h; exact ⟨rfl, rfl, rfl⟩ | cases h

end Gate

/-- The text of a gate: `H q0@2`, or `CNOT q0 -> q1@2` with the control first. -/
instance : ToString Gate where
  toString g :=
    match g.control? with
    | some c => s!"{g.kind.name} q{c} -> {g.position}"
    | none => s!"{g.kind.name} {g.position}"

end QuantumWorkbench
