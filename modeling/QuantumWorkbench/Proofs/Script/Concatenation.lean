import QuantumWorkbench.Proofs.Circuit.Span
import QuantumWorkbench.Proofs.Script.Lines

/-!
# Scripts put together

A script is read line by line. Each line places an operation, or declares a register, or says nothing; the
number of a line and what the lines before it said matter only for the step at which the operation is placed.

## Contents
- `IsIdle`: a line that says nothing.
- `Circuit.ofLines_congr`: lines that say the same make the same circuit.
- `Circuit.placements_append`, `Circuit.qubitCount_append`: the gates and the register of two scripts.
- `Circuit.script_concatenation`: the circuit of two scripts, one behind the other.
-/

namespace QuantumWorkbench

/-- A line that neither places an operation nor declares a register. -/
def IsIdle (line : List Char) : Prop := Operation.ofLine? line = none ∧ ¬ DeclaresRegister line

instance : DecidablePred IsIdle := fun _ => inferInstanceAs (Decidable (_ ∧ _))

namespace Circuit

/-- The operations of a circuit in list order, with the numbers of their steps. -/
def placements (c : Circuit) : List (Operation × Nat) := c.gates.map fun g => (g.operation, g.step.toNat)

theorem length_gates_ofLines (lines : List (List Char)) :
    (ofLines lines).gates.length = (lines.filterMap Operation.ofLine?).length := by
  rw [gates_ofLines, List.length_mapIdx]

/-- The register is the first one that is declared. -/
theorem qubitCount_ofLines (lines : List (List Char)) :
    (ofLines lines).qubitCount = (lines.filterMap registerSize?).head?.getD 0 := by
  rw [List.head?_filterMap]
  rfl

/-- **Lines that say the same make the same circuit.** -/
theorem ofLines_congr {lines lines' : List (List Char)}
    (operations : lines.filterMap Operation.ofLine? = lines'.filterMap Operation.ofLine?)
    (registers : lines.filterMap registerSize? = lines'.filterMap registerSize?) :
    ofLines lines = ofLines lines' := by
  have gates : (ofLines lines).gates = (ofLines lines').gates := by
    rw [gates_ofLines, gates_ofLines, operations]
  have register : (ofLines lines).qubitCount = (ofLines lines').qubitCount := by
    rw [qubitCount_ofLines, qubitCount_ofLines, registers]
  have steps : (ofLines lines).stepCount = (ofLines lines').stepCount :=
    congrArg (fun gates : List Gate => UInt32.ofNat gates.length) gates
  have parts : ∀ lines, ofLines lines =
      { gates := (ofLines lines).gates, qubitCount := (ofLines lines).qubitCount,
        stepCount := (ofLines lines).stepCount, name := scriptName } := fun _ => rfl
  rw [parts lines, parts lines', gates, register, steps]

/-! ## Two scripts -/

theorem filterMap_operations_append (a b : String) :
    (textLines (a ++ "\n" ++ b)).filterMap Operation.ofLine? =
      (textLines a).filterMap Operation.ofLine? ++ (textLines b).filterMap Operation.ofLine? := by
  apply filterMap_textLines_append
  · intro line line' alike
    rw [Operation.ofLine?, Operation.ofLine?, Gate.ofLine?_congr alike]
  · exact Option.isNone_iff_eq_none.mp (by decide +kernel)

theorem filterMap_registers_append (a b : String) :
    (textLines (a ++ "\n" ++ b)).filterMap registerSize? =
      (textLines a).filterMap registerSize? ++ (textLines b).filterMap registerSize? := by
  apply filterMap_textLines_append
  · intro line line' alike
    exact registerSize?_congr alike
  · exact Option.isNone_iff_eq_none.mp (by decide +kernel)

/-- Lines that are idle are passed over. -/
theorem filterMap_operations_of_idle {lines : List (List Char)} (idle : ∀ line ∈ lines, IsIdle line) :
    lines.filterMap Operation.ofLine? = [] :=
  List.filterMap_eq_nil_iff.mpr fun line h => (idle line h).1

theorem filterMap_registers_of_idle {lines : List (List Char)} (idle : ∀ line ∈ lines, IsIdle line) :
    lines.filterMap registerSize? = [] := by
  apply List.filterMap_eq_nil_iff.mpr
  intro line h
  have undeclared : ¬ (registerSize? line).isSome := fun some => (idle line h).2 (registerSize?_isSome_iff.mp some)
  simpa using undeclared

/-! ## Few gates -/

theorem length_gates_lt {lines : List (List Char)} (few : lines.length < UInt32.size) :
    (ofLines lines).gates.length < UInt32.size := by
  rw [length_gates_ofLines]
  exact Nat.lt_of_le_of_lt (List.length_filterMap_le ..) few

section
variable {lines : List (List Char)} (few : (ofLines lines).gates.length < UInt32.size)
include few

/-- The steps of few gates do not wrap around. -/
theorem placements_ofLines :
    (ofLines lines).placements = (lines.filterMap Operation.ofLine?).zipIdx := by
  rw [length_gates_ofLines] at few
  rw [placements, gates_ofLines]
  apply List.ext_getElem
  · simp
  · intro i inside _
    rw [List.length_map, List.length_mapIdx] at inside
    simp [UInt32.toNat_ofNat_of_lt' (Nat.lt_trans inside few)]

theorem toNat_stepCount_ofLines : (ofLines lines).stepCount.toNat = (ofLines lines).gates.length :=
  UInt32.toNat_ofNat_of_lt' few

end

/-! ## One script behind the other -/

section
variable (a b : String)

theorem length_gates_append :
    (ofScript (a ++ "\n" ++ b) .qiskit).gates.length =
      (ofScript a .qiskit).gates.length + (ofScript b .qiskit).gates.length := by
  simp only [ofScript, length_gates_ofLines, filterMap_operations_append, List.length_append]

/-- **The second script goes on at the step at which the first one ends.** -/
theorem placements_append (few : (ofScript (a ++ "\n" ++ b) .qiskit).gates.length < UInt32.size) :
    (ofScript (a ++ "\n" ++ b) .qiskit).placements =
      (ofScript a .qiskit).placements ++
        (ofScript b .qiskit).placements.map fun (op, i) => (op, i + (ofScript a .qiskit).gates.length) := by
  have total := length_gates_append a b
  have first : (ofScript a .qiskit).gates.length < UInt32.size := by omega
  have second : (ofScript b .qiskit).gates.length < UInt32.size := by omega
  simp only [ofScript] at few first second ⊢
  rw [placements_ofLines few, placements_ofLines first, placements_ofLines second, length_gates_ofLines,
    filterMap_operations_append, List.zipIdx_append, Nat.zero_add]
  congr 1
  rw [List.zipIdx_eq_map_add]
  exact List.map_congr_left fun (op, i) _ => congrArg (Prod.mk op) (Nat.add_comm ..)

/-- **The register is that of the first script, if it has one.** -/
theorem qubitCount_append :
    ((∃ line ∈ textLines a, DeclaresRegister line) →
      (ofScript (a ++ "\n" ++ b) .qiskit).qubitCount = (ofScript a .qiskit).qubitCount) ∧
    ((∀ line ∈ textLines a, ¬ DeclaresRegister line) →
      (ofScript (a ++ "\n" ++ b) .qiskit).qubitCount = (ofScript b .qiskit).qubitCount) := by
  simp only [ofScript, qubitCount_ofLines, filterMap_registers_append, List.head?_append]
  cases first : (textLines a).filterMap registerSize? with
  | nil =>
      have silent := List.filterMap_eq_nil_iff.mp first
      refine ⟨?_, fun _ => rfl⟩
      rintro ⟨line, inside, declares⟩
      have some := registerSize?_isSome_iff.mpr declares
      rw [silent line inside] at some
      cases some
  | cons n others =>
      refine ⟨fun _ => rfl, ?_⟩
      intro none
      have member : n ∈ (textLines a).filterMap registerSize? := by
        rw [first]
        exact List.mem_cons_self
      obtain ⟨line, inside, size⟩ := List.mem_filterMap.mp member
      exact absurd (registerSize?_isSome_iff.mp (Option.isSome_of_eq_some size)) (none line inside)

end

/-! ## Line by line -/

/-- **A script is read line by line.**
* With a line feed between them, two scripts of fewer than `2 ^ 32` lines in all make one circuit. It has the
  gates of the first script, and then those of the second one, each as many steps later as the first script
  has gates. The step counts add up. The register is that of the first script if one of its lines calls for
  one, and that of the second one otherwise.
* So in what is read of any script of fewer than `2 ^ 32` lines the `i`-th gate stands at step `i`, there are
  as many steps as gates, and nothing but a missing register or a qubit outside of it can be wrong.
* Lines that place no gate and call for no register can be put in anywhere, at the front and at the end too,
  and the circuit stays as it is. -/
theorem script_concatenation :
    (∀ a b : String, (textLines (a ++ "\n" ++ b)).length < UInt32.size →
      let p := ofScript a .qiskit
      let q := ofScript b .qiskit
      let whole := ofScript (a ++ "\n" ++ b) .qiskit
      whole.placements = p.placements ++ q.placements.map (fun (op, i) => (op, i + p.gates.length)) ∧
      whole.stepCount.toNat = p.stepCount.toNat + q.stepCount.toNat ∧
      ((∃ line ∈ textLines a, DeclaresRegister line) → whole.qubitCount = p.qubitCount) ∧
      ((∀ line ∈ textLines a, ¬ DeclaresRegister line) → whole.qubitCount = q.qubitCount)) ∧
    (∀ text : String, (textLines text).length < UInt32.size →
      let p := ofScript text .qiskit
      (∀ (i : Nat) (g : Gate), p.gates[i]? = some g → g.step.toNat = i) ∧
      p.stepCount.toNat = p.gates.length ∧
      ∀ e, p.check = .error e → e = .emptyRegister ∨ (∃ q i, e = .qubitOutOfRange q i p.qubitCount) ∨
        ∃ q i, e = .controlOutOfRange q i p.qubitCount) ∧
    (∀ a b idle : String, (∀ line ∈ textLines idle, IsIdle line) →
      ofScript (a ++ "\n" ++ idle ++ "\n" ++ b) .qiskit = ofScript (a ++ "\n" ++ b) .qiskit ∧
      ofScript (idle ++ "\n" ++ b) .qiskit = ofScript b .qiskit ∧
      ofScript (a ++ "\n" ++ idle) .qiskit = ofScript a .qiskit) := by
  refine ⟨?_, ?_, ?_⟩
  · intro a b few p q whole
    have small : whole.gates.length < UInt32.size := length_gates_lt few
    have total : whole.gates.length = p.gates.length + q.gates.length := length_gates_append a b
    have fewFirst : p.gates.length < UInt32.size := by omega
    have fewSecond : q.gates.length < UInt32.size := by omega
    refine ⟨placements_append a b small, ?_, qubitCount_append a b⟩
    have steps : whole.stepCount.toNat = whole.gates.length := toNat_stepCount_ofLines small
    have first : p.stepCount.toNat = p.gates.length := toNat_stepCount_ofLines fewFirst
    have second : q.stepCount.toNat = q.gates.length := toNat_stepCount_ofLines fewSecond
    rw [steps, first, second, total]
  · intro text few p
    have serial : p.serial = p := serial_ofScript text .qiskit
    have small : p.gates.length < UInt32.size := length_gates_lt few
    refine ⟨?_, toNat_stepCount_ofLines small, ?_⟩
    · intro i g found
      rw [← serial] at found
      obtain ⟨inside, rfl⟩ := List.getElem?_eq_some_iff.mp found
      exact toNat_step_serial small inside
    · intro e wrong
      rw [← serial] at wrong
      exact check_error_of_serial small wrong
  · intro a b idle silent
    have operations := filterMap_operations_of_idle silent
    have registers := filterMap_registers_of_idle silent
    refine ⟨?_, ?_, ?_⟩
    · apply ofLines_congr
      · simp only [filterMap_operations_append, operations, List.append_nil]
      · simp only [filterMap_registers_append, registers, List.append_nil]
    · apply ofLines_congr
      · rw [filterMap_operations_append, operations, List.nil_append]
      · rw [filterMap_registers_append, registers, List.nil_append]
    · apply ofLines_congr
      · rw [filterMap_operations_append, operations, List.append_nil]
      · rw [filterMap_registers_append, registers, List.append_nil]

/-- A script whose last line ends in a carriage return, behind a quotation that is not closed. -/
def openEnded : String := "circuit.h(0)\r\nqr = QuantumRegister(2) 'two\r"

/-- A script that declares another register. -/
def sequel : String := "# none\n\nQuantumRegister(5)\ncircuit.cx(1, 7);"

/-- The circuit of both. -/
def joint : Circuit where
  gates := [.hadamard 0 0, ⟨.controlledNot 1 7 (by decide), 1⟩]
  qubitCount := 2
  stepCount := 2
  name := scriptName

theorem ofScript_sequel : ofScript (openEnded ++ "\n" ++ sequel) .qiskit = joint := by
  decide +kernel

theorem script_concatenation_sequel :
    let p := ofScript openEnded .qiskit
    let q := ofScript sequel .qiskit
    let whole := ofScript (openEnded ++ "\n" ++ sequel) .qiskit
    let error := CircuitError.qubitOutOfRange 7 1 2
    ((textLines (openEnded ++ "\n" ++ sequel)).length < UInt32.size ∧
      (∃ line ∈ textLines openEnded, DeclaresRegister line) ∧
      (∀ line ∈ textLines "", ¬ DeclaresRegister line) ∧ whole.check = .error error ∧
      ∀ line ∈ textLines "circuit.h(q)\n'", IsIdle line) ∧
    whole.placements = p.placements ++ q.placements.map (fun (op, i) => (op, i + p.gates.length)) ∧
    whole.stepCount.toNat = p.stepCount.toNat + q.stepCount.toNat ∧
    whole.qubitCount = p.qubitCount ∧
    (ofScript ("" ++ "\n" ++ sequel) .qiskit).qubitCount = q.qubitCount ∧ p.qubitCount ≠ q.qubitCount ∧
    (∀ (i : Nat) (g : Gate), whole.gates[i]? = some g → g.step.toNat = i) ∧
    whole.stepCount.toNat = whole.gates.length ∧
    (error = .emptyRegister ∨ (∃ q i, error = .qubitOutOfRange q i whole.qubitCount) ∨
      ∃ q i, error = .controlOutOfRange q i whole.qubitCount) ∧
    ofScript (openEnded ++ "\n" ++ "circuit.h(q)\n'" ++ "\n" ++ sequel) .qiskit = whole := by
  have few : (textLines (openEnded ++ "\n" ++ sequel)).length < UInt32.size := by decide +kernel
  have fewLater : (textLines ("" ++ "\n" ++ sequel)).length < UInt32.size := by decide +kernel
  have declares : ∃ line ∈ textLines openEnded, DeclaresRegister line := by decide +kernel
  have none : ∀ line ∈ textLines "", ¬ DeclaresRegister line := nofun
  have idle : ∀ line ∈ textLines "circuit.h(q)\n'", IsIdle line := by decide +kernel
  have wrong : (ofScript (openEnded ++ "\n" ++ sequel) .qiskit).check =
      .error (.qubitOutOfRange 7 1 2) := by
    rw [ofScript_sequel]
    rfl
  obtain ⟨placed, steps, register, -⟩ := script_concatenation.1 openEnded sequel few
  obtain ⟨-, -, -, later⟩ := script_concatenation.1 "" sequel fewLater
  obtain ⟨dense, count, faults⟩ := script_concatenation.2.1 (openEnded ++ "\n" ++ sequel) few
  exact ⟨⟨few, declares, none, wrong, idle⟩, placed, steps, register declares, later none,
    by decide +kernel, dense, count, faults _ wrong, (script_concatenation.2.2 openEnded sequel _ idle).1⟩

end Circuit

end QuantumWorkbench
