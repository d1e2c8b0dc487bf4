import QuantumWorkbench.Proofs.Debugger.Requests

/-!
# Where a failure lies

A call that fails reports the number of a gate. The evaluator has seen the first steps of the circuit only, and
numbers the gates that it has seen. A gate that is listed behind one of a later step has a smaller number there
than in the circuit.

## Contents
- `Circuit.IsOutside`: a numbered gate with a qubit outside the register.
- `Simulator.exists_of_check`: a fault names a gate of the circuit that was evaluated.
- `exists_of_getElem?_filter`: the place of a kept element among all elements.
- `Debugger.step_of_fault`: the gate at fault stands at the step that was tried.
- `Debugger.fault_localization`: which gate of the circuit under debug is at fault, and which number it gets.
- `Debugger.misplaced_fault`: a session whose fault names another gate.
-/

namespace QuantumWorkbench

namespace Circuit

/-- The gate with the number `i` has a qubit `q` that lies outside the register. -/
def IsOutside (c : Circuit) (i : Nat) (q : Int) : Prop :=
  ∃ gate, c.gates[i]? = some gate ∧ ∃ x ∈ gate.qubits, c.qubitCount ≤ x ∧ q = x.toNat

end Circuit

/-- **What is kept of a list stands behind what is kept before it.** -/
theorem exists_of_getElem?_filter {α : Type} {p : α → Bool} {l : List α} {i : Nat} {a : α}
    (h : (l.filter p)[i]? = some a) : ∃ j, l[j]? = some a ∧ p a = true ∧ (l.take j).countP p = i := by
  induction l generalizing i with
  | nil => cases h
  | cons b rest ih =>
      by_cases kept : p b = true
      · rw [List.filter_cons_of_pos kept] at h
        cases i with
        | zero =>
            cases h
            exact ⟨0, rfl, kept, rfl⟩
        | succ i =>
            obtain ⟨j, found, own, count⟩ := ih h
            refine ⟨j + 1, found, own, ?_⟩
            rw [List.take_succ_cons, List.countP_cons_of_pos kept, count]
      · rw [List.filter_cons_of_neg kept] at h
        obtain ⟨j, found, own, count⟩ := ih h
        refine ⟨j + 1, found, own, ?_⟩
        rw [List.take_succ_cons, List.countP_cons_of_neg kept, count]

namespace Simulator

variable {s : Simulator} {c : Circuit}

/-- **The simulator refuses a valid circuit for its size, or for a control**, which it names. -/
theorem exists_of_check {fault : Fault} {i : Nat} (h : s.check c = .error fault)
    (valid : c.validate = .ok ()) (located : fault.gate? = some i) :
    ∃ gate q, c.gates[i]? = some gate ∧ gate.control? = some q ∧ c.qubitCount ≤ q ∧
      fault = .invalidQubit q.toNat i := by
  rcases check_eq_error_iff.mp h with ⟨-, rfl⟩ | ⟨-, ⟨j, q, first, rfl⟩ | ⟨-, j, q, first, rfl⟩⟩
  · cases located
  · obtain ⟨gate, found, ⟨⟩⟩ := first.found
    have inside := Circuit.validate_eq_ok_iff.mp valid gate (List.mem_of_getElem? found)
    exact absurd inside (UInt32.not_lt.mpr first.outside)
  · obtain ⟨gate, found, control⟩ := first.found
    cases located
    exact ⟨gate, q, found, control, first.outside, rfl⟩

theorem exists_of_evaluate {error : EvaluatorError} (h : s.evaluate c = .error error) :
    ∃ fault, s.check c = .error fault ∧ error.fault = fault := by
  obtain ⟨fault, refused, rfl⟩ := evaluate_eq_error_iff.mp h
  exact ⟨fault, refused, rfl⟩

/-- What the simulator has answered with a success is inside its register. -/
theorem inside_of_evaluate {a : Evaluation} (h : s.evaluate c = .ok a) : ∀ g ∈ c.gates, g.Inside c.qubitCount :=
  (check_eq_ok_iff.mp (evaluate_eq_ok_iff.mp h).1).2

end Simulator

namespace Debugger

section
variable {simulator : Simulator} {events : List Event} {g n : Nat} {c : Circuit}
  (upholds : Upholds simulator.Gives {} events) (opened : .opened g c ∈ history {} events)
include upholds opened

/-- **The gate at fault is the one at the step that was tried**: had it been at an earlier step, the success
about that step would not have been given. -/
theorem step_of_fault {limit : Index} {answer : Answer} {gate : Gate} {q : Index}
    (settled : .settled n g limit answer ∈ history {} events) (member : gate ∈ c.gates)
    (control : gate.control? = some q) (beyond : c.qubitCount ≤ q) : limit.toNat ≤ gate.step.toNat + 1 := by
  have hl : Recorded (history {} events) := (ledger_run events).recorded
  by_cases later : limit.toNat ≤ gate.step.toNat + 1
  · exact later
  · obtain ⟨before, after, split⟩ := List.append_of_mem settled
    obtain ⟨m, l, e, success, next⟩ := exists_success_before hl split (by omega)
    obtain ⟨draws, said⟩ := rule_of_settled upholds opened success
    have kept : gate ∈ (c.upTo l).gates := by
      rw [Circuit.gates_upTo, List.mem_filter]
      exact ⟨member, decide_eq_true (UInt32.lt_iff_toNat_lt.mpr (by omega))⟩
    have inside : gate.Inside c.qubitCount := Simulator.inside_of_evaluate said.symm gate kept
    exact absurd ((Gate.inside_iff.mp inside).2 q control) (UInt32.not_lt.mpr beyond)

end

/-- **A fault is about a gate whose control lies outside the register, and counts the gates that the evaluator
saw before it.** Let all answers of a run be those of the simulator, and let a call report a fault at a gate in
a session on the circuit `c`. The gate at fault stands somewhere in the list, and its control is the qubit of
the fault. The number in the fault is that of the gates before it in the list that stand at its step or at an
earlier one. So it is the number of the gate in the circuit if and only if no gate at a later step is listed
before it, as is the case where gates are listed step by step. -/
theorem fault_localization {simulator : Simulator} {events : List Event}
    (upholds : Upholds simulator.Gives {} events) {g : Nat} {c : Circuit}
    (opened : .opened g c ∈ history {} events) {n : Nat} {call : Call} {outcome : Outcome}
    (found : (run {} events).call? n = some call) (own : call.generation = g)
    (finishing : call.stage = .finishing outcome) {q : Int} {i : Nat}
    (reports : outcome.failure? = some (.invalidQubit q i)) :
    (∃ j gate control, c.gates[j]? = some gate ∧ gate.control? = some control ∧ c.qubitCount ≤ control ∧
      q = control.toNat ∧ i = (c.gates.take j).countP (·.step ≤ gate.step) ∧
      (i = j ↔ ∀ other ∈ c.gates.take j, other.step ≤ gate.step)) ∧
    (c.gates.Pairwise (·.step ≤ ·.step) → c.IsOutside i q) := by
  obtain ⟨m, limit, error, told, settled⟩ := reported_run events found finishing reports
  rw [own] at settled
  obtain ⟨draws, said⟩ := rule_of_settled upholds opened settled
  have valid : c.validate = .ok () := (faithful_run upholds).valid opened
  obtain ⟨fault, refused, rfl⟩ := Simulator.exists_of_evaluate said.symm
  obtain ⟨gate, control, seen, controls, beyond, named⟩ :=
    Simulator.exists_of_check refused (Circuit.validate_upTo valid limit) (by rw [told]; rfl)
  rw [Circuit.gates_upTo] at seen
  obtain ⟨j, place, early, count⟩ := exists_of_getElem?_filter seen
  have member : gate ∈ c.gates := List.mem_of_getElem? place
  -- The question was about the steps up to that of the gate at fault.
  have reached := step_of_fault upholds opened settled member controls beyond
  have below := UInt32.lt_iff_toNat_lt.mp (of_decide_eq_true early)
  have seenSteps : ∀ other : Gate, decide (other.step < limit) = decide (other.step ≤ gate.step) := by
    intro other
    rw [decide_eq_decide, UInt32.lt_iff_toNat_lt, UInt32.le_iff_toNat_le]
    omega
  have number : i = (c.gates.take j).countP (·.step ≤ gate.step) := by
    rw [← count]
    exact congrArg (List.countP · _) (funext seenSteps)
  have inside : j < c.gates.length := (List.getElem?_eq_some_iff.mp place).1
  have first : i = j ↔ ∀ other ∈ c.gates.take j, other.step ≤ gate.step := by
    have all := List.countP_eq_length (p := (·.step ≤ gate.step)) (l := c.gates.take j)
    rw [← number, List.length_take_of_le (Nat.le_of_lt inside)] at all
    simpa using all
  rw [told] at named
  cases named
  refine ⟨⟨j, gate, control, place, controls, beyond, rfl, number, first⟩, ?_⟩
  intro sorted
  have before : ∀ other ∈ c.gates.take j, other.step ≤ gate.step := by
    intro other listed
    obtain ⟨k, earlier, rfl⟩ := List.mem_take_iff_getElem.mp listed
    obtain ⟨_, rfl⟩ := List.getElem?_eq_some_iff.mp place
    exact List.pairwise_iff_getElem.mp sorted k j _ inside (by omega)
  rw [first.mpr before]
  exact ⟨gate, place, control, List.mem_append_left _ (Option.mem_toList.mpr controls), beyond, rfl⟩

/-- A step of a session on a circuit, with the answer of the simulator. -/
def firstStep (c : Circuit) : List Event :=
  [.start c, .begin .step, .decide 0, .answer 0 (Simulator.seeded.evaluate (c.upTo 1))]

/-- A circuit of one step, with a control outside its register. -/
def stray : Circuit where
  gates := [.hadamard 0 0, ⟨.controlledNot 7 1 (by decide), 0⟩]
  qubitCount := 2
  stepCount := 1
  name := "stray"

theorem fault_localization_stray :
    Upholds Simulator.seeded.Gives {} (firstStep stray) ∧ .opened 1 stray ∈ history {} (firstStep stray) ∧
    (∃ call outcome, (run {} (firstStep stray)).call? 0 = some call ∧ call.generation = 1 ∧
      call.stage = .finishing outcome ∧ outcome.failure? = some (.invalidQubit 7 1)) ∧
    stray.gates.Pairwise (·.step ≤ ·.step) ∧ stray.IsOutside 1 7 := by
  have upholds : Upholds Simulator.seeded.Gives {} (firstStep stray) :=
    ⟨nofun, nofun, nofun, keeps_answer rfl rfl ⟨Simulator.seeded.draws, rfl⟩, trivial⟩
  have opened : .opened 1 stray ∈ history {} (firstStep stray) := .head _
  have sorted : stray.gates.Pairwise (·.step ≤ ·.step) := by decide
  exact ⟨upholds, opened, ⟨_, _, rfl, rfl, rfl, rfl⟩, sorted,
    (fault_localization upholds opened (n := 0) rfl rfl rfl rfl).2 sorted⟩

/-- A circuit whose first gate stands at its last step. The control of the other gate lies outside. -/
def tangled : Circuit where
  gates := [.hadamard 0 1, ⟨.controlledNot 7 0 (by decide), 0⟩]
  qubitCount := 2
  stepCount := 2
  name := "tangled"

/-- The step fails, and the fault names the first gate, which is inside the register. -/
theorem misplaced_fault :
    Upholds Simulator.seeded.Gives {} (firstStep tangled) ∧
    .opened 1 tangled ∈ history {} (firstStep tangled) ∧
    (∃ call outcome, (run {} (firstStep tangled)).call? 0 = some call ∧ call.generation = 1 ∧
      call.stage = .finishing outcome ∧ outcome.failure? = some (.invalidQubit 7 0)) ∧
    ¬ tangled.IsOutside 0 7 := by
  refine ⟨⟨nofun, nofun, nofun, keeps_answer rfl rfl ⟨Simulator.seeded.draws, rfl⟩, trivial⟩, .head _,
    ⟨_, _, rfl, rfl, rfl, rfl⟩, ?_⟩
  rintro ⟨gate, first, q, touched, beyond, -⟩
  cases first
  cases List.mem_singleton.mp touched
  exact absurd beyond (by decide)

end Debugger

end QuantumWorkbench
