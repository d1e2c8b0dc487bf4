import QuantumWorkbench.Proofs.Settings.Sound
import QuantumWorkbench.Proofs.Simulator.Guarded

/-!
# What the simulator accepts

Settings bound the register, validation bounds the targets, and a pass of the simulator bounds the controls. The three
together keep a simulation inside its vector, also for circuits that were never checked against the invariants of the
model: with an empty register, with several gates in one place, or with a step count of their own.

## Contents
- `Settings.maxQubits_le`: valid settings limit the register to 30 qubits.
- `Simulator.numbers_run`: the states of an answer are those of all qubits in order.
- `Simulator.accepts_exactly`: what is accepted and simulated within bounds, and what is reported otherwise.
-/

namespace QuantumWorkbench

/-- **Valid settings limit the register** to what can be held. -/
theorem Settings.maxQubits_le {s : Settings} (valid : s.validate = .ok ()) : s.maxQubits ≤ 30 :=
  (validate_eq_ok_iff.mp valid).maxQubits.2

namespace Simulator

theorem numbers_run (s : Simulator) (c : Circuit) :
    (s.run c).states.map (·.qubit.toNat) = List.range c.qubitCount.toNat := by
  have number : ∀ q : Fin c.qubitCount.toNat, (UInt32.ofNat q).toNat = q := fun q =>
    UInt32.toNat_ofNat_of_lt' (Nat.lt_trans q.isLt c.qubitCount.toNat_lt)
  rw [← List.map_coe_finRange_eq_range]
  exact (List.map_map ..).trans (List.map_congr_left fun q _ => number q)

/-- **The simulator rejects exactly what it must and never leaves its bounds.** Take valid settings and any circuit.
* It is answered if and only if its register is within the limit and all targets and controls are inside.
* Answered on arrays and machine words, with a guard before each shift and each access, it gets the same answer.
* An accepted circuit is simulated without meeting a guard, and the answer has the states of all qubits in order.
* Another circuit is refused whatever a simulation would come to.
* The size is reported first, else the first gate whose target is outside, else the first gate whose control is. -/
theorem accepts_exactly (settings : Settings) (valid : settings.validate = .ok ()) (draws : Draws) (c : Circuit) :
    let s := ofSettings settings draws
    let n := c.qubitCount
    ((∃ answer, s.evaluate c = .ok answer) ↔
      n ≤ settings.maxQubits ∧
        ∀ g ∈ c.gates, g.target < n ∧ ∀ control, g.control? = some control → control < n) ∧
    Guarded.answer? s c (Guarded.run? s c) = some (s.evaluate c) ∧
    (∀ answer, s.evaluate c = .ok answer →
      Guarded.run? s c = some answer ∧ answer.states.map (·.qubit.toNat) = List.range n.toNat) ∧
    (∀ error, s.evaluate c = .error error → ∀ simulation, Guarded.answer? s c simulation = some (.error error)) ∧
    ∀ error, s.evaluate c = .error error ↔ ∃ fault, error = .invalidCircuit fault ∧
      ((settings.maxQubits < n ∧ fault = .malformed (.registerTooLarge n settings.maxQubits)) ∨
      n ≤ settings.maxQubits ∧
        ((∃ i target, Circuit.FirstOutside (fun g => some g.target) n c.gates i target ∧
          fault = .invalidQubit target.toNat i) ∨
        (∀ g ∈ c.gates, g.target < n) ∧
          ∃ i control, Circuit.FirstOutside Gate.control? n c.gates i control ∧
            fault = .invalidQubit control.toNat i)) := by
  intro s n
  have simulated : s.check c = .ok () → Guarded.run? s c = some (s.run c) := by
    intro passed
    obtain ⟨within, inside⟩ := check_eq_ok_iff.mp passed
    have small : n ≤ 30 := UInt32.le_trans within (Settings.maxQubits_le valid)
    exact Guarded.run?_eq (Nat.lt_of_le_of_lt (UInt32.le_iff_toNat_le.mp small) (by decide)) s inside
  refine ⟨?_, ?_, ?_, ?_, fun error => ?_⟩
  · have accepts : s.check c = .ok () ↔ n ≤ settings.maxQubits ∧ ∀ g ∈ c.gates, g.Inside n := check_eq_ok_iff
    simp only [Gate.inside_iff] at accepts
    rw [← accepts]
    exact ⟨fun ⟨_, accepted⟩ => (evaluate_eq_ok_iff.mp accepted).1, fun passed => ⟨_, evaluate_of_check passed⟩⟩
  · cases answered : s.evaluate c with
    | ok answer =>
        obtain ⟨passed, rfl⟩ := evaluate_eq_ok_iff.mp answered
        rw [Guarded.answer?_of_ok answered, simulated passed]
        rfl
    | error error => exact Guarded.answer?_of_error answered _
  · intro answer accepted
    obtain ⟨passed, rfl⟩ := evaluate_eq_ok_iff.mp accepted
    exact ⟨simulated passed, numbers_run s c⟩
  · exact fun error => Guarded.answer?_of_error
  · constructor
    · intro refused
      obtain ⟨fault, found, rfl⟩ := evaluate_eq_error_iff.mp refused
      exact ⟨fault, rfl, check_eq_error_iff.mp found⟩
    · rintro ⟨fault, rfl, found⟩
      exact evaluate_eq_error_iff.mpr ⟨fault, check_eq_error_iff.mpr found, rfl⟩

/-- Gates that share places and a qubit that is measured twice, with a step count that does not fit. -/
def stacked (n target : Index) : Circuit where
  gates := [.pauliX 1 0, ⟨.controlledNot 3 1 (by decide), 0⟩, ⟨.controlledNot 3 2 (by decide), 0⟩, .measure target 9,
    .measure target 9]
  qubitCount := n
  stepCount := 0
  name := "stacked"

theorem accepts_exactly_stacked :
    let settings : Settings := { maxQubits := 4 }
    let s := ofSettings settings (.ofSeed 0)
    settings.validate = .ok () ∧
    (∃ answer, s.evaluate (stacked 4 1) = .ok answer ∧ Guarded.run? s (stacked 4 1) = some answer ∧
      answer.states.map (·.qubit.toNat) = [0, 1, 2, 3]) ∧
    s.evaluate (stacked 5 1) = .error (.invalidCircuit (.malformed (.registerTooLarge 5 4))) ∧
    s.evaluate (stacked 3 3) = .error (.invalidCircuit (.invalidQubit 3 3)) ∧
    s.evaluate (stacked 3 2) = .error (.invalidCircuit (.invalidQubit 3 1)) ∧
    s.evaluate (stacked 0 2) = .error (.invalidCircuit (.invalidQubit 1 0)) := by
  intro settings s
  have valid : settings.validate = .ok () := by decide +kernel
  obtain ⟨accepts, -, within, -, -⟩ := accepts_exactly settings valid (.ofSeed 0) (stacked 4 1)
  have inside : ∀ g ∈ (stacked 4 1).gates, g.Inside 4 := by
    simp [stacked, Gate.inside_iff, Gate.pauliX, Gate.measure, Gate.target, Gate.control?, Operation.target,
      Operation.control?]
  obtain ⟨answer, accepted⟩ := accepts.mpr ⟨by decide, fun g hg => Gate.inside_iff.mp (inside g hg)⟩
  obtain ⟨simulated, numbers⟩ := within answer accepted
  refine ⟨valid, ⟨answer, accepted, simulated, numbers⟩, rfl, rfl, rfl, rfl⟩

end Simulator

end QuantumWorkbench
