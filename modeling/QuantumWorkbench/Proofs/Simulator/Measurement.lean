import Mathlib.Data.List.Destutter
import Mathlib.Data.List.Sort
import QuantumWorkbench.Proofs.Simulator.Incremental
import QuantumWorkbench.Proofs.Simulator.Outcomes

/-!
# Measurements

A measurement leaves the state vector as it is and says only that its qubit belongs into the outcome of a shot. So
the measurements of a circuit can be taken out, moved or repeated, and all that shows is which qubits are
measured.

## Contents
- `Circuit.withoutMeasurements`: the other gates of a circuit. `Circuit.finalState_withoutMeasurements`: they are
  what the state vector depends on.
- `Circuit.measuredQubits_eq`: the measured qubits are the targets measured along the schedule, sorted and without
  repetitions.
- `Simulator.evaluate_of_alike`: the other gates and the qubits that are measured decide the answer.
- `Simulator.measurements_only_counted`: what measurements do to the answer, and what the counts say.
-/

namespace QuantumWorkbench

namespace Circuit

variable {c c' : Circuit}

/-! ## The other gates -/

/-- The circuit without its measurements. -/
def withoutMeasurements (c : Circuit) : Circuit := { c with gates := c.gates.filter (·.kind ≠ .measure) }

/-- Gates that are taken out are missing in the schedule, and nothing else changes there. -/
theorem schedule_filter (c : Circuit) (p : Gate → Bool) :
    ({ c with gates := c.gates.filter p } : Circuit).schedule = c.schedule.filter p := by
  refine eq_of_sorted_of_filter (sorted_schedule _) ((sorted_schedule c).filter p) fun k => ?_
  have swap : ∀ l : List Gate, (l.filter p).filter (·.step = k) = (l.filter (·.step = k)).filter p := by
    intro l
    rw [List.filter_filter, List.filter_filter]
    exact List.filter_congr fun g _ => Bool.and_comm _ _
  rw [filter_schedule, swap, filter_schedule]
  exact swap c.gates

/-- **Measurements leave the state vector as it is.** -/
theorem finalState_withoutMeasurements (c : Circuit) : c.withoutMeasurements.finalState = c.finalState := by
  have silent : ∀ {n : Nat} (v : Statevector n) (g : Gate),
      (if decide (g.kind ≠ .measure) = true then v.apply g.operation else v) = v.apply g.operation := by
    intro n v ⟨op, step⟩
    cases op <;> rfl
  have others : c.withoutMeasurements.schedule = c.schedule.filter (·.kind ≠ .measure) := schedule_filter c _
  unfold finalState
  rw [others, List.foldl_filter]
  simp only [silent]
  rfl

/-! ## Which qubits are measured -/

/-- Inside the register, the list of measured qubits misses none of them. -/
theorem mem_measuredQubits_iff (inside : ∀ g ∈ c.gates, g.Inside c.qubitCount) {q : Nat} :
    q ∈ c.measuredQubits ↔ c.Measures q := by
  rw [mem_measuredQubits]
  refine and_iff_right_of_imp ?_
  rintro ⟨g, hg, -, rfl⟩
  exact UInt32.lt_iff_toNat_lt.mp (Gate.inside_iff.mp (inside g hg)).1

theorem sorted_measuredQubits (c : Circuit) : c.measuredQubits.Pairwise (· < ·) :=
  List.pairwise_lt_range.filter _

/-- The targets of the measurements along the schedule, one for each measurement. -/
def measuredTargets (c : Circuit) : List Nat :=
  (c.schedule.filter (·.kind = .measure)).map (·.target.toNat)

theorem mem_measuredTargets {q : Nat} : q ∈ c.measuredTargets ↔ c.Measures q := by
  simp only [measuredTargets, Measures, List.mem_map, List.mem_filter, mem_schedule, decide_eq_true_eq, and_assoc]

/-- **Inside the register, the measured qubits are the targets measured along the schedule**, sorted, and with each
run of equal targets reduced to one of them. -/
theorem measuredQubits_eq (inside : ∀ g ∈ c.gates, g.Inside c.qubitCount) :
    c.measuredQubits = (c.measuredTargets.mergeSort (· ≤ ·)).destutter (· ≠ ·) := by
  let sorted := c.measuredTargets.mergeSort (· ≤ ·)
  have ascending : sorted.Pairwise (· ≤ ·) := List.pairwise_mergeSort' (· ≤ ·) _
  have single : sorted.destutter (· ≠ ·) = sorted.dedup := ascending.destutter_eq_dedup
  -- A sorted list without repetitions is known by its members.
  have strict : sorted.dedup.Pairwise (· < ·) :=
    ((ascending.sublist (List.dedup_sublist _)).and (List.nodup_dedup _)).imp fun ⟨le, ne⟩ => Nat.lt_of_le_of_ne le ne
  have members : ∀ q, q ∈ c.measuredQubits ↔ q ∈ sorted.dedup := by
    intro q
    rw [mem_measuredQubits_iff inside, List.mem_dedup, List.mem_mergeSort, mem_measuredTargets]
  rw [single]
  exact c.sorted_measuredQubits.eq_of_mem_iff strict members

theorem measuredQubits_eq_nil (unmeasured : ∀ q, ¬ c.Measures q) : c.measuredQubits = [] :=
  List.eq_nil_iff_forall_not_mem.mpr fun q hq => unmeasured q (mem_measuredQubits.mp hq).2

/-- A circuit with the same other gates and the same measured qubits lies in the register as well. -/
theorem inside_of_alike (others : c'.withoutMeasurements.gates = c.withoutMeasurements.gates)
    (measured : ∀ q, c'.Measures q ↔ c.Measures q) {n : Index} (inside : ∀ g ∈ c.gates, g.Inside n) :
    ∀ g ∈ c'.gates, g.Inside n := by
  intro g hg
  by_cases measures : g.kind = .measure
  · obtain ⟨own, hown, -, target⟩ := (measured g.target.toNat).mp ⟨g, hg, measures, rfl⟩
    have uncontrolled : g.control? = none := by
      obtain ⟨op, step⟩ := g
      cases op with
      | measure q => rfl
      | _ => cases measures
    refine Gate.inside_iff.mpr ⟨?_, fun control h => ?_⟩
    · rw [← UInt32.toNat_inj.mp target]
      exact (Gate.inside_iff.mp (inside own hown)).1
    · rw [uncontrolled] at h
      cases h
  · have kept : g ∈ c'.withoutMeasurements.gates := List.mem_filter.mpr ⟨hg, decide_eq_true measures⟩
    rw [others] at kept
    exact inside g (List.mem_filter.mp kept).1

end Circuit

namespace Simulator

variable {s : Simulator} {c c' : Circuit} {answer : Evaluation}

/-- **The other gates and the measured qubits decide the answer.** -/
theorem evaluate_of_alike (accepted : s.evaluate c = .ok answer) (qubits : c'.qubitCount = c.qubitCount)
    (others : c'.withoutMeasurements.gates = c.withoutMeasurements.gates)
    (measured : ∀ q, c'.Measures q ↔ c.Measures q) : s.evaluate c' = .ok answer := by
  obtain ⟨passed, rfl⟩ := evaluate_eq_ok_iff.mp accepted
  obtain ⟨small, inside⟩ := check_eq_ok_iff.mp passed
  have schedules : c'.withoutMeasurements.schedule = c.withoutMeasurements.schedule :=
    congrArg (List.mergeSort · fun a b : Gate => a.step ≤ b.step) others
  have state : c'.finalState.toArray = c.finalState.toArray := by
    rw [← Circuit.finalState_withoutMeasurements c', ← Circuit.finalState_withoutMeasurements c]
    exact Circuit.finalState_congr schedules qubits
  have passed' : s.check c' = .ok () := by
    rw [check_eq_ok_iff, qubits]
    exact ⟨small, Circuit.inside_of_alike others measured inside⟩
  rw [evaluate_of_check passed', run_congr qubits state (Circuit.measuredQubits_of_measures qubits measured)]

/-- A circuit that measures has the counts of the basis states that are drawn. -/
theorem measurements_run (inside : ∀ g ∈ c.gates, g.Inside c.qubitCount) {q : Nat} (measured : c.Measures q) :
    (s.run c).measurements =
      countOutcomes c.measuredQubits s.shots.toNat fun k => c.finalState.sample (s.draws k) := by
  have listed : q ∈ c.measuredQubits := (Circuit.mem_measuredQubits_iff inside).mpr measured
  exact if_neg fun empty => List.ne_nil_of_mem listed (List.isEmpty_iff.mp empty)

/-- **Measurements affect the counts only, and the counts partition the shots.** Take any circuit that the simulator
answers.
* Without its measurements it is answered with the very same states of the qubits.
* A circuit without measurements has no counts.
* Otherwise an outcome has a letter for each qubit that is measured, however often: the `j`-th letter from the right
  is the bit of the `j`-th smallest of them. The answer has the counts of the basis states that are drawn. For
  whatever basis states these are, the counts sum up to the number of shots, exactly the outcomes that occurred are
  listed, each with the number of shots that came out so, and two shots come out alike if and only if their basis
  states agree on all measured qubits.
* A circuit that has the same other gates and measures the same qubits, by measurements of any number and at any
  steps and places of the list, is given the same answer. -/
theorem measurements_only_counted (s : Simulator) (c : Circuit) (answer : Evaluation)
    (accepted : s.evaluate c = .ok answer) :
    (∃ bare, s.evaluate c.withoutMeasurements = .ok bare ∧ bare.states = answer.states) ∧
    ((∀ g ∈ c.gates, g.kind ≠ .measure) → answer.measurements = .empty) ∧
    (∃ qubits : List Nat, qubits.Pairwise (· < ·) ∧ (∀ q, q ∈ qubits ↔ c.Measures q) ∧
      (∀ i, (bitText qubits i).toList.reverse = qubits.map fun q => if i.testBit q then '1' else '0') ∧
      ((∃ g ∈ c.gates, g.kind = .measure) → answer.measurements =
        countOutcomes qubits s.shots.toNat fun k => c.finalState.sample (s.draws k)) ∧
      ∀ basis : Nat → Nat,
        let counts := countOutcomes qubits s.shots.toNat basis
        (counts.entries.map fun e => e.2.toNat).sum = s.shots.toNat ∧
        (∀ text n, (text, n) ∈ counts.entries ↔
          (∃ k < s.shots.toNat, bitText qubits (basis k) = text) ∧
          n.toNat = (List.range s.shots.toNat).countP fun k => bitText qubits (basis k) = text) ∧
        ∀ j k, bitText qubits (basis j) = bitText qubits (basis k) ↔
          ∀ q ∈ qubits, (basis j).testBit q = (basis k).testBit q) ∧
    ∀ c' : Circuit, c'.qubitCount = c.qubitCount →
      c'.withoutMeasurements.gates = c.withoutMeasurements.gates →
      (∀ q, c'.Measures q ↔ c.Measures q) → s.evaluate c' = .ok answer := by
  obtain ⟨passed, rfl⟩ := evaluate_eq_ok_iff.mp accepted
  obtain ⟨small, inside⟩ := check_eq_ok_iff.mp passed
  have few : s.shots.toNat < UInt64.size := Nat.lt_trans s.shots.toNat_lt (by decide)
  refine ⟨⟨s.run c.withoutMeasurements, ?_, ?_⟩, fun unmeasured => ?_, ⟨c.measuredQubits, ?_, ?_, ?_, ?_, ?_⟩, ?_⟩
  · exact evaluate_of_check (check_eq_ok_iff.mpr ⟨small, fun g hg => inside g (List.mem_filter.mp hg).1⟩)
  · exact congrArg Statevector.qubitStates (Circuit.finalState_withoutMeasurements c)
  · have none_measured : c.measuredQubits = [] :=
      Circuit.measuredQubits_eq_nil fun q ⟨g, hg, measures, _⟩ => unmeasured g hg measures
    exact if_pos (List.isEmpty_iff.mpr none_measured)
  · exact Circuit.sorted_measuredQubits c
  · exact fun q => Circuit.mem_measuredQubits_iff inside
  · exact reverse_toList_bitText c.measuredQubits
  · rintro ⟨g, hg, measures⟩
    exact measurements_run inside ⟨g, hg, measures, rfl⟩
  · intro basis counts
    exact ⟨sum_countOutcomes few, fun text n => mem_countOutcomes_iff few, fun j k => bitText_eq_iff⟩
  · intro c' qubits others measured
    exact evaluate_of_alike accepted qubits others measured

/-- Three qubits, the last of which is measured twice, and the first before it is spread again. -/
def remeasured : Circuit where
  gates := [.measure 2 5, .hadamard 0 0, .measure 0 1, ⟨.controlledNot 2 1 (by decide), 2⟩, .hadamard 0 3, .measure 2 0]
  qubitCount := 3
  stepCount := 6
  name := "remeasured"

theorem measurements_only_counted_remeasured :
    let moved : Circuit := { remeasured with gates := [.hadamard 0 0, ⟨.controlledNot 2 1 (by decide), 2⟩, .hadamard 0 3,
      .measure 2 4, .measure 0 4] }
    ∃ answer, seeded.evaluate remeasured = .ok answer ∧ seeded.evaluate moved = .ok answer ∧
      (∃ bare, seeded.evaluate remeasured.withoutMeasurements = .ok bare ∧ bare.states = answer.states) ∧
      (answer.measurements.entries.map fun e => e.2.toNat).sum = 1024 := by
  intro moved
  have accepted : seeded.evaluate remeasured = .ok (seeded.run remeasured) := evaluate_of_check rfl
  obtain ⟨bare, -, ⟨qubits, -, -, -, drawn, partition⟩, alike⟩ := measurements_only_counted seeded remeasured _ accepted
  have measured : ∀ q, moved.Measures q ↔ remeasured.Measures q := by
    intro q
    have twice : remeasured.Measures q ↔ 2 = q ∨ 0 = q ∨ 2 = q := by
      simp [Circuit.Measures, remeasured, Gate.hadamard, Gate.measure, Gate.kind, Gate.target, Operation.kind,
        Operation.target]
    have once : moved.Measures q ↔ 2 = q ∨ 0 = q := by
      simp [Circuit.Measures, moved, Gate.hadamard, Gate.measure, Gate.kind, Gate.target, Operation.kind,
        Operation.target]
    rw [once, twice]
    omega
  refine ⟨seeded.run remeasured, accepted, alike moved rfl rfl measured, bare, ?_⟩
  rw [drawn ⟨.measure 2 5, .head _, rfl⟩]
  exact (partition _).1

end Simulator

end QuantumWorkbench
