import QuantumWorkbench.Proofs.Circuit.Span
import QuantumWorkbench.Proofs.Script.RoundTrip
import QuantumWorkbench.Proofs.Simulator.Order

/-!
# What an exported circuit computes

A script lists the gates and says nothing of their steps, so whoever reads it runs the gates in list
order. The simulator runs the circuit itself in the order of the steps.

## Contents
- `Circuit.finalState_serial`: the simulator runs a serial circuit in list order.
- `Circuit.crossed_export_differs`: a circuit whose export computes something else.
- `Circuit.export_follows_list`: what every export computes, and when that is what the circuit does.
-/

namespace QuantumWorkbench

namespace Circuit

/-! ## Serial circuits -/

theorem operations_serial (c : Circuit) :
    c.serial.gates.map (·.operation) = c.gates.map (·.operation) :=
  map_serial_gates c fun _ _ => rfl

/-- The gates of a serial circuit are listed step by step, unless their numbers wrap around. -/
theorem orderly_serial {c : Circuit} (few : c.gates.length < UInt32.size) : c.serial.Orderly := by
  apply orderly_of_sorted
  rw [List.pairwise_iff_getElem]
  intro i j hi hj lt
  rw [UInt32.le_iff_toNat_le, toNat_step_serial few hi, toNat_step_serial few hj]
  exact Nat.le_of_lt lt

/-- Steps do not matter to the state behind a list. -/
theorem listState_eq_foldl (c : Circuit) :
    c.listState = (c.gates.map (·.operation)).foldl Statevector.apply (.ground _) := by
  rw [listState, List.foldl_map]

theorem listState_serial (c : Circuit) : c.serial.listState = c.listState := by
  have folded := listState_eq_foldl c.serial
  rw [operations_serial] at folded
  exact folded.trans (listState_eq_foldl c).symm

/-- **The simulator runs a serial circuit in list order.** -/
theorem finalState_serial {c : Circuit} (few : c.gates.length < UInt32.size) :
    c.serial.finalState = c.listState :=
  (finalState_of_orderly (orderly_serial few)).trans (listState_serial c)

theorem measuredQubits_serial (c : Circuit) : c.serial.measuredQubits = c.measuredQubits := by
  have measures : ∀ (gates : List Gate) (q : Nat),
      gates.any (fun g => g.kind = .measure ∧ g.target.toNat = q) =
        (gates.map (·.operation)).any fun op => op.kind = .measure ∧ op.target.toNat = q := by
    intro gates q
    rw [List.any_map]
    rfl
  show (List.range c.qubitCount.toNat).filter _ = _
  simp only [measuredQubits, measures, operations_serial]

theorem inside_serial {c : Circuit} {n : Index} (inside : ∀ g ∈ c.gates, g.Inside n) :
    ∀ g ∈ c.serial.gates, g.Inside n := by
  have qubits : c.serial.gates.map Gate.qubits = c.gates.map Gate.qubits :=
    map_serial_gates c fun _ _ => rfl
  intro g hg
  have listed : g.qubits ∈ c.gates.map Gate.qubits := by
    rw [← qubits]
    exact List.mem_map_of_mem hg
  obtain ⟨own, hown, same⟩ := List.mem_map.mp listed
  intro q hq
  exact inside own hown q (same ▸ hq)

end Circuit

namespace Circuit

/-! ## Exports -/

/-- A flip of the control, listed behind the gate that it controls and placed before it. -/
def crossed : Circuit where
  gates := [⟨.controlledNot 0 1 (by decide), 1⟩, .pauliX 0 0]
  qubitCount := 2
  stepCount := 2
  name := "crossed"

/-- **An export may compute something else than the circuit.** This one loses the step at which the
control is flipped: the circuit ends with both qubits set, its export with the first only. -/
theorem crossed_export_differs :
    ofGates "crossed" 2 crossed.gates = .ok crossed ∧
    crossed.qubitCount ≤ Simulator.seeded.maxQubits ∧
    (Simulator.seeded.evaluate crossed).map (·.states) = .ok [⟨0, 0.0, 1.0⟩, ⟨1, 0.0, 1.0⟩] ∧
    (Simulator.seeded.evaluate (ofScript (crossed.toScript .qiskit) .qiskit)).map (·.states) =
      .ok [⟨0, 0.0, 1.0⟩, ⟨1, 1.0, 0.0⟩] := by
  have sorted : crossed.schedule = [.pauliX 0 0, ⟨.controlledNot 0 1 (by decide), 1⟩] := by
    simp [schedule, crossed, List.mergeSort, List.MergeSort.Internal.splitInTwo, Gate.pauliX]
  have own : crossed.finalState.qubitStates = [⟨0, 0.0, 1.0⟩, ⟨1, 0.0, 1.0⟩] := by
    rw [finalState, sorted]
    decide +kernel
  have listed : crossed.listState.qubitStates = [⟨0, 0.0, 1.0⟩, ⟨1, 1.0, 0.0⟩] := by
    decide +kernel
  refine ⟨rfl, by decide, ?_, ?_⟩
  · rw [Simulator.evaluate_of_check rfl]
    exact congrArg Except.ok own
  · rw [ofScript_toScript, Simulator.evaluate_of_check rfl]
    show Except.ok crossed.serial.finalState.qubitStates = _
    rw [finalState_serial (by decide)]
    exact congrArg Except.ok listed

/-- **An export is run in list order.** Take any circuit that is built over a register within the
limit of the simulator, with fewer than `2 ^ 32` gates.
* The circuit and its export are both accepted, and they measure the same qubits.
* The export shows the state behind the gates in list order.
* If the list is orderly, that is, if gates listed against the order of their steps may change places,
  the export is answered as the circuit is: with the same states and the same counts. -/
theorem export_follows_list (s : Simulator) (name : String) (n : Index) (gates : List Gate)
    (c : Circuit) (built : ofGates name n gates = .ok c) (within : n ≤ s.maxQubits)
    (few : gates.length < UInt32.size) :
    let p := ofScript (c.toScript .qiskit) .qiskit
    ∃ own exported, s.evaluate c = .ok own ∧ s.evaluate p = .ok exported ∧
      p.measuredQubits = c.measuredQubits ∧
      exported.states = c.listState.qubitStates ∧
      (c.Orderly → exported = own) := by
  intro p
  have read : p = c.serial := ofScript_toScript c
  obtain ⟨sound, rfl, rfl⟩ := ofGates_eq_ok built
  obtain ⟨-, inside, -⟩ := check_eq_ok sound
  have accepted : s.check c = .ok () := Simulator.check_eq_ok_iff.mpr ⟨within, inside⟩
  have acceptedToo : s.check c.serial = .ok () :=
    Simulator.check_eq_ok_iff.mpr ⟨within, inside_serial inside⟩
  rw [read]
  refine ⟨s.run c, s.run c.serial, Simulator.evaluate_of_check accepted,
    Simulator.evaluate_of_check acceptedToo, measuredQubits_serial c, ?_, ?_⟩
  · show c.serial.finalState.qubitStates = _
    rw [finalState_serial few]
    rfl
  · intro orderly
    have state : c.serial.finalState = c.finalState :=
      (finalState_serial few).trans (finalState_of_orderly orderly).symm
    unfold Simulator.run
    simp only [state, measuredQubits_serial]
    rfl

/-- An entangled pair, with its first two gates listed against their steps. -/
def shuffled : Circuit where
  gates := [.hadamard 0 1, .pauliX 1 0, ⟨.controlledNot 0 1 (by decide), 2⟩, .measure 1 3]
  qubitCount := 2
  stepCount := 4
  name := "shuffled"

theorem export_follows_list_shuffled :
    ofGates "shuffled" 2 shuffled.gates = .ok shuffled ∧ (2 : Index) ≤ Simulator.seeded.maxQubits ∧
    shuffled.gates.length < UInt32.size ∧ shuffled.Orderly ∧
    let p := ofScript (shuffled.toScript .qiskit) .qiskit
    ∃ own, Simulator.seeded.evaluate shuffled = .ok own ∧ Simulator.seeded.evaluate p = .ok own ∧
      p.measuredQubits = [1] ∧ own.states = shuffled.listState.qubitStates := by
  have built : ofGates "shuffled" 2 shuffled.gates = .ok shuffled := rfl
  have orderly : shuffled.Orderly := by decide
  obtain ⟨own, exported, answered, answeredToo, measured, states, same⟩ :=
    export_follows_list Simulator.seeded "shuffled" 2 shuffled.gates shuffled built (by decide)
      (by decide)
  obtain rfl := same orderly
  exact ⟨built, by decide, by decide, orderly, exported, answered, answeredToo, measured, states⟩

end Circuit

end QuantumWorkbench
