import QuantumWorkbench.Proofs.Circuit.Span

/-!
# Circuits that can be built

A circuit is built over a register that is given or over the smallest one that holds the gates. This module says
of which gates and registers there is a circuit, in terms of the gates alone, and which register is the smallest.

## Contents
- `Gate.inside_iff_maxQubit`: a register holds a gate if it holds its highest qubit.
- `Circuit.exists_ofGates_iff`: building over a given register.
- `Circuit.fitting_eq_ok_iff`, `Circuit.register_le_iff`: building over the smallest register.
- `Circuit.checked_construction`: what can be built, what is reported, and what fits.
-/

namespace QuantumWorkbench

/-- A register holds a gate if it holds the highest of its qubits. -/
theorem Gate.inside_iff_maxQubit {n : Index} {g : Gate} : g.Inside n ↔ g.maxQubit < n := by
  rw [Gate.inside_iff]
  obtain ⟨op, step⟩ := g
  cases op with
  | hadamard q | pauliX q | measure q =>
      show q < n ∧ (∀ c, none = some c → c < n) ↔ q < n
      exact and_iff_left nofun
  | controlledNot c t ne =>
      show t < n ∧ (∀ q, some c = some q → q < n) ↔ max c t < n
      rw [Index.max_lt_iff]
      constructor
      · rintro ⟨target, control⟩
        exact ⟨control c rfl, target⟩
      · rintro ⟨control, target⟩
        refine ⟨target, fun q same => ?_⟩
        cases same
        exact control

namespace Circuit

variable {name : String} {n : Index} {gates : List Gate} {c : Circuit}

/-! ## Over a given register -/

/-- Gates span a number of steps unless one of them is at the largest step. -/
theorem exists_span_iff : (∃ steps, span gates = .ok steps) ↔ ∀ g ∈ gates, g.step ≠ Index.last := by
  unfold span
  rw [exists_extent_iff, List.mem_map]
  constructor
  · intro room g hg top
    exact room ⟨g, hg, top⟩
  · rintro room ⟨g, hg, top⟩
    exact room g hg top

/-- **There is a circuit over a register** if it has a qubit and holds the gates, none of them at the largest
step. -/
theorem exists_ofGates_iff :
    (∃ c, ofGates name n gates = .ok c) ↔
      1 ≤ n ∧ Placed n gates ∧ ∀ g ∈ gates, g.step ≠ Index.last := by
  rw [Index.one_le_iff, ← exists_span_iff]
  constructor
  · rintro ⟨c, built⟩
    obtain ⟨⟨rfl, rfl, -, -⟩, sound⟩ := ofGates_eq_ok_iff.mp built
    obtain ⟨register, placed, counted⟩ := check_eq_ok_iff.mp sound
    exact ⟨register, placed, c.stepCount, counted⟩
  · rintro ⟨register, placed, steps, counted⟩
    let c : Circuit := { gates, qubitCount := n, stepCount := steps, name }
    have sound : c.check = .ok () := check_eq_ok_iff.mpr ⟨register, placed, counted⟩
    exact ⟨c, ofGates_eq_ok_iff.mpr ⟨⟨rfl, rfl, rfl, rfl⟩, sound⟩⟩

/-- There is a circuit over a register if the one that declares the steps of the gates is sound. -/
theorem exists_ofGates_iff_check :
    (∃ c, ofGates name n gates = .ok c) ↔
      ∃ steps, span gates = .ok steps ∧
        ({ gates, qubitCount := n, stepCount := steps, name } : Circuit).check = .ok () := by
  constructor
  · rintro ⟨⟨listed, register, steps, text, description⟩, built⟩
    obtain ⟨⟨rfl, rfl, rfl, rfl⟩, sound⟩ := ofGates_eq_ok_iff.mp built
    exact ⟨steps, (check_eq_ok_iff.mp sound).2.2, sound⟩
  · rintro ⟨steps, -, sound⟩
    exact ⟨_, ofGates_eq_ok_iff.mpr ⟨⟨rfl, rfl, rfl, rfl⟩, sound⟩⟩

/-! ## Over the smallest register -/

theorem fitting_eq_ok_iff :
    fitting name gates = .ok c ↔
      ∃ widest, extent (gates.map (·.maxQubit)) = .ok widest ∧ ofGates name (max 1 widest) gates = .ok c := by
  unfold fitting
  rw [bind_eq_ok_iff]
  simp only [mapError_eq_ok_iff]

/-- **The smallest register**: those with a qubit that hold the gates are the ones from it on. -/
theorem register_le_iff {widest : Index} (found : extent (gates.map (·.maxQubit)) = .ok widest) :
    max 1 widest ≤ n ↔ 1 ≤ n ∧ ∀ g ∈ gates, g.Inside n := by
  rw [Index.max_le_iff, extent_le_iff found, List.forall_mem_map]
  simp only [Gate.inside_iff_maxQubit]

/-- **There is a fitting circuit** if there is one over any register. -/
theorem exists_fitting_iff :
    (∃ c, fitting name gates = .ok c) ↔ ∃ n c, ofGates name n gates = .ok c := by
  constructor
  · rintro ⟨c, fits⟩
    obtain ⟨widest, -, built⟩ := fitting_eq_ok_iff.mp fits
    exact ⟨_, c, built⟩
  · rintro ⟨n, built⟩
    obtain ⟨register, placed, room⟩ := exists_ofGates_iff.mp built
    have held : ∀ q ∈ gates.map (·.maxQubit), q < n :=
      List.forall_mem_map.mpr fun g hg => Gate.inside_iff_maxQubit.mp (placed.inside g hg)
    obtain ⟨widest, found⟩ := exists_extent_of_lt held
    obtain ⟨nonempty, inside⟩ := (register_le_iff found).mp UInt32.le_rfl
    have fits : ∃ c, ofGates name (max 1 widest) gates = .ok c :=
      exists_ofGates_iff.mpr ⟨nonempty, ⟨inside, placed.apart⟩, room⟩
    exact fits.imp fun c built => fitting_eq_ok_iff.mpr ⟨widest, found, built⟩

/-- **A fitting circuit has the smallest register** over which there is one. -/
theorem qubitCount_le_of_fitting (fits : fitting name gates = .ok c) {d : Circuit}
    (built : ofGates name n gates = .ok d) : c.qubitCount ≤ n := by
  obtain ⟨widest, found, own⟩ := fitting_eq_ok_iff.mp fits
  obtain ⟨register, placed, -⟩ := exists_ofGates_iff.mp ⟨d, built⟩
  rw [(ofGates_eq_ok own).2.2]
  exact (register_le_iff found).mpr ⟨register, placed.inside⟩

/-! ## Checked construction -/

/-- **Checked construction.** Take any gates.
* Over a register there is a circuit exactly if the register has a qubit and holds all targets and controls, no
  gate is at the largest step, and no two gates share a place. It has these gates, and it is sound.
* There is one exactly if the circuit that declares the steps of the gates is sound.
* If the check reports a gate that is outside the register or not on a free place, then the gates before it are
  placed, and that gate is misplaced among them as the report says.
* There is a fitting circuit exactly if there is one over some register, and it has the smallest such register. -/
theorem checked_construction (name : String) (gates : List Gate) :
    (∀ n, (∃ c, ofGates name n gates = .ok c) ↔
      1 ≤ n ∧ (∀ g ∈ gates, g.target < n ∧ ∀ q, g.control? = some q → q < n) ∧
        (∀ g ∈ gates, g.step ≠ Index.last) ∧ gates.Pairwise fun g h => ∀ p ∈ g.slots, p ∉ h.slots) ∧
    (∀ n c, ofGates name n gates = .ok c → c.gates = gates ∧ c.qubitCount = n ∧ c.check = .ok ()) ∧
    (∀ n, (∃ c, ofGates name n gates = .ok c) ↔
      ∃ steps, span gates = .ok steps ∧
        ({ gates, qubitCount := n, stepCount := steps, name } : Circuit).check = .ok ()) ∧
    (∀ c : Circuit, c.gates = gates → ∀ e i, c.check = .error e → e.misplaced? = some i →
      Placed c.qubitCount (gates.take i) ∧
        ∃ g, gates[i]? = some g ∧ g.Misplaced c.qubitCount (places (gates.take i)) i e) ∧
    ((∃ c, fitting name gates = .ok c) ↔ ∃ n c, ofGates name n gates = .ok c) ∧
    ∀ c, fitting name gates = .ok c → ofGates name c.qubitCount gates = .ok c ∧
      ∀ n d, ofGates name n gates = .ok d → c.qubitCount ≤ n := by
  refine ⟨fun n => ?_, fun n c built => ?_, fun n => exists_ofGates_iff_check, ?_, exists_fitting_iff, ?_⟩
  · rw [exists_ofGates_iff]
    simp only [← Gate.inside_iff]
    constructor
    · rintro ⟨register, placed, room⟩
      exact ⟨register, placed.inside, room, placed.apart⟩
    · rintro ⟨register, inside, room, apart⟩
      exact ⟨register, ⟨inside, apart⟩, room⟩
  · obtain ⟨sound, listed, register⟩ := ofGates_eq_ok built
    exact ⟨listed, register, sound⟩
  · rintro c rfl e i reported number
    rcases check_eq_error reported with rfl | ⟨k, g, found, placed, misplaced⟩ | uncounted | ⟨derived, -, -, rfl⟩
    · cases number
    · cases misplaced.misplaced?.symm.trans number
      exact ⟨placed, g, found, misplaced⟩
    · obtain ⟨k, -, rfl⟩ := mapError_eq_error_iff.mp uncounted
      cases number
    · cases number
  · intro c fits
    obtain ⟨widest, -, built⟩ := fitting_eq_ok_iff.mp fits
    refine ⟨?_, fun n d other => qubitCount_le_of_fitting fits other⟩
    rw [(ofGates_eq_ok built).2.2]
    exact built

/-- A flip of a qubit that is the control of the gate before it, at one step. -/
def crowded : List Gate := [.hadamard 0 0, ⟨.controlledNot 1 2 (by decide), 0⟩, .pauliX 1 0]

theorem checked_construction_crowded :
    let c : Circuit := { gates := crowded, qubitCount := 3, stepCount := 1, name := "crowded" }
    c.check = .error (.slotOccupied ⟨1, 0⟩ 2) ∧ Placed 3 (crowded.take 2) ∧
    ¬ (∃ n d, ofGates "crowded" n crowded = .ok d) ∧
    ∃ d, fitting "crowded" (crowded.take 2) = .ok d ∧ ofGates "crowded" 3 (crowded.take 2) = .ok d ∧
      d.check = .ok () ∧ ∀ n e, ofGates "crowded" n (crowded.take 2) = .ok e → 3 ≤ n := by
  intro c
  have reported : c.check = .error (.slotOccupied ⟨1, 0⟩ 2) := rfl
  obtain ⟨-, -, -, faults, fits, -⟩ := checked_construction "crowded" crowded
  obtain ⟨-, built, -, -, -, least⟩ := checked_construction "crowded" (crowded.take 2)
  let d : Circuit := { gates := crowded.take 2, qubitCount := 3, stepCount := 1, name := "crowded" }
  have fitted : fitting "crowded" (crowded.take 2) = .ok d := rfl
  obtain ⟨own, smallest⟩ := least d fitted
  refine ⟨reported, (faults c rfl _ _ reported rfl).1, ?_, d, fitted, own, (built 3 d own).2.2, smallest⟩
  rw [← fits]
  rintro ⟨e, found⟩
  cases found

end Circuit

end QuantumWorkbench
