import QuantumWorkbench.Proofs.Circuit.Span

/-!
# The first steps of circuits

A debugger asks about a circuit as of its first steps, with one step more each time. Cutting a circuit keeps what
is sound about it, and a circuit that was cut declares the steps of the gates that are left.

## Contents
- `Circuit.spanned_upTo`: the gates before a limit always span a number of steps, which the cut circuit declares.
- `Circuit.upTo_upTo`: of two limits the smaller counts.
- `Circuit.upTo_eq_self_iff`: from which limit on nothing is cut off.
- `Circuit.validate_upTo`, `Circuit.check_upTo`: what is valid or sound stays so.
- `Circuit.first_steps`: all of this.
-/

namespace QuantumWorkbench.Circuit

variable {c d : Circuit} {a : Index}

/-! ## The gates -/

/-- The gates that are seen of the first steps. -/
theorem gates_upTo (c : Circuit) (limit : Index) : (c.upTo limit).gates = c.gates.filter (·.step < limit) := rfl

theorem mem_gates_upTo {g : Gate} : g ∈ (c.upTo a).gates ↔ g ∈ c.gates ∧ g.step < a := by
  rw [gates_upTo, List.mem_filter, decide_eq_true_eq]

theorem sublist_upTo (c : Circuit) (a : Index) : (c.upTo a).gates.Sublist c.gates := List.filter_sublist

theorem inside_upTo {n : Index} (inside : ∀ g ∈ c.gates, g.Inside n) (limit : Index) :
    ∀ g ∈ (c.upTo limit).gates, g.Inside n :=
  fun g hg => inside g (mem_gates_upTo.mp hg).1

/-! ## The number of steps -/

/-- **A cut circuit declares the steps of its gates.** They lie before the limit, so that no gate is at the largest
step and the limit itself is never needed in place of their number. -/
theorem spanned_upTo (c : Circuit) (a : Index) : (c.upTo a).Spanned := by
  have before : ∀ k ∈ (c.upTo a).gates.map (·.step), k < a :=
    List.forall_mem_map.mpr fun g hg => (mem_gates_upTo.mp hg).2
  obtain ⟨n, counted⟩ := exists_extent_of_lt before
  have declared : (c.upTo a).stepCount = n := by
    show (span (c.upTo a).gates).toOption.getD a = n
    rw [span, counted]
    rfl
  rw [Spanned, declared]
  exact counted

/-- A spanned circuit is known by its gates, its register and its texts. -/
theorem Spanned.ext (hc : c.Spanned) (hd : d.Spanned) (gates : c.gates = d.gates)
    (qubits : c.qubitCount = d.qubitCount) (name : c.name = d.name) (description : c.description = d.description) :
    c = d := by
  have steps : c.stepCount = d.stepCount := by
    rw [Spanned, gates] at hc
    exact Except.ok.inj (hc.symm.trans hd)
  cases c
  cases d
  simp_all

/-- **Of two limits the smaller counts.** -/
theorem upTo_upTo (c : Circuit) (a b : Index) : (c.upTo a).upTo b = c.upTo (min a b) := by
  refine (spanned_upTo _ b).ext (spanned_upTo c _) ?_ rfl rfl rfl
  rw [gates_upTo, gates_upTo, gates_upTo, List.filter_filter]
  refine List.filter_congr fun g _ => ?_
  rw [← Bool.decide_and, decide_eq_decide, Index.lt_min_iff, and_comm]

/-- **Nothing is cut off** a spanned circuit by limits from its number of steps on, and something by all others. -/
theorem upTo_eq_self_iff (h : c.Spanned) : c.upTo a = c ↔ c.stepCount ≤ a := by
  rw [span_eq_ok_iff.mp h a]
  constructor
  · intro same g hg
    rw [← same] at hg
    exact (mem_gates_upTo.mp hg).2
  · intro before
    have kept : (c.upTo a).gates = c.gates := List.filter_eq_self.mpr fun g hg => decide_eq_true (before g hg)
    exact (spanned_upTo c a).ext h kept rfl rfl rfl

/-- A spanned circuit as of all its steps is the circuit. -/
theorem upTo_stepCount (h : c.Spanned) : c.upTo c.stepCount = c := (upTo_eq_self_iff h).mpr UInt32.le_rfl

/-- A cut circuit has no more steps than the limit, and no more than it had. -/
theorem stepCount_upTo_le (h : c.Spanned) (a : Index) : (c.upTo a).stepCount ≤ min a c.stepCount := by
  have spanned := span_eq_ok_iff.mp (spanned_upTo c a)
  refine (spanned _).mpr fun g hg => ?_
  obtain ⟨listed, before⟩ := mem_gates_upTo.mp hg
  exact Index.lt_min_iff.mpr ⟨before, (span_eq_ok_iff.mp h c.stepCount).mp UInt32.le_rfl g listed⟩

/-! ## Validation and soundness -/

/-- **The first steps of a valid circuit are valid.** -/
theorem validate_upTo (valid : c.validate = .ok ()) (limit : Index) : (c.upTo limit).validate = .ok () :=
  validate_eq_ok_iff.mpr fun g hg => validate_eq_ok_iff.mp valid g (mem_gates_upTo.mp hg).1

/-- **The first steps of a sound circuit are sound.** -/
theorem check_upTo (sound : c.check = .ok ()) (a : Index) : (c.upTo a).check = .ok () := by
  obtain ⟨register, placed, -⟩ := check_eq_ok_iff.mp sound
  exact check_eq_ok_iff.mpr ⟨register, placed.sublist (sublist_upTo c a), spanned_upTo c a⟩

/-! ## All laws -/

/-- **The laws of first steps.** For every circuit and all limits:
* of two limits the smaller counts;
* the gates are those before the limit in their order, they always span a number of steps, and that is what is
  declared: one past the highest of their steps, and `0` if there are none;
* name, description and register are kept;
* what is valid stays valid, and what is sound stays sound;
* if the circuit itself declares the steps of its gates, then it is kept whole exactly by limits from their number
  on, and no limit leaves more steps than itself or than there were. All circuits that were built, fitted, loaded
  or read declare the steps of their gates. -/
theorem first_steps (c : Circuit) (a b : Index) :
    (c.upTo a).upTo b = c.upTo (min a b) ∧
    ((c.upTo a).gates = c.gates.filter (·.step < a) ∧
      span (c.upTo a).gates = .ok (c.upTo a).stepCount ∧
      (c.upTo a).stepCount.toNat = ((c.upTo a).gates.map (·.step.toNat)).max?.elim 0 (· + 1)) ∧
    ((c.upTo a).name = c.name ∧ (c.upTo a).description = c.description ∧
      (c.upTo a).qubitCount = c.qubitCount) ∧
    (c.validate = .ok () → (c.upTo a).validate = .ok ()) ∧
    (c.check = .ok () → (c.upTo a).check = .ok ()) ∧
    (c.Spanned → (c.upTo a = c ↔ c.stepCount ≤ a) ∧ (c.upTo a).stepCount ≤ min a c.stepCount) ∧
    (c.Made → c.Spanned) := by
  have highest := toNat_of_extent (spanned_upTo c a)
  rw [List.map_map] at highest
  exact ⟨upTo_upTo c a b, ⟨gates_upTo c a, spanned_upTo c a, highest⟩, ⟨rfl, rfl, rfl⟩,
    fun valid => validate_upTo valid a, fun sound => check_upTo sound a,
    fun spanned => ⟨upTo_eq_self_iff spanned, stepCount_upTo_le spanned a⟩, spanned_of_made⟩

/-- Two gates at the third step, one at the sixth, and none between them. -/
def gapped : Circuit where
  gates := [.pauliX 0 5, .hadamard 1 2, .hadamard 0 2]
  qubitCount := 2
  stepCount := 6
  name := "gapped"

theorem first_steps_gapped :
    gapped.Made ∧ gapped.check = .ok () ∧ gapped.validate = .ok () ∧
    (gapped.upTo 5).upTo 4 = gapped.upTo 4 ∧
    (gapped.upTo 4).stepCount.toNat = 3 ∧
    (gapped.upTo 4).check = .ok () ∧ (gapped.upTo 4).validate = .ok () ∧
    gapped.upTo 6 = gapped ∧ gapped.upTo 5 ≠ gapped ∧ (gapped.upTo 4).stepCount ≤ min 4 6 := by
  have made : gapped.Made := .built (show ofGates "gapped" 2 gapped.gates = .ok gapped from rfl)
  have sound : gapped.check = .ok () := rfl
  have valid : gapped.validate = .ok () := rfl
  obtain ⟨twice, ⟨-, -, highest⟩, -, stillValid, stillSound, counted, spanned⟩ := first_steps gapped 4 4
  obtain ⟨-, fewer⟩ := counted (spanned made)
  obtain ⟨whole, -⟩ := (first_steps gapped 6 6).2.2.2.2.2.1 (spanned made)
  obtain ⟨less, -⟩ := (first_steps gapped 5 5).2.2.2.2.2.1 (spanned made)
  exact ⟨made, sound, valid, (first_steps gapped 5 4).1, highest, stillSound sound, stillValid valid,
    whole.mpr (by decide), fun same => absurd (less.mp same) (by decide), fewer⟩

end QuantumWorkbench.Circuit
