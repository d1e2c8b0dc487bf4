import QuantumWorkbench.Proofs.Simulator.Exchange

/-!
# Gates as linear maps

The loop of a gate writes into the vector that it reads. This module says of the whole gates that nothing of that
shows: they are the linear maps that a textbook gives, with the rounding of the amplitudes as the only trace of
the arithmetic.

## Contents
- `Statevector.pauliX_pauliX`, `Statevector.controlledNot_controlledNot`: flips undo themselves.
- `Statevector.gates_simultaneous`: what every place of the vector holds behind a gate, and what follows for
  gates in a row.
-/

namespace QuantumWorkbench.Statevector

variable {n : Nat}

/-! ## Flips undo themselves -/

theorem pauliX_pauliX (q : Fin n) (v : Statevector n) : pauliX q (pauliX q v) = v := by
  apply ext_get
  intro i
  rw [get_pauliX, get_pauliX, flip_flip]

theorem controlledNot_controlledNot {c t : Fin n} (apart : c ≠ t) (v : Statevector n) :
    controlledNot c t (controlledNot c t v) = v := by
  apply ext_get
  intro i
  -- The control has the same value in both basis states of a pair.
  have kept : (flip t i).val.testBit c = i.val.testBit c :=
    testBit_flip_of_ne (fun same => apart (Fin.ext same.symm)) i
  rw [get_controlledNot apart, get_controlledNot apart, get_controlledNot apart, kept, flip_flip]
  split <;> rfl

/-! ## Gates -/

/-- The places that the loop reads and writes lie in the vector. -/
theorem val_withBit (i : Fin (basisCount n)) (q : Fin n) :
    (withBit i q).val = i.val ||| basisCount q ∧ i.val ||| basisCount q < basisCount n :=
  ⟨rfl, (withBit i q).isLt⟩

/-- **The gates are simultaneous.** Take any amplitudes of `n` qubits and any target among them.
* Behind a gate each place holds what the linear map gives from the old amplitudes of the two basis states of its
  pair. A flip holds the partner's amplitude, a flip under another qubit does where that qubit is set, and a
  Hadamard holds the sum or the difference, times `1 / √2`. Nothing else is computed.
* The partners that the loops go to lie in the vector, and the vector keeps its length.
* A flip and a controlled flip undo themselves exactly.
* Two operations without a common qubit, not both of them Hadamards, give the same amplitudes in either order. -/
theorem gates_simultaneous (v : Statevector n) (q : Fin n) :
    (∀ i : Fin (basisCount n), ∃ j : Fin (basisCount n), j.val = i.val ^^^ basisCount q ∧
      (pauliX q v).get i = v.get j ∧
      (∀ c, c ≠ q → (controlledNot c q v).get i = if i.val.testBit c then v.get j else v.get i) ∧
      let s := 1.0 / Float.sqrt 2.0
      let own := v.get i
      let other := v.get j
      (hadamard q v).get i =
        if i.val.testBit q then { re := s * (other.re - own.re), im := s * (other.im - own.im) }
        else { re := s * (own.re + other.re), im := s * (own.im + other.im) }) ∧
    (∀ i : Fin (basisCount n),
      (withBit i q).val = i.val ||| basisCount q ∧ i.val ||| basisCount q < basisCount n) ∧
    ((pauliX q v).toArray.size = v.toArray.size ∧ (hadamard q v).toArray.size = v.toArray.size ∧
      ∀ c, (controlledNot c q v).toArray.size = v.toArray.size) ∧
    (pauliX q (pauliX q v) = v ∧ ∀ c, c ≠ q → controlledNot c q (controlledNot c q v) = v) ∧
    ∀ a b : Operation, (∀ p ∈ a.qubits, p ∉ b.qubits) → ¬ (a.kind = .hadamard ∧ b.kind = .hadamard) →
      (v.apply a).apply b = (v.apply b).apply a := by
  refine ⟨fun i => ⟨flip q i, rfl, get_pauliX q v i, fun c apart => get_controlledNot apart v i,
    get_hadamard q v i⟩, fun i => val_withBit i q, ?_,
    ⟨pauliX_pauliX q v, fun c apart => controlledNot_controlledNot apart v⟩, ?_⟩
  · simp only [Vector.size_toArray, implies_true, and_self]
  · intro a b disjoint single
    exact apply_comm (Operation.exchangeable_of_disjoint disjoint single) v

/-- On two qubits, with the first of them spread and in control of the second. -/
theorem gates_simultaneous_pair :
    let c : Fin 2 := 0
    let q : Fin 2 := 1
    let v := hadamard c (ground 2)
    c ≠ q ∧
    (controlledNot c q v).get ⟨3, by decide⟩ = v.get ⟨1, by decide⟩ ∧
    controlledNot c q (controlledNot c q v) = v ∧
    (v.apply (.pauliX 1)).apply (.hadamard 0) = (v.apply (.hadamard 0)).apply (.pauliX 1) := by
  intro c q v
  have apart : c ≠ q := by decide
  obtain ⟨places, -, -, ⟨-, undone⟩, exchange⟩ := gates_simultaneous v q
  obtain ⟨j, partner, -, flipped, -⟩ := places ⟨3, by decide⟩
  have own : j = ⟨1, by decide⟩ := by
    apply Fin.ext
    rw [partner]
    decide
  subst own
  have disjoint : ∀ p ∈ (Operation.pauliX 1).qubits, p ∉ (Operation.hadamard 0).qubits := by
    intro p hp
    rw [List.mem_singleton.mp hp]
    decide
  exact ⟨apart, (flipped c apart).trans (if_pos (by decide)), undone c apart,
    exchange (.pauliX 1) (.hadamard 0) disjoint (by decide)⟩

end QuantumWorkbench.Statevector
