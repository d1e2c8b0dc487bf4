import QuantumWorkbench.Proofs.Checks
import QuantumWorkbench.Simulator.Evaluate

/-!
# Circuits inside their register

Validation looks for targets outside the register, and the simulator for controls as well. What the two passes
let through is stated here once.

## Contents
- `Gate.Inside`: all qubits of a gate lie in a register.
- `Circuit.IsPass`: what the passes have in common. `Circuit.IsPass.eq_ok_iff` and `Circuit.IsPass.eq_error_iff`: what
  they accept, and that they report the first gate with a qubit outside, `Circuit.FirstOutside`.
- `Simulator.check_eq_ok_iff`: the simulator accepts small registers with all gates inside.
- `Simulator.check_eq_error_iff`: what it refuses others for.
-/

namespace QuantumWorkbench

/-- All qubits of the gate lie in a register of `n` qubits. -/
def Gate.Inside (n : Index) (g : Gate) : Prop := ∀ q ∈ g.qubits, q < n

theorem Gate.inside_iff {n : Index} {g : Gate} :
    g.Inside n ↔ g.target < n ∧ ∀ control, g.control? = some control → control < n := by
  constructor
  · intro inside
    exact ⟨inside _ (Operation.mem_qubits.mpr (.inr rfl)),
      fun control h => inside _ (Operation.mem_qubits.mpr (.inl h))⟩
  · intro inside q h
    rcases Operation.mem_qubits.mp h with control | rfl
    · exact inside.2 q control
    · exact inside.1

namespace Circuit

/-! ## The passes -/

/-- The pass reports the first gate whose `part` lies outside a register of `n` qubits. -/
structure IsPass (part : Gate → Option Index) (n : Index) (pass : Nat → List Gate → Except Fault Unit) : Prop where
  nil : ∀ i, pass i [] = .ok ()
  cons : ∀ i g rest, pass i (g :: rest) =
    match (part g).filter (n ≤ ·) with
    | some q => .error (.invalidQubit q.toNat i)
    | none => pass (i + 1) rest

theorem isPass_validateGates (n : Index) : IsPass (fun g => some g.target) n (validateGates n) where
  nil _ := rfl
  cons i g rest := by
    by_cases outside : n ≤ g.target
    · rw [validateGates, if_pos outside, Option.filter_some, if_pos (decide_eq_true outside)]
    · rw [validateGates, if_neg outside, Option.filter_some, if_neg fun kept => outside (of_decide_eq_true kept)]

theorem isPass_checkControls (n : Index) : IsPass Gate.control? n (checkControls n) where
  nil _ := rfl
  cons _ _ _ := rfl

/-- Gate number `i` is the first whose `part` lies outside a register of `n` qubits, and that part is the
qubit `q`. -/
structure FirstOutside (part : Gate → Option Index) (n : Index) (gates : List Gate) (i : Nat) (q : Index) : Prop where
  found : ∃ g, gates[i]? = some g ∧ part g = some q
  outside : n ≤ q
  before : ∀ g ∈ gates.take i, ∀ q, part g = some q → q < n

variable {part : Gate → Option Index} {n : Index} {gates : List Gate} {i : Nat} {q : Index} {fault : Fault}

/-- The first gate outside is the head of the list, or stands behind a head that is inside. -/
theorem firstOutside_cons {g : Gate} {rest : List Gate} :
    FirstOutside part n (g :: rest) i q ↔
      (i = 0 ∧ part g = some q ∧ n ≤ q) ∨
      (∃ k, i = k + 1 ∧ FirstOutside part n rest k q) ∧ ∀ q, part g = some q → q < n := by
  cases i with
  | zero =>
      constructor
      · rintro ⟨⟨_, ⟨⟩, own⟩, outside, -⟩
        exact .inl ⟨rfl, own, outside⟩
      · rintro (⟨-, own, outside⟩ | ⟨⟨_, ⟨⟩, -⟩, -⟩)
        exact ⟨⟨g, rfl, own⟩, outside, nofun⟩
  | succ k =>
      constructor
      · rintro ⟨found, outside, before⟩
        rw [List.take_succ_cons, List.forall_mem_cons] at before
        exact .inr ⟨⟨k, rfl, found, outside, before.2⟩, before.1⟩
      · rintro (⟨⟨⟩, -⟩ | ⟨⟨_, ⟨⟩, found, outside, before⟩, inside⟩)
        refine ⟨found, outside, ?_⟩
        rw [List.take_succ_cons, List.forall_mem_cons]
        exact ⟨inside, before⟩

namespace IsPass

variable {pass : Nat → List Gate → Except Fault Unit} (h : IsPass part n pass)
include h

/-- **One turn of a pass**: the gate is reported, or it is inside and the pass goes on. -/
theorem cons_cases (i : Nat) (g : Gate) (rest : List Gate) :
    (∃ q, part g = some q ∧ n ≤ q ∧ pass i (g :: rest) = .error (.invalidQubit q.toNat i)) ∨
    (∀ q, part g = some q → q < n) ∧ pass i (g :: rest) = pass (i + 1) rest := by
  rw [h.cons]
  cases outside : (part g).filter (n ≤ ·) with
  | some q =>
      obtain ⟨own, beyond⟩ := Option.filter_eq_some_iff.mp outside
      exact .inl ⟨q, own, of_decide_eq_true beyond, rfl⟩
  | none =>
      refine .inr ⟨fun q own => ?_, rfl⟩
      have small := Option.filter_eq_none_iff.mp outside q own
      exact UInt32.not_le.mp fun large => small (decide_eq_true large)

theorem eq_ok_iff : pass i gates = .ok () ↔ ∀ g ∈ gates, ∀ q, part g = some q → q < n := by
  induction gates generalizing i with
  | nil => exact iff_of_true (h.nil i) (List.forall_mem_nil _)
  | cons g rest ih =>
      rw [List.forall_mem_cons]
      rcases h.cons_cases i g rest with ⟨q, own, beyond, refused⟩ | ⟨inside, onward⟩
      · rw [refused]
        exact iff_of_false nofun fun all => UInt32.not_lt.mpr beyond (all.1 q own)
      · rw [onward, ih, and_iff_right inside]

theorem eq_error_iff {k : Nat} :
    pass k gates = .error fault ↔ ∃ i q, FirstOutside part n gates i q ∧ fault = .invalidQubit q.toNat (k + i) := by
  induction gates generalizing k with
  | nil =>
      rw [h.nil]
      refine iff_of_false nofun ?_
      rintro ⟨_, _, ⟨⟨_, ⟨⟩, -⟩, -, -⟩, -⟩
  | cons g rest ih =>
      simp only [firstOutside_cons]
      rcases h.cons_cases k g rest with ⟨q, own, beyond, refused⟩ | ⟨inside, onward⟩
      · rw [refused]
        constructor
        · rintro ⟨⟩
          exact ⟨0, q, .inl ⟨rfl, own, beyond⟩, rfl⟩
        · rintro ⟨i, q', ⟨rfl, own', -⟩ | ⟨-, inside⟩, rfl⟩
          · cases own.symm.trans own'
            rfl
          · exact absurd (inside q own) (UInt32.not_lt.mpr beyond)
      · rw [onward, ih]
        constructor
        · rintro ⟨i, q, first, rfl⟩
          exact ⟨i + 1, q, .inr ⟨⟨i, rfl, first⟩, inside⟩, by rw [Nat.add_right_comm, Nat.add_assoc]⟩
        · rintro ⟨_, q, ⟨-, own, beyond⟩ | ⟨⟨i, rfl, first⟩, -⟩, rfl⟩
          · exact absurd (inside q own) (UInt32.not_lt.mpr beyond)
          · exact ⟨i, q, first, by rw [Nat.add_right_comm, Nat.add_assoc]⟩

end IsPass

/-- Validation looks at targets, not at controls. -/
theorem validate_eq_ok_iff {c : Circuit} :
    c.validate = .ok () ↔ ∀ g ∈ c.gates, g.target < c.qubitCount := by
  rw [validate, (isPass_validateGates c.qubitCount).eq_ok_iff]
  simp only [Option.some.injEq, forall_eq']

theorem checkControls_eq_ok_iff :
    checkControls n i gates = .ok () ↔ ∀ g ∈ gates, ∀ control, g.control? = some control → control < n :=
  (isPass_checkControls n).eq_ok_iff

end Circuit

/-! ## The simulator -/

namespace Simulator

variable {s : Simulator} {c : Circuit}

theorem check_of_large (large : s.maxQubits < c.qubitCount) :
    s.check c = .error (.malformed (.registerTooLarge c.qubitCount s.maxQubits)) := by
  rw [check, if_pos large]
  rfl

theorem check_of_small (small : c.qubitCount ≤ s.maxQubits) :
    s.check c = c.validate >>= fun _ => Circuit.checkControls c.qubitCount 0 c.gates := by
  rw [check, if_neg (UInt32.not_lt.mpr small)]

/-- **The simulator accepts registers up to its limit with all gates inside.** -/
theorem check_eq_ok_iff :
    s.check c = .ok () ↔ c.qubitCount ≤ s.maxQubits ∧ ∀ g ∈ c.gates, g.Inside c.qubitCount := by
  by_cases large : s.maxQubits < c.qubitCount
  · simp [check_of_large large, UInt32.not_le.mpr large]
  · have small : c.qubitCount ≤ s.maxQubits := UInt32.not_lt.mp large
    rw [check_of_small small, bind_eq_ok_iff, and_iff_right small]
    simp only [Gate.inside_iff, Circuit.checkControls_eq_ok_iff]
    constructor
    · rintro ⟨_, targets, controls⟩ g hg
      exact ⟨Circuit.validate_eq_ok_iff.mp targets g hg, controls g hg⟩
    · intro inside
      exact ⟨(), Circuit.validate_eq_ok_iff.mpr fun g hg => (inside g hg).1, fun g hg => (inside g hg).2⟩

/-- **The simulator refuses** registers beyond its limit, else the first target outside, else the first control
outside. -/
theorem check_eq_error_iff {fault : Fault} :
    s.check c = .error fault ↔
      (s.maxQubits < c.qubitCount ∧ fault = .malformed (.registerTooLarge c.qubitCount s.maxQubits)) ∨
      c.qubitCount ≤ s.maxQubits ∧
        ((∃ i q, Circuit.FirstOutside (fun g => some g.target) c.qubitCount c.gates i q ∧
          fault = .invalidQubit q.toNat i) ∨
        (∀ g ∈ c.gates, g.target < c.qubitCount) ∧
          ∃ i q, Circuit.FirstOutside Gate.control? c.qubitCount c.gates i q ∧ fault = .invalidQubit q.toNat i) := by
  by_cases large : s.maxQubits < c.qubitCount
  · simp [check_of_large large, large, UInt32.not_le.mpr large, eq_comm]
  · have small : c.qubitCount ≤ s.maxQubits := UInt32.not_lt.mp large
    have targets : (∃ a, c.validate = .ok a ∧ Circuit.checkControls c.qubitCount 0 c.gates = .error fault) ↔
        (∀ g ∈ c.gates, g.target < c.qubitCount) ∧ Circuit.checkControls c.qubitCount 0 c.gates = .error fault := by
      rw [← Circuit.validate_eq_ok_iff]
      exact ⟨fun ⟨_, passed, refused⟩ => ⟨passed, refused⟩, fun ⟨passed, refused⟩ => ⟨(), passed, refused⟩⟩
    rw [check_of_small small, bind_eq_error_iff, targets, Circuit.validate,
      (Circuit.isPass_validateGates c.qubitCount).eq_error_iff,
      (Circuit.isPass_checkControls c.qubitCount).eq_error_iff]
    simp only [large, small, false_and, false_or, true_and, Nat.zero_add]

theorem evaluate_of_check (h : s.check c = .ok ()) : s.evaluate c = .ok (s.run c) := by
  rw [evaluate, h]
  rfl

/-- What passes the check is simulated, and nothing else is answered. -/
theorem evaluate_eq_ok_iff {answer : Evaluation} :
    s.evaluate c = .ok answer ↔ s.check c = .ok () ∧ s.run c = answer := by
  rw [evaluate, bind_eq_ok_iff]
  simp only [mapError_eq_ok_iff]
  constructor
  · rintro ⟨_, passed, answered⟩
    exact ⟨passed, Except.ok.inj answered⟩
  · rintro ⟨passed, rfl⟩
    exact ⟨(), passed, rfl⟩

/-- What the check finds is all that the simulator refuses for. -/
theorem evaluate_eq_error_iff {error : EvaluatorError} :
    s.evaluate c = .error error ↔ ∃ fault, s.check c = .error fault ∧ .invalidCircuit fault = error := by
  rw [evaluate, bind_eq_error_iff, mapError_eq_error_iff, or_iff_left]
  rintro ⟨_, -, ⟨⟩⟩

/-- The simulator with its usual limits. -/
def seeded : Simulator := { draws := .ofSeed 0 }

end Simulator

end QuantumWorkbench
