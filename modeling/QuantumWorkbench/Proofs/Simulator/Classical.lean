import QuantumWorkbench.Proofs.Simulator.Measurement

/-!
# Classical circuits

Without Hadamard gates a register never leaves the basis states: flips and controlled flips move the one amplitude
that is there from basis state to basis state. All arithmetic is then done on `0` and `1`, where doubles are exact.

## Contents
- `Operation.turnBits`: what the classical operations do to a number of bits.
- `Statevector.IsBasis`: the state vector of one basis state. `Statevector.isBasis_foldl`: classical operations turn
  its bits.
- `Statevector.qubitState_of_isBasis`, `Statevector.sample_of_isBasis`: what such a vector shows.
- `Circuit.InStepOrder`: the gates by step, those of one step in list order.
- `Simulator.classical_exact`: classical circuits are simulated exactly.
-/

namespace QuantumWorkbench

/-! ## Doubles -/

/-- A number that is at least zero is not below zero. -/
theorem not_lt_zero_of_zero_le {x : Float} (h : 0.0 ≤ x) : ¬ x < 0.0 := by
  intro below
  have zero : (0.0 : Float).toModel.unpack = .zero .positive := rfl
  have le : (0.0 : Float).toModel.unpack.le x.toModel.unpack = true := of_decide_eq_true h
  have lt : x.toModel.unpack.lt (0.0 : Float).toModel.unpack = true := of_decide_eq_true below
  rw [zero] at le lt
  -- On which side of zero a number lies is told from its sign, unless it is a zero itself.
  cases side : x.toModel.unpack with
  | notANumber =>
      rw [side] at lt
      cases lt
  | zero sign =>
      rw [side] at lt
      cases lt
  | infinity sign =>
      rw [side] at le lt
      cases sign with
      | positive => cases lt
      | negative => cases le
  | finite sign mantissa exponent positive =>
      rw [side] at le lt
      cases sign with
      | positive => cases lt
      | negative => cases le

namespace Amplitude

theorem normSq_zero : zero.normSq = 0.0 := by decide +kernel

theorem normSq_one : one.normSq = 1.0 := by decide +kernel

end Amplitude

/-! ## Bits -/

/-- What an operation does to the bits of a register: a flip flips the bit of its qubit, and a controlled flip does
where the bit of the control is set. -/
def Operation.turnBits (op : Operation) (b : Nat) : Nat :=
  match op with
  | .pauliX q => b ^^^ basisCount q.toNat
  | .controlledNot c t _ => if b.testBit c.toNat then b ^^^ basisCount t.toNat else b
  | .hadamard _ | .measure _ => b

namespace Statevector

variable {n : Nat}

theorem qubit?_eq_some {q : Index} (inside : q.toNat < n) : qubit? n q = some ⟨q.toNat, inside⟩ := by
  rw [qubit?, dif_pos inside]

/-- Inside the register, amplitudes are taken from where the bits are turned to. -/
theorem val_source {op : Operation} (inside : ∀ q ∈ op.qubits, q.toNat < n) (i : Fin (basisCount n)) :
    (source op i).val = op.turnBits i.val := by
  cases op with
  | hadamard q => rfl
  | measure q => rfl
  | pauliX q =>
      have here := qubit?_eq_some (inside q List.mem_cons_self)
      simp only [source, turn?, here]
      rfl
  | controlledNot c t ne =>
      have control := qubit?_eq_some (inside c List.mem_cons_self)
      have target := qubit?_eq_some (inside t (List.mem_cons_of_mem c List.mem_cons_self))
      simp only [source, turn?, control, target, Operation.turnBits]
      split
      · rfl
      · rfl

/-- Doing an operation twice takes each amplitude from where it was. -/
theorem source_source (op : Operation) (i : Fin (basisCount n)) : source op (source op i) = i := by
  have turn : turn? op (source op i) = turn? op i := turn?_source op.control?_ne_target i
  rw [source, turn, source]
  cases turn? op i with
  | none => rfl
  | some q => exact flip_flip q i

/-! ## Basis states -/

/-- The state vector of the basis state with the number `b`. -/
def IsBasis (v : Statevector n) (b : Fin (basisCount n)) : Prop :=
  ∀ i, v.get i = if i = b then .one else .zero

theorem isBasis_ground (n : Nat) : (ground n).IsBasis ⟨0, Nat.two_pow_pos n⟩ := by
  intro i
  show ((Vector.replicate (basisCount n) Amplitude.zero).set 0 Amplitude.one (Nat.two_pow_pos n))[i.val] = _
  rw [Vector.getElem_set, Vector.getElem_replicate]
  simp only [Fin.ext_iff, eq_comm]

/-- **A classical operation moves the amplitude of a basis state as it turns the bits.** -/
theorem IsBasis.apply {v : Statevector n} {b : Fin (basisCount n)} (basis : v.IsBasis b) {op : Operation}
    (classical : op.kind ≠ .hadamard) : (v.apply op).IsBasis (source op b) := by
  intro i
  have there : source op i = b ↔ i = source op b := by
    constructor
    · rintro rfl
      rw [source_source]
    · rintro rfl
      exact source_source op b
  rw [get_apply classical, basis]
  simp only [there]

/-- A row of classical operations turns the bits one operation after the other. -/
theorem isBasis_foldl {gates : List Gate} (classical : ∀ g ∈ gates, g.kind ≠ .hadamard)
    (inside : ∀ g ∈ gates, ∀ q ∈ g.qubits, q.toNat < n) {v : Statevector n} {b : Fin (basisCount n)}
    (basis : v.IsBasis b) :
    ∃ b' : Fin (basisCount n), b'.val = gates.foldl (fun b g => g.operation.turnBits b) b.val ∧
      (gates.foldl (fun v g => v.apply g.operation) v).IsBasis b' := by
  induction gates generalizing v b with
  | nil => exact ⟨b, rfl, basis⟩
  | cons g rest ih =>
      have here := val_source (inside g List.mem_cons_self) b
      obtain ⟨b', value, behind⟩ := ih (fun h hh => classical h (List.mem_cons_of_mem g hh))
        (fun h hh => inside h (List.mem_cons_of_mem g hh)) (basis.apply (classical g List.mem_cons_self))
      refine ⟨b', ?_, behind⟩
      rw [value, here]
      rfl

/-! ## What a basis state shows -/

variable {v : Statevector n} {b : Fin (basisCount n)}

theorem IsBasis.normSq (basis : v.IsBasis b) (i : Fin (basisCount n)) :
    (v.get i).normSq = if i = b then 1.0 else 0.0 := by
  rw [basis i]
  split
  · exact Amplitude.normSq_one
  · exact Amplitude.normSq_zero

/-- The probability of reading `1` on a qubit is its bit. -/
theorem probabilityOne_of_isBasis (basis : v.IsBasis b) (q : Fin n) :
    v.probabilityOne q = if b.val.testBit q then 1.0 else 0.0 := by
  -- Before turn `k` the sum is one if the basis state has been met and its bit is set.
  let sum (k : Nat) (p : Float) : Prop := p = if b.val < k ∧ b.val.testBit q = true then 1.0 else 0.0
  have all : sum (basisCount n) (v.probabilityOne q) := by
    apply foldl_invariant sum
    · rfl
    · intro k p before
      have own : v[k].normSq = if k = b then 1.0 else 0.0 := basis.normSq k
      show (if k.val.testBit q then p + v[k].normSq else p) = _
      rw [own, before]
      by_cases met : k = b
      · subst met
        cases k.val.testBit q with
        | false => simp
        | true =>
            simp only [Nat.lt_irrefl, false_and, if_false, if_true, Nat.lt_succ_self, true_and]
            decide +kernel
      · have same : b.val < k.val + 1 ↔ b.val < k.val := by
          have apart : b.val ≠ k.val := fun h => met (Fin.ext h.symm)
          omega
        rw [if_neg met]
        simp only [same]
        split
        · split
          · decide +kernel
          · decide +kernel
        · rfl
  have total := all
  simp only [sum, b.isLt, true_and] at total
  exact total

/-- A qubit of a basis state is certainly its bit. -/
theorem qubitState_of_isBasis (basis : v.IsBasis b) (q : Fin n) :
    v.qubitState q =
      if b.val.testBit q then { qubit := UInt32.ofNat q, zero := 0.0, one := 1.0 }
      else { qubit := UInt32.ofNat q, zero := 1.0, one := 0.0 } := by
  rw [qubitState, probabilityOne_of_isBasis basis]
  have certain : clampUnit 1.0 = 1.0 ∧ (1.0 - 1.0 : Float).sqrt = 0.0 ∧ (1.0 : Float).sqrt = 1.0 := by decide +kernel
  have impossible : clampUnit 0.0 = 0.0 ∧ (1.0 - 0.0 : Float).sqrt = 1.0 ∧ (0.0 : Float).sqrt = 0.0 := by decide +kernel
  split
  · simp only [certain]
  · simp only [impossible]

/-- The scan of the probabilities stops at the basis state, whatever number is drawn. -/
theorem sampleFrom_of_isBasis (basis : v.IsBasis b) {draw : Float} (low : 0.0 ≤ draw) (high : draw < 1.0) {i : Nat}
    (before : i ≤ b.val) : v.sampleFrom draw 0.0 i = b.val := by
  obtain ⟨ahead, h⟩ := Nat.exists_eq_add_of_le before
  induction ahead generalizing i with
  | zero =>
      have here : (0.0 : Float) + (v.get b).normSq = 1.0 := by
        rw [basis.normSq, if_pos rfl]
        decide +kernel
      rw [show i = b.val from h.symm, sampleFrom_eq v draw 0.0 b, here, if_pos high]
  | succ ahead ih =>
      have within : i < basisCount n := Nat.lt_of_le_of_lt before b.isLt
      have other : (⟨i, within⟩ : Fin (basisCount n)) ≠ b := fun same => by
        have value : i = b.val := congrArg Fin.val same
        omega
      have here : (0.0 : Float) + (v.get ⟨i, within⟩).normSq = 0.0 := by
        rw [basis.normSq, if_neg other]
        decide +kernel
      have turn := sampleFrom_eq v draw 0.0 ⟨i, within⟩
      rw [here, if_neg (not_lt_zero_of_zero_le low)] at turn
      have next : i + 1 ≤ b.val := by omega
      have rest : b.val = i + 1 + ahead := by omega
      exact turn.trans (ih next rest)

theorem sample_of_isBasis (basis : v.IsBasis b) {draw : Float} (low : 0.0 ≤ draw) (high : draw < 1.0) :
    v.sample draw = b.val :=
  sampleFrom_of_isBasis basis low high (Nat.zero_le _)

end Statevector

/-! ## Circuits -/

namespace Circuit

variable {c : Circuit}

/-- A list has the gates of the circuit by step, and those of each step in list order. -/
structure InStepOrder (c : Circuit) (order : List Gate) : Prop where
  sorted : order.Pairwise fun a b => a.step ≤ b.step
  gates : ∀ k, order.filter (·.step = k) = c.gates.filter (·.step = k)

theorem schedule_inStepOrder (c : Circuit) : c.InStepOrder c.schedule :=
  ⟨sorted_schedule c, filter_schedule c⟩

/-- A circuit has one such list only. -/
theorem InStepOrder.eq_schedule {order : List Gate} (h : c.InStepOrder order) : order = c.schedule :=
  eq_of_sorted_of_filter h.sorted (sorted_schedule c) fun k => (h.gates k).trans (filter_schedule c k).symm

/-- **A classical circuit ends in a basis state**, whose bits are turned by one gate after the other. -/
theorem exists_isBasis_finalState (classical : ∀ g ∈ c.gates, g.kind ≠ .hadamard)
    (inside : ∀ g ∈ c.gates, g.Inside c.qubitCount) :
    ∃ b : Fin (basisCount c.qubitCount.toNat),
      b.val = c.schedule.foldl (fun b g => g.operation.turnBits b) 0 ∧ c.finalState.IsBasis b := by
  refine Statevector.isBasis_foldl (fun g hg => classical g (mem_schedule.mp hg)) (fun g hg q hq => ?_)
    (Statevector.isBasis_ground _)
  exact UInt32.lt_iff_toNat_lt.mp (inside g (mem_schedule.mp hg) q hq)

end Circuit

namespace Simulator

/-- **Classical circuits are simulated exactly.** Take any circuit without Hadamard gates that the simulator answers,
with at least one shot and with any numbers from `0` to below `1` drawn. Bring its gates into the order of their
steps, those of one step in list order, and let `b` be what they make of the number `0`, where a flip flips the bit
of its qubit and a controlled flip does where the bit of its control is set.
* The state vector has the amplitude `1` at `b` and `0` everywhere else.
* Each qubit is reported as certainly its bit of `b`.
* If qubits are measured, all shots have the same outcome: the bits of these qubits in `b`, the highest first. -/
theorem classical_exact (s : Simulator) (c : Circuit) (answer : Evaluation) (accepted : s.evaluate c = .ok answer)
    (classical : ∀ g ∈ c.gates, g.kind ≠ .hadamard) (some_shot : 0 < s.shots)
    (unit : ∀ k < s.shots.toNat, 0.0 ≤ s.draws k ∧ s.draws k < 1.0) :
    ∃ order, c.InStepOrder order ∧ (∀ other, c.InStepOrder other → other = order) ∧
      let b := order.foldl (fun b g => g.operation.turnBits b) 0
      b < basisCount c.qubitCount.toNat ∧
      (∀ i, c.finalState.get i = if i.val = b then { re := 1.0, im := 0.0 } else { re := 0.0, im := 0.0 }) ∧
      answer.states = (List.range c.qubitCount.toNat).map (fun q =>
        if b.testBit q then { qubit := UInt32.ofNat q, zero := 0.0, one := 1.0 }
        else { qubit := UInt32.ofNat q, zero := 1.0, one := 0.0 }) ∧
      ((∃ q, c.Measures q) → ∃ qubits : List Nat, qubits.Pairwise (· < ·) ∧ (∀ q, q ∈ qubits ↔ c.Measures q) ∧
        answer.measurements.entries =
          [(String.ofList (qubits.reverse.map fun q => if b.testBit q then '1' else '0'), s.shots.toUInt64)]) := by
  obtain ⟨passed, rfl⟩ := evaluate_eq_ok_iff.mp accepted
  obtain ⟨-, inside⟩ := check_eq_ok_iff.mp passed
  obtain ⟨b, value, basis⟩ := Circuit.exists_isBasis_finalState classical inside
  refine ⟨c.schedule, c.schedule_inStepOrder, fun other h => h.eq_schedule, ?_⟩
  rw [← value]
  refine ⟨b.isLt, fun i => ?_, ?_, ?_⟩
  · rw [basis i]
    simp only [Fin.ext_iff]
    rfl
  · show (List.finRange c.qubitCount.toNat).map c.finalState.qubitState = _
    rw [← List.map_coe_finRange_eq_range, List.map_map]
    exact List.map_congr_left fun q _ => Statevector.qubitState_of_isBasis basis q
  · rintro ⟨q, measured⟩
    have alike : ∀ k < s.shots.toNat,
        bitText c.measuredQubits (c.finalState.sample (s.draws k)) = bitText c.measuredQubits b.val :=
      fun k hk => congrArg _ (Statevector.sample_of_isBasis basis (unit k hk).1 (unit k hk).2)
    refine ⟨c.measuredQubits, c.sorted_measuredQubits, fun q => Circuit.mem_measuredQubits_iff inside, ?_⟩
    rw [measurements_run inside measured, countOutcomes_const (UInt32.lt_iff_toNat_lt.mp some_shot) alike,
      UInt64.ofNat_uInt32ToNat]
    rfl

/-- A flip that a controlled flip copies, listed against their steps, and two measurements. -/
def copied : Circuit where
  gates := [⟨.controlledNot 0 2 (by decide), 1⟩, .pauliX 0 0, .measure 2 3, .measure 1 2]
  qubitCount := 3
  stepCount := 4
  name := "copied"

theorem classical_exact_copied :
    let s : Simulator := { draws := fun k => if k % 2 = 0 then 0.0 else 0.75 }
    ∃ answer, s.evaluate copied = .ok answer ∧ (∀ g ∈ copied.gates, g.kind ≠ .hadamard) ∧ 0 < s.shots ∧
      (∀ k < s.shots.toNat, 0.0 ≤ s.draws k ∧ s.draws k < 1.0) ∧
      copied.finalState.get ⟨5, by decide⟩ = { re := 1.0, im := 0.0 } ∧
      answer.states = [⟨0, 0.0, 1.0⟩, ⟨1, 1.0, 0.0⟩, ⟨2, 0.0, 1.0⟩] ∧
      ∃ text, answer.measurements.entries = [(text, 1024)] := by
  intro s
  have accepted : s.evaluate copied = .ok (s.run copied) := evaluate_of_check rfl
  have classical : ∀ g ∈ copied.gates, g.kind ≠ .hadamard := by decide
  have unit : ∀ k < s.shots.toNat, 0.0 ≤ s.draws k ∧ s.draws k < 1.0 := by
    intro k _
    show 0.0 ≤ (if k % 2 = 0 then (0.0 : Float) else 0.75) ∧ (if k % 2 = 0 then (0.0 : Float) else 0.75) < 1.0
    split
    · decide +kernel
    · decide +kernel
  obtain ⟨order, ordered, -, -, amplitudes, states, counts⟩ :=
    classical_exact s copied (s.run copied) accepted classical (by decide) unit
  have sorted : copied.schedule =
      [.pauliX 0 0, ⟨.controlledNot 0 2 (by decide), 1⟩, .measure 1 2, .measure 2 3] := by
    simp [Circuit.schedule, copied, List.mergeSort, List.MergeSort.Internal.splitInTwo, Gate.pauliX, Gate.measure]
  rw [ordered.eq_schedule, sorted] at amplitudes states
  obtain ⟨qubits, -, -, entries⟩ := counts ⟨1, .measure 1 2, by decide, rfl, rfl⟩
  exact ⟨s.run copied, accepted, classical, by decide, unit, amplitudes ⟨5, by decide⟩, states, _, entries⟩

end Simulator

end QuantumWorkbench
