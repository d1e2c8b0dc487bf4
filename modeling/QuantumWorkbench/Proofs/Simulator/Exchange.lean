import QuantumWorkbench.Proofs.Simulator.Pairs

/-!
# Operations that may change places

Flips, controlled flips and measurements only move amplitudes, so they can be told apart by where they
take each amplitude from. Two of them may be done in either order unless one turns the control of the
other. A Hadamard adds amplitudes. It may change places with an operation that moves the pairs it adds
as they are; exchanging two Hadamards would round their sums in another order.

## Contents
- `Operation.Exchangeable`: a condition on two operations that can be computed.
- `Statevector.turn?`, `Statevector.source`: the qubit that is turned at a basis state, and the basis
  state whose amplitude arrives there. `Statevector.get_apply` is what they are for.
- `Statevector.apply_comm`: exchangeable operations may change places in any state.
-/

namespace QuantumWorkbench

/-! ## The condition -/

/-- The operations may change places: they are the same, or one only measures, or neither turns the
control of the other and a Hadamard among them is the only one and has its target to itself. -/
def Operation.Exchangeable (a b : Operation) : Prop :=
  a = b ∨ a.kind = .measure ∨ b.kind = .measure ∨
    (a.control? ≠ some b.target ∧ b.control? ≠ some a.target ∧
      (a.kind = .hadamard ∨ b.kind = .hadamard → a.kind ≠ b.kind ∧ a.target ≠ b.target))

instance (a b : Operation) : Decidable (a.Exchangeable b) :=
  inferInstanceAs (Decidable (_ ∨ _ ∨ _ ∨ (_ ∧ _ ∧ (_ → _))))

/-- Operations without a common qubit may change places, unless both are Hadamards. -/
theorem Operation.exchangeable_of_disjoint {a b : Operation} (disjoint : ∀ q ∈ a.qubits, q ∉ b.qubits)
    (single : ¬ (a.kind = .hadamard ∧ b.kind = .hadamard)) : a.Exchangeable b := by
  have target : a.target ∈ a.qubits := mem_qubits.mpr (.inr rfl)
  have target' : b.target ∈ b.qubits := mem_qubits.mpr (.inr rfl)
  refine .inr (.inr (.inr ⟨fun control => ?_, fun control => ?_, fun sums => ⟨fun kinds => ?_, fun targets => ?_⟩⟩))
  · exact disjoint _ (mem_qubits.mpr (.inl control)) target'
  · exact disjoint _ target (mem_qubits.mpr (.inl control))
  · rcases sums with ha | hb
    · exact single ⟨ha, kinds ▸ ha⟩
    · exact single ⟨kinds ▸ hb, hb⟩
  · rw [← targets] at target'
    exact disjoint _ target target'

namespace Statevector

variable {n : Nat}

/-! ## Moving amplitudes -/

theorem val_of_qubit? {q : Index} {place : Fin n} (h : qubit? n q = some place) :
    place.val = q.toNat := by
  unfold qubit? at h
  split at h
  · cases h
    rfl
  · cases h

/-- Different qubits of the register have different places. -/
theorem place_ne {p q : Index} {place other : Fin n} (hp : qubit? n p = some place)
    (hq : qubit? n q = some other) (apart : p ≠ q) : place.val ≠ other.val := by
  rw [val_of_qubit? hp, val_of_qubit? hq]
  exact fun same => apart (UInt32.toNat_inj.mp same)

/-- The qubit that an operation turns at a basis state, if it only moves amplitudes. -/
def turn? (op : Operation) (i : Fin (basisCount n)) : Option (Fin n) :=
  match op with
  | .pauliX q => qubit? n q
  | .controlledNot c t _ =>
    match qubit? n c, qubit? n t with
    | some c, some t => if i.val.testBit c then some t else none
    | _, _ => none
  | .hadamard _ | .measure _ => none

/-- The basis state with a qubit turned, if there is one to turn. -/
def turned (q? : Option (Fin n)) (i : Fin (basisCount n)) : Fin (basisCount n) :=
  q?.elim i (flip · i)

/-- The basis state whose amplitude an operation moves to `i`. -/
def source (op : Operation) (i : Fin (basisCount n)) : Fin (basisCount n) := turned (turn? op i) i

/-- An operation turns no qubit but its target. -/
theorem turn?_eq_some {op : Operation} {i : Fin (basisCount n)} {t : Fin n}
    (h : turn? op i = some t) : qubit? n op.target = some t := by
  cases op with
  | hadamard q => cases h
  | measure q => cases h
  | pauliX q => exact h
  | controlledNot c t' ne =>
      simp only [turn?] at h
      split at h
      · rename_i found
        split at h
        · cases h
          exact found
        · cases h
      · cases h

/-- Whether an operation turns its target depends on its control only. -/
theorem turn?_flip {op : Operation} {q : Index} {place : Fin n} (hq : qubit? n q = some place)
    (free : op.control? ≠ some q) (i : Fin (basisCount n)) :
    turn? op (flip place i) = turn? op i := by
  cases op with
  | hadamard p => rfl
  | measure p => rfl
  | pauliX p => rfl
  | controlledNot c t ne =>
      cases hc : qubit? n c with
      | none => simp only [turn?, hc]
      | some control =>
          have apart : q ≠ c := fun same => free (congrArg some same.symm)
          have kept := testBit_flip_of_ne (place_ne hq hc apart) i
          cases ht : qubit? n t with
          | none => simp only [turn?, hc, ht]
          | some target => simp only [turn?, hc, ht, kept]

theorem turned_comm (p? q? : Option (Fin n)) (i : Fin (basisCount n)) :
    turned p? (turned q? i) = turned q? (turned p? i) := by
  cases p? with
  | none => rfl
  | some p =>
      cases q? with
      | none => rfl
      | some q => exact flip_comm p q i

/-- **An operation that is no Hadamard only moves amplitudes.** -/
theorem get_apply {op : Operation} (moves : op.kind ≠ .hadamard) (v : Statevector n)
    (i : Fin (basisCount n)) : (v.apply op).get i = v.get (source op i) := by
  cases op with
  | hadamard q => exact absurd rfl moves
  | measure q => rfl
  | pauliX q =>
      cases hq : qubit? n q with
      | none => simp [apply, source, turn?, turned, hq]
      | some place => simpa [apply, source, turn?, turned, hq] using get_pauliX place v i
  | controlledNot c t ne =>
      cases hc : qubit? n c with
      | none => simp [apply, source, turn?, turned, hc]
      | some control =>
          cases ht : qubit? n t with
          | none => simp [apply, source, turn?, turned, hc, ht]
          | some target =>
              have apart : control ≠ target := fun same =>
                place_ne hc ht ne (congrArg Fin.val same)
              have here := get_controlledNot apart v i
              cases bit : i.val.testBit control <;>
                simpa [apply, source, turn?, turned, hc, ht, bit] using here

/-- What one operation turns does not hang on where the other takes its amplitudes from. -/
theorem turn?_source {a b : Operation} (free : b.control? ≠ some a.target)
    (i : Fin (basisCount n)) : turn? b (source a i) = turn? b i := by
  unfold source
  cases turn : turn? a i with
  | none => rfl
  | some t => exact turn?_flip (turn?_eq_some turn) free i

theorem source_comm {a b : Operation} (hab : a.control? ≠ some b.target)
    (hba : b.control? ≠ some a.target) (i : Fin (basisCount n)) :
    source a (source b i) = source b (source a i) := by
  have first : source a (source b i) = turned (turn? a i) (turned (turn? b i) i) :=
    congrArg (fun q? => turned q? (source b i)) (turn?_source hab i)
  have second : source b (source a i) = turned (turn? b i) (turned (turn? a i) i) :=
    congrArg (fun q? => turned q? (source a i)) (turn?_source hba i)
  rw [first, second, turned_comm]

/-- A pair is moved as a pair. -/
theorem source_flip {op : Operation} {q : Index} {place : Fin n} (hq : qubit? n q = some place)
    (free : op.control? ≠ some q) (i : Fin (basisCount n)) :
    source op (flip place i) = flip place (source op i) := by
  have turn : source op (flip place i) = turned (turn? op i) (turned (some place) i) :=
    congrArg (fun q? => turned q? (flip place i)) (turn?_flip hq free i)
  rw [turn, turned_comm]
  rfl

/-- Qubits other than the target keep their values. -/
theorem testBit_source {op : Operation} {q : Index} {place : Fin n} (hq : qubit? n q = some place)
    (apart : q ≠ op.target) (i : Fin (basisCount n)) :
    (source op i).val.testBit place = i.val.testBit place := by
  unfold source
  cases turn : turn? op i with
  | none => rfl
  | some t => exact testBit_flip_of_ne (place_ne (turn?_eq_some turn) hq apart.symm) i

/-! ## Changing places -/

variable {a b : Operation}

/-- State vectors are told apart by their amplitudes. -/
theorem ext_get {v w : Statevector n} (h : ∀ i, v.get i = w.get i) : v = w :=
  Vector.ext fun i inside => h ⟨i, inside⟩

theorem apply_comm_of_moves (ha : a.kind ≠ .hadamard) (hb : b.kind ≠ .hadamard)
    (hab : a.control? ≠ some b.target) (hba : b.control? ≠ some a.target) (v : Statevector n) :
    (v.apply a).apply b = (v.apply b).apply a := by
  apply ext_get
  intro i
  rw [get_apply hb, get_apply ha, get_apply ha, get_apply hb]
  exact congrArg v.get (source_comm hab hba i)

/-- A pair of amplitudes is added as well where it is moved to. -/
theorem apply_comm_hadamard {q : Index} (hb : b.kind ≠ .hadamard) (free : b.control? ≠ some q)
    (apart : q ≠ b.target) (v : Statevector n) :
    (v.apply (.hadamard q)).apply b = (v.apply b).apply (.hadamard q) := by
  cases hq : qubit? n q with
  | none => simp [apply, hq]
  | some place =>
      have sums : ∀ w : Statevector n, w.apply (.hadamard q) = hadamard place w := by
        intro w
        simp [apply, hq]
      apply ext_get
      intro i
      have partner : v.get (flip place (source b i)) = v.get (source b (flip place i)) :=
        congrArg v.get (source_flip hq free i).symm
      rw [sums, sums, get_apply hb, get_hadamard, get_hadamard, get_apply hb,
        get_apply hb, testBit_source hq apart, partner]

/-- **Exchangeable operations may change places.** -/
theorem apply_comm (h : a.Exchangeable b) (v : Statevector n) :
    (v.apply a).apply b = (v.apply b).apply a := by
  have measured : ∀ {m : Operation}, m.kind = .measure → ∀ w : Statevector n, w.apply m = w := by
    intro m measures w
    cases m with
    | measure q => rfl
    | _ => cases measures
  have sums : ∀ {m : Operation}, m.kind = .hadamard → m = .hadamard m.target := by
    intro m adds
    cases m with
    | hadamard q => rfl
    | _ => cases adds
  rcases h with rfl | ha | hb | ⟨hab, hba, alone⟩
  · rfl
  · rw [measured ha, measured ha]
  · rw [measured hb, measured hb]
  -- Hadamard gates add amplitudes and all others move them. At most one of the two adds.
  · by_cases ha : a.kind = .hadamard
    · obtain ⟨kinds, targets⟩ := alone (.inl ha)
      rw [sums ha]
      exact apply_comm_hadamard (fun hb => kinds (ha.trans hb.symm)) hba targets v
    · by_cases hb : b.kind = .hadamard
      · obtain ⟨-, targets⟩ := alone (.inr hb)
        rw [sums hb]
        exact (apply_comm_hadamard ha hab targets.symm v).symm
      · exact apply_comm_of_moves ha hb hab hba v

end Statevector

end QuantumWorkbench
