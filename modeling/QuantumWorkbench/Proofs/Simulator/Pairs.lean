import QuantumWorkbench.Simulator.Statevector

/-!
# Gates place by place

A gate is a loop that rewrites a state vector in place, pair by pair. Each pair is handled once and no
pair touches another, so what the loop leaves at a basis state can be said from the vector before it.

## Contents
- `Statevector.flip`: the other basis state of a pair, with its bits.
- `Statevector.low`: the basis state of a pair at which the loop handles it.
- `Statevector.get_mapPair`, `Statevector.get_mapPairs`: one turn of the loop, and the loop.
- `Statevector.get_hadamard`, `Statevector.get_pauliX`, `Statevector.get_controlledNot`: the
  gates.
-/

namespace QuantumWorkbench

namespace Statevector

variable {n : Nat}

/-! ## Pairs -/

/-- The number of the basis state that differs in qubit `q` only. -/
def flip (q : Fin n) (i : Fin (basisCount n)) : Fin (basisCount n) :=
  ⟨i.val ^^^ basisCount q, Nat.xor_lt_two_pow i.isLt (Nat.pow_lt_pow_right (by decide) q.isLt)⟩

theorem testBit_flip (q : Fin n) (i : Fin (basisCount n)) (k : Nat) :
    (flip q i).val.testBit k = (i.val.testBit k ^^ decide (q.val = k)) := by
  show (i.val ^^^ 2 ^ q.val).testBit k = _
  rw [Nat.testBit_xor, Nat.testBit_two_pow]

@[simp] theorem testBit_flip_self (q : Fin n) (i : Fin (basisCount n)) :
    (flip q i).val.testBit q = !i.val.testBit q := by
  simp [testBit_flip]

theorem testBit_flip_of_ne {q : Fin n} {k : Nat} (ne : q.val ≠ k) (i : Fin (basisCount n)) :
    (flip q i).val.testBit k = i.val.testBit k := by
  simp [testBit_flip, ne]

/-- Basis states are told apart by their bits. -/
theorem ext_testBit {i j : Fin (basisCount n)}
    (h : ∀ k, i.val.testBit k = j.val.testBit k) : i = j :=
  Fin.ext (Nat.eq_of_testBit_eq h)

@[simp] theorem flip_flip (q : Fin n) (i : Fin (basisCount n)) : flip q (flip q i) = i := by
  apply ext_testBit
  intro k
  simp [testBit_flip]

/-- Qubits are flipped in any order. -/
theorem flip_comm (p q : Fin n) (i : Fin (basisCount n)) : flip p (flip q i) = flip q (flip p i) := by
  apply ext_testBit
  intro k
  simp only [testBit_flip]
  exact Bool.xor_right_comm _ _ _

/-- Setting a clear bit flips it. -/
theorem withBit_of_clear {q : Fin n} {i : Fin (basisCount n)} (clear : i.val.testBit q = false) :
    withBit i q = flip q i := by
  apply ext_testBit
  intro k
  rw [testBit_flip]
  show (i.val ||| 2 ^ q.val).testBit k = _
  rw [Nat.testBit_or, Nat.testBit_two_pow]
  by_cases same : q.val = k
  · rw [← same, clear]
    simp
  · simp [same]

/-- The basis state of the pair of `i` in which qubit `q` is clear. -/
def low (q : Fin n) (i : Fin (basisCount n)) : Fin (basisCount n) :=
  if i.val.testBit q then flip q i else i

theorem testBit_low (q : Fin n) (i : Fin (basisCount n)) : (low q i).val.testBit q = false := by
  rw [low]
  cases bit : i.val.testBit q with
  | true => simp [bit]
  | false => simpa using bit

theorem low_flip (q : Fin n) (i : Fin (basisCount n)) : low q (flip q i) = low q i := by
  rw [low, low, testBit_flip_self]
  cases i.val.testBit q <;> simp

/-- A pair has two members. -/
theorem low_eq_iff {q : Fin n} {i k : Fin (basisCount n)} (clear : k.val.testBit q = false) :
    low q i = k ↔ i = k ∨ i = flip q k := by
  constructor
  · intro same
    rw [low] at same
    split at same
    · exact .inr (by rw [← same, flip_flip])
    · exact .inl same
  · rintro (rfl | rfl)
    · simp [low, clear]
    · rw [low_flip]
      simp [low, clear]

/-! ## The loop over pairs -/

variable (f : Nat → Amplitude → Amplitude → Amplitude × Amplitude) (q : Fin n)

/-- What the pair of `i` is replaced by at `i`. -/
def paired (v : Statevector n) (i : Fin (basisCount n)) : Amplitude :=
  if i.val.testBit q then (f (flip q i) (v.get (flip q i)) (v.get i)).2
  else (f i (v.get i) (v.get (flip q i))).1

theorem paired_of_clear (v : Statevector n) {k : Fin (basisCount n)}
    (clear : k.val.testBit q = false) : paired f q v k = (f k (v.get k) (v.get (flip q k))).1 := by
  simp [paired, clear]

theorem paired_flip (v : Statevector n) {k : Fin (basisCount n)} (clear : k.val.testBit q = false) :
    paired f q v (flip q k) = (f k (v.get k) (v.get (flip q k))).2 := by
  simp [paired, clear]

/-- One turn of the loop replaces one pair. -/
theorem get_mapPair (v : Statevector n) (k i : Fin (basisCount n)) :
    (mapPair f q v k).get i = if low q i = k then paired f q v i else v.get i := by
  cases bit : k.val.testBit q with
  | true =>
      have other : low q i ≠ k := by
        rintro rfl
        rw [testBit_low] at bit
        cases bit
      rw [mapPair, if_pos bit, if_neg other]
  | false =>
      let pair := f k (v.get k) (v.get (flip q k))
      have written : mapPair f q v k = (v.set k pair.1).set (flip q k) pair.2 := by
        simp only [mapPair, bit, Bool.false_eq_true, if_false, withBit_of_clear bit]
        rfl
      rw [written]
      show ((v.set k pair.1).set (flip q k) pair.2)[i.val] = _
      rw [Vector.getElem_set, Vector.getElem_set]
      by_cases high : i = flip q k
      · have own : low q i = k := (low_eq_iff bit).mpr (.inr high)
        rw [if_pos (congrArg Fin.val high.symm), if_pos own, high, paired_flip f q v bit]
      · rw [if_neg fun same => high (Fin.ext same.symm)]
        by_cases here : i = k
        · have own : low q i = k := (low_eq_iff bit).mpr (.inl here)
          rw [if_pos (congrArg Fin.val here.symm), if_pos own, here, paired_of_clear f q v bit]
        · have other : low q i ≠ k := fun own => ((low_eq_iff bit).mp own).elim here high
          rw [if_neg fun same => here (Fin.ext same.symm), if_neg other]
          rfl

/-- A pair is replaced by what stood at its two places. -/
theorem paired_congr {v w : Statevector n} {i : Fin (basisCount n)} (here : v.get i = w.get i)
    (there : v.get (flip q i) = w.get (flip q i)) : paired f q v i = paired f q w i := by
  rw [paired, paired, here, there]

/-- What holds of the state of a loop before its first turn, and is carried from turn to turn, holds
behind its last. -/
theorem foldl_invariant {α : Type} {m : Nat} {step : α → Fin m → α} (P : Nat → α → Prop) {a : α}
    (init : P 0 a) (carried : ∀ (k : Fin m) (b : α), P k b → P (k + 1) (step b k)) :
    P m (Fin.foldl m step a) := by
  induction m with
  | zero => simpa using init
  | succ m ih =>
      rw [Fin.foldl_succ_last]
      exact carried (Fin.last m) _ (ih fun k b h => carried k.castSucc b h)

/-- **The loop replaces every pair once**, by what stood there before the loop. -/
theorem get_mapPairs (v : Statevector n) (i : Fin (basisCount n)) :
    (mapPairs f q v).get i = paired f q v i := by
  -- Before turn `k` the pairs that start below `k` are replaced and all others are as they were.
  let handled (k : Nat) (w : Statevector n) : Prop :=
    ∀ i, w.get i = if (low q i).val < k then paired f q v i else v.get i
  have all : handled (basisCount n) (mapPairs f q v) := by
    apply foldl_invariant handled
    · intro i
      rfl
    · intro k w before i
      have untouched : ∀ i, low q i = k → w.get i = v.get i := by
        intro i own
        rw [before i, own, if_neg (Nat.lt_irrefl _)]
      rw [get_mapPair]
      by_cases own : low q i = k
      · rw [if_pos own, own, if_pos (Nat.lt_succ_self _)]
        exact paired_congr f q (untouched i own) (untouched _ (by rw [low_flip, own]))
      · have bound : (low q i).val < k.val + 1 ↔ (low q i).val < k.val := by
          have apart : (low q i).val ≠ k.val := fun same => own (Fin.ext same)
          omega
        rw [if_neg own, before i]
        simp only [bound]
  rw [all i, if_pos (low q i).isLt]

/-! ## The gates -/

theorem get_hadamard (v : Statevector n) (i : Fin (basisCount n)) :
    (hadamard q v).get i =
      if i.val.testBit q then ((v.get (flip q i)).sub (v.get i)).scale invSqrtTwo
      else ((v.get i).add (v.get (flip q i))).scale invSqrtTwo :=
  get_mapPairs _ q v i

theorem get_pauliX (v : Statevector n) (i : Fin (basisCount n)) :
    (pauliX q v).get i = v.get (flip q i) := by
  rw [pauliX, get_mapPairs, paired]
  split <;> rfl

theorem get_controlledNot {c t : Fin n} (apart : c ≠ t) (v : Statevector n)
    (i : Fin (basisCount n)) :
    (controlledNot c t v).get i = if i.val.testBit c then v.get (flip t i) else v.get i := by
  have kept : (flip t i).val.testBit c = i.val.testBit c :=
    testBit_flip_of_ne (fun same => apart (Fin.ext same.symm)) i
  rw [controlledNot, get_mapPairs, paired, kept]
  split <;> split <;> rfl

end Statevector

end QuantumWorkbench
