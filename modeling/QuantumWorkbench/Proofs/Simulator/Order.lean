import QuantumWorkbench.Proofs.Simulator.Exchange
import QuantumWorkbench.Simulator.Evaluate

/-!
# The order of gates

The simulator sorts the gates by step. What a list of gates does in its own order is the same if the gates
that the sorting moves past each other may change places.

## Contents
- `Circuit.listState`: the state behind the gates in list order.
- `Circuit.Orderly`: gates that are listed against the order of their steps may change places.
- `Circuit.finalState_of_orderly`: the simulator's state is then that of the list.
-/

namespace QuantumWorkbench

/-! ## Sorting and folding -/

/-- An action that changes places with all others of a list may be done first. -/
theorem foldl_comm {α β : Type} {f : β → α → β} {a : α} {l : List α}
    (exchange : ∀ b ∈ l, ∀ s, f (f s a) b = f (f s b) a) (s : β) :
    f (l.foldl f s) a = l.foldl f (f s a) := by
  induction l generalizing s with
  | nil => rfl
  | cons b rest ih =>
      rw [List.foldl_cons, List.foldl_cons, exchange b List.mem_cons_self s]
      exact ih (fun c hc => exchange c (List.mem_cons_of_mem b hc)) (f s b)

/-- Sorting does not change what a list of actions does, if actions that it moves past each other may
change places. -/
theorem foldl_mergeSort {α β : Type} {le : α → α → Bool}
    (trans : ∀ a b c, le a b = true → le b c = true → le a c = true)
    (total : ∀ a b, (le a b || le b a) = true) {f : β → α → β} {l : List α}
    (exchange : l.Pairwise fun a b => le a b = false → ∀ s, f (f s a) b = f (f s b) a) (s : β) :
    (l.mergeSort le).foldl f s = l.foldl f s := by
  induction l generalizing s with
  | nil => simp
  | cons a rest ih =>
      obtain ⟨first, behind⟩ := List.pairwise_cons.mp exchange
      -- The sorted list has `a` behind the actions that belong before it.
      obtain ⟨before, after, split, sorted, smaller⟩ := List.mergeSort_cons trans total a rest
      have moved : ∀ b ∈ before, ∀ s, f (f s a) b = f (f s b) a := by
        intro b hb
        have listed : b ∈ rest.mergeSort le := by
          rw [sorted]
          exact List.mem_append_left after hb
        exact first b (List.mem_mergeSort.mp listed) (by simpa using smaller b hb)
      calc ((a :: rest).mergeSort le).foldl f s
          = after.foldl f (f (before.foldl f s) a) := by
            rw [split, List.foldl_append, List.foldl_cons]
        _ = (before ++ after).foldl f (f s a) := by rw [foldl_comm moved, List.foldl_append]
        _ = rest.foldl f (f s a) := by rw [← sorted, ih behind]

namespace Circuit

/-! ## Circuits -/

theorem step_le_trans (a b c : Gate) (hab : decide (a.step ≤ b.step) = true)
    (hbc : decide (b.step ≤ c.step) = true) : decide (a.step ≤ c.step) = true :=
  decide_eq_true (UInt32.le_trans (of_decide_eq_true hab) (of_decide_eq_true hbc))

theorem step_le_total (a b : Gate) : (decide (a.step ≤ b.step) || decide (b.step ≤ a.step)) = true := by
  rw [Bool.or_eq_true, decide_eq_true_eq, decide_eq_true_eq]
  exact UInt32.le_total _ _

/-- The state of the register behind the gates in list order, whatever their steps. -/
def listState (c : Circuit) : Statevector c.qubitCount.toNat :=
  c.gates.foldl (fun v g => v.apply g.operation) (.ground _)

/-- Any two gates that are listed against the order of their steps may change places. -/
def Orderly (c : Circuit) : Prop :=
  c.gates.Pairwise fun a b => b.step < a.step → a.operation.Exchangeable b.operation

instance (c : Circuit) : Decidable c.Orderly := inferInstanceAs (Decidable (List.Pairwise _ _))

/-- Gates that are listed step by step are orderly. -/
theorem orderly_of_sorted {c : Circuit} (sorted : c.gates.Pairwise fun a b => a.step ≤ b.step) :
    c.Orderly :=
  sorted.imp fun le lt => absurd lt (UInt32.not_lt.mpr le)

/-- **The simulator follows the list** if the list is orderly. -/
theorem finalState_of_orderly {c : Circuit} (orderly : c.Orderly) : c.finalState = c.listState := by
  refine foldl_mergeSort step_le_trans step_le_total (orderly.imp ?_) _
  intro a b exchangeable against v
  exact Statevector.apply_comm (exchangeable (UInt32.not_le.mp (of_decide_eq_false against))) v

end Circuit

end QuantumWorkbench
