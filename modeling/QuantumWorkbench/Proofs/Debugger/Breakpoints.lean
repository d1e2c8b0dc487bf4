import QuantumWorkbench.Debugger.Session
import Mathlib.Algebra.Ring.Parity
import Mathlib.Data.List.Sort

/-!
# Sets of breakpoints

A set of steps is a list in ascending order, in which steps are toggled one after the other.

## Contents
- `mem_toggle`, `ascending_toggle`: which steps a toggle leaves in a set, and that they stay in order.
- `toggleEach`: many toggles, and `mem_toggleEach`: the steps that are toggled an odd number of times change.
- `toggleEach_nil_of_ascending`: a set is what toggling its own steps makes of the empty set.
-/

namespace QuantumWorkbench

/-- A list that stands for a set of steps: every step once, in order. -/
abbrev Ascending (steps : List Index) : Prop := steps.Pairwise (· < ·)

variable {n m : Index} {marked : List Index}

/-! ## One toggle -/

theorem mem_insertStep : m ∈ insertStep n marked ↔ m = n ∨ m ∈ marked := by
  induction marked with
  | nil => exact List.mem_cons
  | cons s rest ih =>
      rw [insertStep]
      split
      · exact List.mem_cons
      · rw [List.mem_cons, ih, List.mem_cons]
        exact or_left_comm

/-- A toggle concerns its own step only, and changes that. -/
theorem mem_toggle : m ∈ toggle n marked ↔ (m ∈ marked ↔ m ≠ n) := by
  unfold toggle
  split
  · rename_i present
    rw [List.mem_filter, decide_eq_true_iff]
    constructor
    · rintro ⟨held, other⟩
      exact iff_of_true held other
    · intro same
      have other : m ≠ n := by
        rintro rfl
        exact same.mp present rfl
      exact ⟨same.mpr other, other⟩
  · rename_i absent
    rw [mem_insertStep]
    constructor
    · rintro (rfl | held)
      · exact iff_of_false absent (· rfl)
      · refine iff_of_true held ?_
        rintro rfl
        exact absent held
    · intro same
      by_cases own : m = n
      · exact .inl own
      · exact .inr (same.mpr own)

theorem mem_toggle_self : n ∈ toggle n marked ↔ n ∉ marked := by
  rw [mem_toggle]
  exact ⟨fun same held => same.mp held rfl, fun absent => iff_of_false absent (· rfl)⟩

theorem ascending_insertStep (ascending : Ascending marked) (absent : n ∉ marked) :
    Ascending (insertStep n marked) := by
  induction marked with
  | nil => exact List.pairwise_singleton _ n
  | cons s rest ih =>
      obtain ⟨first, behind⟩ := List.pairwise_cons.mp ascending
      rw [insertStep]
      split
      · rename_i before
        refine List.pairwise_cons.mpr ⟨?_, ascending⟩
        exact List.forall_mem_cons.mpr ⟨before, fun m held => UInt32.lt_trans before (first m held)⟩
      · rename_i notBefore
        have after : s < n := by
          refine UInt32.lt_of_le_of_ne (UInt32.not_lt.mp notBefore) ?_
          rintro rfl
          exact absent List.mem_cons_self
        refine List.pairwise_cons.mpr ⟨?_, ih behind fun held => absent (List.mem_cons_of_mem s held)⟩
        intro m held
        rcases mem_insertStep.mp held with rfl | old
        · exact after
        · exact first m old

theorem ascending_toggle (ascending : Ascending marked) (n : Index) : Ascending (toggle n marked) := by
  unfold toggle
  split
  · exact ascending.filter _
  · rename_i absent
    exact ascending_insertStep ascending absent

/-! ## Many toggles -/

/-- Toggles steps one after the other. -/
def toggleEach (marked steps : List Index) : List Index := steps.foldl (fun marked n => toggle n marked) marked

theorem toggleEach_cons (marked : List Index) (n : Index) (steps : List Index) :
    toggleEach marked (n :: steps) = toggleEach (toggle n marked) steps := rfl

theorem toggleEach_append (marked steps more : List Index) :
    toggleEach marked (steps ++ more) = toggleEach (toggleEach marked steps) more := List.foldl_append

/-- **Parity of toggles.** A step that is toggled an even number of times is in the set if it was before, and any
other if it was not. -/
theorem mem_toggleEach {steps : List Index} :
    m ∈ toggleEach marked steps ↔ (m ∈ marked ↔ Even (steps.count m)) := by
  induction steps generalizing marked with
  | nil => exact (iff_true_right Even.zero).symm
  | cons n steps ih =>
      rw [toggleEach_cons, ih, mem_toggle]
      by_cases own : m = n
      · rw [own, List.count_cons_self, Nat.even_add_one]
        tauto
      · rw [List.count_cons_of_ne (Ne.symm own)]
        tauto

theorem mem_toggleEach_nil {steps : List Index} : m ∈ toggleEach [] steps ↔ Odd (steps.count m) := by
  rw [mem_toggleEach, iff_false_left List.not_mem_nil, Nat.not_even_iff_odd]

theorem ascending_toggleEach (ascending : Ascending marked) (steps : List Index) :
    Ascending (toggleEach marked steps) := by
  induction steps generalizing marked with
  | nil => exact ascending
  | cons n steps ih => exact ih (ascending_toggle ascending n)

theorem ascending_toggleEach_nil (steps : List Index) : Ascending (toggleEach [] steps) :=
  ascending_toggleEach List.Pairwise.nil steps

/-- **A set comes back when its steps are toggled in the empty set.** -/
theorem toggleEach_nil_of_ascending (ascending : Ascending marked) : toggleEach [] marked = marked := by
  refine (ascending_toggleEach_nil marked).eq_of_mem_iff ascending fun m => ?_
  have once : marked.Nodup := ascending.imp UInt32.ne_of_lt
  rw [mem_toggleEach_nil, once.count]
  split
  · rename_i held
    exact iff_of_true odd_one held
  · rename_i absent
    exact iff_of_false Nat.not_odd_zero absent

end QuantumWorkbench
