import QuantumWorkbench.Proofs.Circuit.Index
import QuantumWorkbench.Proofs.Circuit.Inside
import QuantumWorkbench.Proofs.Simulator.Order

/-!
# Simulating step by step

A debugger asks about one step more each time, and the simulator starts from the ground each time. What it finds
is what it found before, and then the gates of one more step. The schedule carries this: it is sorted by step and
stable, and such a list is known by its part at each step.

## Contents
- `eq_of_sorted_of_filter`: sorted lists with the same part at each key are equal.
- `Circuit.filter_schedule`: the schedule has the gates of each step in list order.
- `Circuit.schedule_upTo_succ`: the schedule of one step more.
- `Simulator.run_congr`, `Simulator.run_congr_schedule`: what the simulator makes of a circuit depends on the
  amplitudes and the measured qubits, so on the schedule alone.
- `Simulator.simulation_incremental`: the simulator goes on from step to step.
-/

namespace QuantumWorkbench

/-! ## Sorted lists -/

section
variable {α : Type} {key : α → Index} {l m : List α}

/-- Lists with the same part at each key have the same members. -/
theorem mem_iff_of_filter (same : ∀ k, l.filter (key · = k) = m.filter (key · = k)) {a : α} :
    a ∈ l ↔ a ∈ m := by
  have part : ∀ l' : List α, a ∈ l'.filter (key · = key a) ↔ a ∈ l' := by
    intro l'
    rw [List.mem_filter]
    exact and_iff_left (decide_eq_true rfl)
  rw [← part l, same, part m]

/-- **Sorted lists with the same part at each key are equal.** -/
theorem eq_of_sorted_of_filter (sorted : l.Pairwise fun a b => key a ≤ key b)
    (sorted' : m.Pairwise fun a b => key a ≤ key b)
    (same : ∀ k, l.filter (key · = k) = m.filter (key · = k)) : l = m := by
  induction l generalizing m with
  | nil =>
      refine (List.eq_nil_iff_forall_not_mem.mpr fun a member => ?_).symm
      cases (mem_iff_of_filter same).mpr member
  | cons a rest ih =>
      cases m with
      | nil => cases (mem_iff_of_filter same).mp List.mem_cons_self
      | cons b rest' =>
          obtain ⟨least, behind⟩ := List.pairwise_cons.mp sorted
          obtain ⟨least', behind'⟩ := List.pairwise_cons.mp sorted'
          -- Each head is a member of the other list, so that neither key is below the other.
          have keys : key a = key b := by
            apply UInt32.le_antisymm
            · rcases List.mem_cons.mp ((mem_iff_of_filter same).mpr List.mem_cons_self) with rfl | later
              · exact UInt32.le_rfl
              · exact least b later
            · rcases List.mem_cons.mp ((mem_iff_of_filter same).mp List.mem_cons_self) with rfl | later
              · exact UInt32.le_rfl
              · exact least' a later
          have heads : a = b := by
            have part := same (key a)
            simp only [List.filter_cons, keys, decide_true, if_true] at part
            exact (List.cons_eq_cons.mp part).1
          cases heads
          refine congrArg (a :: ·) (ih behind behind' fun k => ?_)
          have part := same k
          rw [List.filter_cons, List.filter_cons] at part
          split at part
          · exact (List.cons_eq_cons.mp part).2
          · exact part

end

namespace Circuit

variable {c c' : Circuit}

/-! ## Schedules -/

theorem step_of_mem_gatesAt {k : Index} {g : Gate} (h : g ∈ c.gatesAt k) : g.step = k :=
  of_decide_eq_true (List.mem_filter.mp h).2

theorem sorted_gatesAt (c : Circuit) (k : Index) :
    (c.gatesAt k).Pairwise fun a b => a.step ≤ b.step := by
  refine List.pairwise_of_forall_mem_list fun a ha b hb => ?_
  rw [step_of_mem_gatesAt ha, step_of_mem_gatesAt hb]
  exact UInt32.le_rfl

theorem mem_schedule {g : Gate} : g ∈ c.schedule ↔ g ∈ c.gates := List.mem_mergeSort

theorem sorted_schedule (c : Circuit) : c.schedule.Pairwise fun a b => a.step ≤ b.step :=
  (List.pairwise_mergeSort step_le_trans step_le_total c.gates).imp of_decide_eq_true

/-- **The schedule has the gates of each step in list order.** -/
theorem filter_schedule (c : Circuit) (k : Index) : c.schedule.filter (·.step = k) = c.gatesAt k := by
  have kept : (c.gatesAt k).Sublist c.schedule :=
    List.sublist_mergeSort step_le_trans step_le_total ((sorted_gatesAt c k).imp decide_eq_true)
      List.filter_sublist
  -- All of them are at this step, and the schedule has no more of them than the list.
  have part : (c.gatesAt k).Sublist (c.schedule.filter (·.step = k)) := by
    rw [← List.filter_eq_self.mpr fun g (hg : g ∈ c.gatesAt k) => decide_eq_true (step_of_mem_gatesAt hg)]
    exact kept.filter _
  refine (part.eq_of_length ?_).symm
  exact ((List.mergeSort_perm c.gates _).filter _).length_eq.symm

/-- **A schedule is known by the gates of each step.** -/
theorem schedule_congr (same : ∀ k, c.gatesAt k = c'.gatesAt k) : c.schedule = c'.schedule := by
  refine eq_of_sorted_of_filter (sorted_schedule c) (sorted_schedule c') fun k => ?_
  rw [filter_schedule, filter_schedule, same]

/-- The amplitudes depend on the register and the schedule alone. -/
theorem finalState_congr (schedule : c'.schedule = c.schedule) (qubits : c'.qubitCount = c.qubitCount) :
    c'.finalState.toArray = c.finalState.toArray := by
  unfold finalState
  rw [schedule, qubits]

/-! ## One step more -/

theorem gatesAt_upTo (c : Circuit) (limit k : Index) :
    (c.upTo limit).gatesAt k = if k < limit then c.gatesAt k else [] := by
  show (c.gates.filter (·.step < limit)).filter (·.step = k) = _
  rw [List.filter_filter]
  split
  · rename_i early
    refine List.filter_congr fun g _ => ?_
    by_cases here : g.step = k
    · simp [here, early]
    · simp [here]
  · rename_i late
    refine List.filter_eq_nil_iff.mpr fun g _ => ?_
    by_cases here : g.step = k
    · simp [here, late]
    · simp [here]

/-- The gates at one step, seen among all steps. -/
theorem filter_gatesAt (c : Circuit) (k j : Index) :
    (c.gatesAt k).filter (·.step = j) = if j = k then c.gatesAt k else [] := by
  split
  · rename_i same
    exact List.filter_eq_self.mpr fun g hg => decide_eq_true ((step_of_mem_gatesAt hg).trans same.symm)
  · rename_i other
    refine List.filter_eq_nil_iff.mpr fun g hg here => other ?_
    rw [← step_of_mem_gatesAt hg, of_decide_eq_true here]

/-- **The schedule of one step more** goes on with the gates of that step in list order. -/
theorem schedule_upTo_succ (c : Circuit) {k : Index} (room : k < Index.last) :
    (c.upTo (k + 1)).schedule = (c.upTo k).schedule ++ c.gatesAt k := by
  have next : (k + 1).toNat = k.toNat + 1 := Index.toNat_succ room
  apply eq_of_sorted_of_filter (sorted_schedule _)
  · refine List.pairwise_append.mpr ⟨sorted_schedule _, sorted_gatesAt c k, fun a ha b hb => ?_⟩
    have early : a.step < k := of_decide_eq_true (List.mem_filter.mp (mem_schedule.mp ha)).2
    rw [step_of_mem_gatesAt hb]
    exact UInt32.le_of_lt early
  · intro j
    rw [List.filter_append, filter_schedule, filter_schedule, gatesAt_upTo, gatesAt_upTo, filter_gatesAt]
    -- A step is before both limits, at the first of them, or at neither.
    have split : j < k + 1 ↔ j < k ∨ j = k := by
      rw [UInt32.lt_iff_toNat_lt, UInt32.lt_iff_toNat_lt, next, ← UInt32.toNat_inj]
      omega
    by_cases here : j = k
    · subst here
      simp [split]
    · simp [split, here]

/-- **The state of one step more** is the state before it with the gates of that step applied. -/
theorem finalState_upTo_succ (c : Circuit) {k : Index} (room : k < Index.last) :
    (c.upTo (k + 1)).finalState =
      (c.gatesAt k).foldl (fun v g => v.apply g.operation) (c.upTo k).finalState := by
  rw [finalState, schedule_upTo_succ c room, List.foldl_append]
  rfl

/-! ## Measured qubits -/

theorem mem_measuredQubits {q : Nat} :
    q ∈ c.measuredQubits ↔
      q < c.qubitCount.toNat ∧ ∃ g ∈ c.gates, g.kind = .measure ∧ g.target.toNat = q := by
  rw [measuredQubits, List.mem_filter, List.mem_range, List.any_eq_true]
  simp only [decide_eq_true_eq]

/-- A gate of the circuit measures qubit number `q`. -/
def Measures (c : Circuit) (q : Nat) : Prop := ∃ g ∈ c.gates, g.kind = .measure ∧ g.target.toNat = q

/-- The list of measured qubits depends on the register and on which qubits are measured, not on how often. -/
theorem measuredQubits_of_measures (qubits : c'.qubitCount = c.qubitCount)
    (measures : ∀ q, c'.Measures q ↔ c.Measures q) : c'.measuredQubits = c.measuredQubits := by
  unfold measuredQubits
  rw [qubits]
  refine List.filter_congr fun q _ => ?_
  rw [Bool.eq_iff_iff, List.any_eq_true, List.any_eq_true]
  simpa only [Measures, decide_eq_true_eq] using measures q

/-- The qubits that are measured do not depend on the order of the gates. -/
theorem measuredQubits_congr (qubits : c'.qubitCount = c.qubitCount)
    (listed : ∀ g, g ∈ c'.gates ↔ g ∈ c.gates) : c'.measuredQubits = c.measuredQubits :=
  measuredQubits_of_measures qubits fun _ => exists_congr fun g => and_congr_left' (listed g)

/-- Inside the register, one step more measures the qubits of its own measurements as well. -/
theorem mem_measuredQubits_upTo_succ (inside : ∀ g ∈ c.gates, g.Inside c.qubitCount) {k : Index}
    (room : k < Index.last) {q : Nat} :
    q ∈ (c.upTo (k + 1)).measuredQubits ↔ q ∈ (c.upTo k).measuredQubits ∨
      ∃ g ∈ c.gatesAt k, g.kind = .measure ∧ g.target.toNat = q := by
  have more : ∀ g, g ∈ (c.upTo (k + 1)).gates ↔ g ∈ (c.upTo k).gates ∨ g ∈ c.gatesAt k := by
    intro g
    rw [← mem_schedule, schedule_upTo_succ c room, List.mem_append, mem_schedule]
  rw [mem_measuredQubits, mem_measuredQubits]
  constructor
  · rintro ⟨within, g, hg, measures⟩
    rcases (more g).mp hg with before | here
    · exact .inl ⟨within, g, before, measures⟩
    · exact .inr ⟨g, here, measures⟩
  · rintro (⟨within, g, before, measures⟩ | ⟨g, here, measures⟩)
    · exact ⟨within, g, (more g).mpr (.inl before), measures⟩
    · have within := (Gate.inside_iff.mp (inside g (List.mem_filter.mp here).1)).1
      refine ⟨?_, g, (more g).mpr (.inr here), measures⟩
      rw [← measures.2]
      exact UInt32.lt_iff_toNat_lt.mp within

end Circuit

namespace Simulator

/-- **What the simulator makes of a circuit** depends on the amplitudes behind its gates and on the qubits that are
measured. -/
theorem run_congr {c c' : Circuit} (qubits : c'.qubitCount = c.qubitCount)
    (state : c'.finalState.toArray = c.finalState.toArray) (measured : c'.measuredQubits = c.measuredQubits)
    (s : Simulator) : s.run c' = s.run c := by
  obtain ⟨gates, n, steps, name, description⟩ := c
  obtain ⟨gates', n', steps', name', description'⟩ := c'
  cases qubits
  unfold run
  rw [measured, Vector.toArray_inj.mp state]

/-- **What the simulator makes of a circuit depends on its register and its schedule alone.** -/
theorem run_congr_schedule {c c' : Circuit} (schedule : c'.schedule = c.schedule)
    (qubits : c'.qubitCount = c.qubitCount) (s : Simulator) : s.run c' = s.run c := by
  have listed : ∀ g, g ∈ c'.gates ↔ g ∈ c.gates := by
    intro g
    rw [← Circuit.mem_schedule, schedule, Circuit.mem_schedule]
  exact run_congr qubits (Circuit.finalState_congr schedule qubits) (Circuit.measuredQubits_congr qubits listed) s

/-- **The simulator goes on from step to step.** Take any circuit that it accepts.
* As of any number of its first steps, it accepts the circuit too, and answers with the state of the register
  behind the gates.
* One step more applies the gates of that step in list order to the very state before it, and measures the
  qubits of that step's measurements as well.
* A step without gates changes nothing at all of the answer.
* With any other list that has the same gates in the same order at each step, the circuit ends in the same state
  and is given the same answer. -/
theorem simulation_incremental (s : Simulator) (c : Circuit) (accepted : s.check c = .ok ()) :
    (∀ limit, s.evaluate (c.upTo limit) = .ok (s.run (c.upTo limit)) ∧
      (s.run (c.upTo limit)).states = (c.upTo limit).finalState.qubitStates) ∧
    (∀ k < Index.last,
      (c.upTo (k + 1)).finalState =
        (c.gatesAt k).foldl (fun v g => v.apply g.operation) (c.upTo k).finalState ∧
      (∀ q, q ∈ (c.upTo (k + 1)).measuredQubits ↔ q ∈ (c.upTo k).measuredQubits ∨
        ∃ g ∈ c.gatesAt k, g.kind = .measure ∧ g.target.toNat = q) ∧
      (c.gatesAt k = [] → s.evaluate (c.upTo (k + 1)) = s.evaluate (c.upTo k))) ∧
    ∀ gates : List Gate, (∀ k, gates.filter (·.step = k) = c.gatesAt k) →
      ({ c with gates } : Circuit).finalState = c.finalState ∧
      s.evaluate { c with gates } = s.evaluate c := by
  obtain ⟨small, inside⟩ := check_eq_ok_iff.mp accepted
  have answers : ∀ limit, s.evaluate (c.upTo limit) = .ok (s.run (c.upTo limit)) := fun limit =>
    evaluate_of_check (check_eq_ok_iff.mpr ⟨small, fun g hg => inside g (List.mem_filter.mp hg).1⟩)
  refine ⟨fun limit => ⟨answers limit, rfl⟩, fun k room => ⟨c.finalState_upTo_succ room, ?_, ?_⟩, ?_⟩
  · intro q
    exact Circuit.mem_measuredQubits_upTo_succ inside room
  · intro silent
    have same : (c.upTo (k + 1)).schedule = (c.upTo k).schedule := by
      rw [Circuit.schedule_upTo_succ c room, silent, List.append_nil]
    have run : s.run (c.upTo (k + 1)) = s.run (c.upTo k) := run_congr_schedule same rfl s
    rw [answers, answers, run]
  · intro gates same
    have schedule : ({ c with gates } : Circuit).schedule = c.schedule := Circuit.schedule_congr same
    have accepted' : s.check { c with gates } = .ok () :=
      check_eq_ok_iff.mpr ⟨small, fun g hg => inside g ((mem_iff_of_filter same).mp hg)⟩
    constructor
    · rw [Circuit.finalState, schedule]
      rfl
    · rw [evaluate_of_check accepted, evaluate_of_check accepted']
      exact congrArg Except.ok (run_congr_schedule schedule rfl s)

/-- A circuit whose list goes back and forth between steps, with no gate at the second of them. -/
def unsorted : Circuit where
  gates := [.pauliX 0 2, .hadamard 1 0, .measure 0 2, .pauliX 1 0]
  qubitCount := 2
  stepCount := 3
  name := "unsorted"

theorem simulation_incremental_unsorted :
    seeded.check unsorted = .ok () ∧
    (unsorted.upTo 3).finalState =
      [Gate.pauliX 0 2, .measure 0 2].foldl (fun v g => v.apply g.operation) (unsorted.upTo 2).finalState ∧
    0 ∈ (unsorted.upTo 3).measuredQubits ∧
    seeded.evaluate (unsorted.upTo 2) = seeded.evaluate (unsorted.upTo 1) ∧
    seeded.evaluate { unsorted with gates := unsorted.schedule } = seeded.evaluate unsorted := by
  have accepted : seeded.check unsorted = .ok () := rfl
  obtain ⟨-, onward, relisted⟩ := simulation_incremental seeded unsorted accepted
  obtain ⟨state, measured, -⟩ := onward 2 (by decide)
  exact ⟨accepted, state, (measured 0).mpr (.inr ⟨.measure 0 2, .tail _ (.head _), rfl, rfl⟩),
    (onward 1 (by decide)).2.2 rfl, (relisted unsorted.schedule unsorted.filter_schedule).2⟩

end Simulator

end QuantumWorkbench
