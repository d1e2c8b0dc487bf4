import QuantumWorkbench.Proofs.Circuit.Placement
import QuantumWorkbench.Proofs.Simulator.Incremental

/-!
# The order in which gates are listed

Gates of one step are simulated in list order, although nothing of a circuit says that one of them comes first. In
a sound circuit they act on different qubits, so that their order does not show. Two Hadamards at one step are the
exception, since exchanging them may round the amplitudes in another way.

## Contents
- `foldl_eq_of_sorted`: lists that are sorted by a key do the same, if members with one key may change places.
- `Circuit.exchangeable_of_check`: gates of a sound circuit at one step may change places.
- `Circuit.finalState_of_perm`: then the order of the list does not matter to the amplitudes.
- `Simulator.reordering_invisible`: nor to anything that the simulator answers.
-/

namespace QuantumWorkbench

/-! ## Sorted lists -/

/-- **Lists with the same members that are sorted by a key do the same**, if members with one key may change
places. -/
theorem foldl_eq_of_sorted {α β : Type} {key : α → Index} {f : β → α → β} {l m : List α} (perm : l.Perm m)
    (sorted : l.Pairwise fun a b => key a ≤ key b) (sorted' : m.Pairwise fun a b => key a ≤ key b)
    (exchange : ∀ a ∈ l, ∀ b ∈ l, key a = key b → ∀ s, f (f s a) b = f (f s b) a) (s : β) :
    l.foldl f s = m.foldl f s := by
  induction l generalizing m s with
  | nil => rw [← perm.nil_eq]
  | cons a rest ih =>
      obtain ⟨before, after, rfl⟩ := List.append_of_mem (perm.mem_iff.mp List.mem_cons_self)
      obtain ⟨least, behind⟩ := List.pairwise_cons.mp sorted
      have others : rest.Perm (before ++ after) := (perm.trans List.perm_middle).cons_inv
      have sorted'' : (before ++ after).Pairwise fun a b => key a ≤ key b :=
        sorted'.sublist ((List.sublist_cons_self a after).append_left before)
      -- The other list has members before `a` only if their key is that of `a`.
      have moved : ∀ b ∈ before, ∀ s, f (f s a) b = f (f s b) a := by
        intro b hb
        have listed : b ∈ rest := others.mem_iff.mpr (List.mem_append_left after hb)
        have below : key b ≤ key a := (List.pairwise_append.mp sorted').2.2 b hb a List.mem_cons_self
        exact exchange a List.mem_cons_self b (List.mem_cons_of_mem a listed)
          (UInt32.le_antisymm (least b listed) below)
      calc (a :: rest).foldl f s
          = (before ++ after).foldl f (f s a) :=
            ih others behind sorted'' (fun b hb c hc => exchange b (List.mem_cons_of_mem a hb) c
              (List.mem_cons_of_mem a hc)) _
        _ = after.foldl f (f (before.foldl f s) a) := by rw [List.foldl_append, foldl_comm moved]
        _ = (before ++ a :: after).foldl f s := by rw [List.foldl_append, List.foldl_cons]

/-- Of a list that has at most one such member, two such members are the same. -/
theorem eq_of_countP_le_one {α : Type} {p : α → Bool} {l : List α} (few : l.countP p ≤ 1) {a b : α} (ha : a ∈ l)
    (hb : b ∈ l) (pa : p a = true) (pb : p b = true) : a = b := by
  rw [List.countP_eq_length_filter] at few
  have keptA : a ∈ l.filter p := List.mem_filter.mpr ⟨ha, pa⟩
  have keptB : b ∈ l.filter p := List.mem_filter.mpr ⟨hb, pb⟩
  cases kept : l.filter p with
  | nil =>
      rw [kept] at keptA
      cases keptA
  | cons c rest =>
      rw [kept] at few keptA keptB
      have alone : rest = [] := List.length_eq_zero_iff.mp (Nat.le_zero.mp (Nat.le_of_succ_le_succ few))
      subst alone
      rw [List.mem_singleton.mp keptA, List.mem_singleton.mp keptB]

namespace Circuit

variable {c c' : Circuit}

/-! ## Gates of one step -/

/-- **Gates of a sound circuit at one step may change places**, if at most one of them is a Hadamard. -/
theorem exchangeable_of_check (sound : c.check = .ok ())
    (single : ∀ k, (c.gatesAt k).countP (·.kind = .hadamard) ≤ 1) {g h : Gate} (hg : g ∈ c.gates) (hh : h ∈ c.gates)
    (same : g.step = h.step) : g.operation.Exchangeable h.operation := by
  by_cases equal : g = h
  · exact .inl (congrArg Gate.operation equal)
  · obtain ⟨-, placed, -⟩ := check_eq_ok_iff.mp sound
    refine Operation.exchangeable_of_disjoint (Gate.apart_iff.mp (placed.apart_of_mem hg hh equal) same) ?_
    rintro ⟨first, second⟩
    have here : g ∈ c.gatesAt h.step := List.mem_filter.mpr ⟨hg, decide_eq_true same⟩
    have here' : h ∈ c.gatesAt h.step := List.mem_filter.mpr ⟨hh, decide_eq_true rfl⟩
    exact equal (eq_of_countP_le_one (single h.step) here here' (decide_eq_true first) (decide_eq_true second))

/-- **The order of the list does not matter to the amplitudes**, if gates at one step may change places. -/
theorem finalState_of_perm (qubits : c'.qubitCount = c.qubitCount) (perm : c'.gates.Perm c.gates)
    (exchange : ∀ g ∈ c.gates, ∀ h ∈ c.gates, g.step = h.step → g.operation.Exchangeable h.operation) :
    c'.finalState.toArray = c.finalState.toArray := by
  have schedules : c.schedule.Perm c'.schedule :=
    ((List.mergeSort_perm c.gates _).trans perm.symm).trans (List.mergeSort_perm c'.gates _).symm
  have folds : ∀ {n : Nat} (v : Statevector n),
      c.schedule.foldl (fun v g => v.apply g.operation) v = c'.schedule.foldl (fun v g => v.apply g.operation) v := by
    intro n v
    refine foldl_eq_of_sorted schedules (sorted_schedule c) (sorted_schedule c') (fun g hg h hh same v => ?_) v
    exact Statevector.apply_comm (exchange g (mem_schedule.mp hg) h (mem_schedule.mp hh) same) v
  unfold finalState
  rw [folds, qubits]

end Circuit

namespace Simulator

/-- **The order in which gates are listed is invisible.** Take a sound circuit within the limit of the simulator
that has at most one Hadamard at each step, and list its gates in any other order, each at its step. The
simulator accepts both lists, with the very same amplitudes, the same measured qubits and the same answer. -/
theorem reordering_invisible (s : Simulator) (c c' : Circuit) (sound : c.check = .ok ())
    (within : c.qubitCount ≤ s.maxQubits) (single : ∀ k, (c.gatesAt k).countP (·.kind = .hadamard) ≤ 1)
    (qubits : c'.qubitCount = c.qubitCount) (perm : c'.gates.Perm c.gates) :
    ∃ answer, s.evaluate c = .ok answer ∧ s.evaluate c' = .ok answer ∧
      answer.states = c.finalState.qubitStates ∧
      c'.finalState.toArray = c.finalState.toArray ∧ c'.measuredQubits = c.measuredQubits := by
  obtain ⟨-, inside, -⟩ := Circuit.check_eq_ok sound
  have listed : ∀ g, g ∈ c'.gates ↔ g ∈ c.gates := fun g => perm.mem_iff
  have state : c'.finalState.toArray = c.finalState.toArray :=
    Circuit.finalState_of_perm qubits perm fun g hg h hh same => Circuit.exchangeable_of_check sound single hg hh same
  have measured : c'.measuredQubits = c.measuredQubits := Circuit.measuredQubits_congr qubits listed
  have accepted : s.check c = .ok () := check_eq_ok_iff.mpr ⟨within, inside⟩
  have acceptedToo : s.check c' = .ok () := by
    rw [check_eq_ok_iff, qubits]
    exact ⟨within, fun g hg => inside g ((listed g).mp hg)⟩
  refine ⟨s.run c, evaluate_of_check accepted, ?_, rfl, state, measured⟩
  rw [evaluate_of_check acceptedToo, run_congr qubits state measured]

/-- Three qubits with gates of all kinds side by side. -/
def woven : Circuit where
  gates := [.hadamard 0 0, .pauliX 2 0, ⟨.controlledNot 1 0 (by decide), 1⟩, .measure 2 1, .hadamard 1 2,
    ⟨.controlledNot 2 0 (by decide), 2⟩]
  qubitCount := 3
  stepCount := 3
  name := "woven"

theorem reordering_invisible_woven :
    let c' : Circuit := { woven with gates := woven.gates.reverse, stepCount := 0 }
    woven.check = .ok () ∧ woven.qubitCount ≤ seeded.maxQubits ∧
    (∀ k, (woven.gatesAt k).countP (·.kind = .hadamard) ≤ 1) ∧ c'.gates.Perm woven.gates ∧
    ∃ answer, seeded.evaluate woven = .ok answer ∧ seeded.evaluate c' = .ok answer ∧
      answer.states = woven.finalState.qubitStates ∧
      c'.finalState.toArray = woven.finalState.toArray ∧ c'.measuredQubits = woven.measuredQubits := by
  intro c'
  have single : ∀ k, (woven.gatesAt k).countP (·.kind = .hadamard) ≤ 1 := by
    intro k
    rw [Circuit.gatesAt, List.countP_filter]
    by_cases first : (0 : Index) = k
    · subst first
      decide
    · by_cases third : (2 : Index) = k
      · subst third
        decide
      · simp [woven, Gate.hadamard, Gate.pauliX, Gate.measure, Gate.kind, Operation.kind, first, third]
  have perm : c'.gates.Perm woven.gates := List.reverse_perm woven.gates
  exact ⟨rfl, by decide, single, perm,
    reordering_invisible seeded woven c' rfl (by decide) single rfl perm⟩

end Simulator

end QuantumWorkbench
