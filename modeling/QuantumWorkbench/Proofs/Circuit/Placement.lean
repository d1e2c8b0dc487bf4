import QuantumWorkbench.Proofs.Circuit.Inside

/-!
# Gates on the grid

The check of the model goes through the gates in list order and keeps a list of the places that are taken. What
it accepts and what it reports is said here without that list: all gates lie inside the register and no two of
them share a place, or the first gate for which this fails is named.

## Contents
- `Gate.Apart`, `Circuit.Placed`: gates without a common place, and lists of gates that a register holds.
- `Gate.Misplaced`: what is wrong with the place of a gate, by the error that reports it.
- `Circuit.checkGates_cons`: the check of one gate. From it, `Circuit.checkGates_eq_ok_iff` and
  `Circuit.exists_of_checkGates`: the check of all.
- `Circuit.check_eq_ok_iff`, `Circuit.check_eq_error`: what the model accepts, and what it reports.
  `Circuit.ofGates_eq_ok_iff`: what is built.
-/

namespace QuantumWorkbench

/-! ## Places -/

theorem Gate.mem_slots {g : Gate} {p : Position} : p ∈ g.slots ↔ p.qubit ∈ g.qubits ∧ p.step = g.step := by
  rw [Gate.slots, List.mem_map]
  constructor
  · rintro ⟨q, hq, rfl⟩
    exact ⟨hq, rfl⟩
  · rintro ⟨hq, step⟩
    exact ⟨p.qubit, hq, by rw [← step]⟩

/-- A gate takes each of its places once, as no qubit controls itself. -/
theorem Gate.nodup_slots (g : Gate) : g.slots.Nodup := by
  obtain ⟨op, step⟩ := g
  cases op with
  | hadamard | pauliX | measure => exact List.pairwise_singleton _ _
  | controlledNot c t ne =>
      show [Position.mk c step, Position.mk t step].Nodup
      simpa using ne

/-- The gates have no place in common. -/
def Gate.Apart (g h : Gate) : Prop := ∀ p ∈ g.slots, p ∉ h.slots

theorem Gate.Apart.symm {g h : Gate} (apart : g.Apart h) : h.Apart g :=
  fun p hp hg => apart p hg hp

/-- Gates at one step are apart if they have no qubit in common, and gates at different steps always are. -/
theorem Gate.apart_iff {g h : Gate} : g.Apart h ↔ g.step = h.step → ∀ q ∈ g.qubits, q ∉ h.qubits := by
  constructor
  · intro apart same q hg hh
    exact apart ⟨q, g.step⟩ (mem_slots.mpr ⟨hg, rfl⟩) (mem_slots.mpr ⟨hh, same⟩)
  · intro separate p hg hh
    obtain ⟨own, step⟩ := mem_slots.mp hg
    obtain ⟨other, step'⟩ := mem_slots.mp hh
    exact separate (step.symm.trans step') p.qubit own other

namespace Circuit

/-- The gates lie inside a register of `n` qubits, and no two of them have a place in common. -/
structure Placed (n : Index) (gates : List Gate) : Prop where
  inside : ∀ g ∈ gates, g.Inside n
  apart : gates.Pairwise Gate.Apart

/-- Fewer gates need no more room. -/
theorem Placed.sublist {n : Index} {gates fewer : List Gate} (h : Placed n gates)
    (sub : fewer.Sublist gates) : Placed n fewer :=
  ⟨fun g hg => h.inside g (sub.subset hg), h.apart.sublist sub⟩

/-- Different gates of a list that is placed are apart, in whatever order they are listed. -/
theorem Placed.apart_of_mem {n : Index} {gates : List Gate} (h : Placed n gates) {g g' : Gate} (hg : g ∈ gates)
    (hg' : g' ∈ gates) (ne : g ≠ g') : g.Apart g' := by
  have apart := List.pairwise_iff_getElem.mp h.apart
  obtain ⟨i, hi, rfl⟩ := List.getElem_of_mem hg
  obtain ⟨j, hj, rfl⟩ := List.getElem_of_mem hg'
  rcases Nat.lt_trichotomy i j with before | rfl | behind
  · exact apart i j hi hj before
  · exact absurd rfl ne
  · exact (apart j i hj hi behind).symm

/-- The places that gates take. -/
def places (gates : List Gate) : List Position := gates.flatMap Gate.slots

theorem mem_places {gates : List Gate} {p : Position} : p ∈ places gates ↔ ∃ g ∈ gates, p ∈ g.slots :=
  List.mem_flatMap

end Circuit

/-! ## Faults -/

/-- The number of the gate that does not lie in the register or not on a free place. -/
def CircuitError.misplaced? : CircuitError → Option Nat
  | qubitOutOfRange _ gate _ | controlOutOfRange _ gate _ | slotOccupied _ gate => some gate
  | stepCountMismatch .. | emptyRegister | indexOverflow .. => none

/-- What is wrong with the place of gate number `i` in a register of `n` qubits with some places taken, by the
error that reports it. -/
inductive Gate.Misplaced (n : Index) (taken : List Position) (i : Nat) (g : Gate) : CircuitError → Prop where
  | target (outside : n ≤ g.target) : Misplaced n taken i g (.qubitOutOfRange g.target i n)
  | control {q : Index} (controlled : g.control? = some q) (outside : n ≤ q) :
      Misplaced n taken i g (.controlOutOfRange q i n)
  | slot {p : Position} (own : p ∈ g.slots) (occupied : p ∈ taken) : Misplaced n taken i g (.slotOccupied p i)

namespace Gate.Misplaced

variable {n : Index} {taken : List Position} {i : Nat} {g : Gate} {e : CircuitError}

theorem misplaced? (h : g.Misplaced n taken i e) : e.misplaced? = some i := by
  cases h <;> rfl

/-- Only the places that are taken matter, not how they are listed. -/
theorem of_subset {taken' : List Position} (h : g.Misplaced n taken i e) (sub : taken ⊆ taken') :
    g.Misplaced n taken' i e := by
  cases h with
  | target outside => exact .target outside
  | control controlled outside => exact .control controlled outside
  | slot own occupied => exact .slot own (sub occupied)

/-- A gate that lies inside the register on free places is not misplaced. -/
theorem not_free (h : g.Misplaced n taken i e) : ¬ (g.Inside n ∧ ∀ p ∈ g.slots, p ∉ taken) := by
  rintro ⟨inside, free⟩
  obtain ⟨target, controls⟩ := Gate.inside_iff.mp inside
  cases h with
  | target outside => exact UInt32.not_le.mpr target outside
  | control controlled outside => exact UInt32.not_le.mpr (controls _ controlled) outside
  | slot own occupied => exact free _ own occupied

end Gate.Misplaced

namespace Circuit

/-! ## The check, gate by gate -/

/-- Places are taken all together, or one of them is taken already. -/
theorem occupy_cases (i : Nat) (taken : List Position) {slots : List Position} (once : slots.Nodup) :
    ((∀ p ∈ slots, p ∉ taken) ∧ occupy i taken slots = .ok (slots.reverse ++ taken)) ∨
      ∃ p ∈ slots, p ∈ taken ∧ occupy i taken slots = .error (.slotOccupied p i) := by
  induction slots generalizing taken with
  | nil => exact .inl ⟨List.forall_mem_nil _, rfl⟩
  | cons p rest ih =>
      obtain ⟨other, once⟩ := List.nodup_cons.mp once
      by_cases here : p ∈ taken
      · exact .inr ⟨p, List.mem_cons_self, here, if_pos here⟩
      · have onward : occupy i taken (p :: rest) = occupy i (p :: taken) rest := if_neg here
        rw [onward]
        rcases ih (p :: taken) once with ⟨free, taken'⟩ | ⟨p', hp, occupied, refused⟩
        · refine .inl ⟨List.forall_mem_cons.mpr ⟨here, fun q hq member => ?_⟩, ?_⟩
          · exact free q hq (List.mem_cons_of_mem p member)
          · rw [taken', List.reverse_cons, List.append_assoc, List.singleton_append]
        · rcases List.mem_cons.mp occupied with rfl | before
          · exact absurd hp other
          · exact .inr ⟨p', List.mem_cons_of_mem p hp, before, refused⟩

variable {n : Index} {i : Nat} {taken : List Position} {gates : List Gate} {e : CircuitError}

/-- **The check of one gate**: it lies inside the register on free places, which are taken for the gates behind
it, or it is reported. -/
theorem checkGates_cons (n : Index) (i : Nat) (taken : List Position) (g : Gate) :
    ((g.Inside n ∧ ∀ p ∈ g.slots, p ∉ taken) ∧
      ∀ rest, checkGates n i taken (g :: rest) = checkGates n (i + 1) (g.slots.reverse ++ taken) rest) ∨
    ∃ e, g.Misplaced n taken i e ∧ ∀ rest, checkGates n i taken (g :: rest) = .error e := by
  by_cases outside : n ≤ g.target
  · exact .inr ⟨_, .target outside, fun rest => if_pos outside⟩
  · cases controls : g.control?.filter (n ≤ ·) with
    | some q =>
        obtain ⟨controlled, large⟩ := Option.filter_eq_some_iff.mp controls
        refine .inr ⟨_, .control controlled (of_decide_eq_true large), fun rest => ?_⟩
        rw [checkGates, if_neg outside, controls]
    | none =>
        have inside : g.Inside n := by
          refine Gate.inside_iff.mpr ⟨UInt32.not_le.mp outside, fun q controlled => ?_⟩
          have small := Option.filter_eq_none_iff.mp controls q controlled
          exact UInt32.not_le.mp fun large => small (decide_eq_true large)
        have onward : ∀ rest, checkGates n i taken (g :: rest) =
            occupy i taken g.slots >>= fun taken' => checkGates n (i + 1) taken' rest := by
          intro rest
          rw [checkGates, if_neg outside, controls]
        rcases occupy_cases i taken g.nodup_slots with ⟨free, occupied⟩ | ⟨p, own, occupied, refused⟩
        · refine .inl ⟨⟨inside, free⟩, fun rest => ?_⟩
          rw [onward, occupied]
          rfl
        · refine .inr ⟨_, .slot own occupied, fun rest => ?_⟩
          rw [onward, refused]
          rfl

/-- **The check lets pass** gates inside the register that are apart from each other and lie on free places. -/
theorem checkGates_eq_ok_iff :
    checkGates n i taken gates = .ok () ↔ Placed n gates ∧ ∀ p ∈ places gates, p ∉ taken := by
  induction gates generalizing i taken with
  | nil =>
      have nowhere : ∀ p ∈ places [], p ∉ taken := fun p hp => absurd hp List.not_mem_nil
      exact iff_of_true rfl ⟨⟨List.forall_mem_nil _, .nil⟩, nowhere⟩
  | cons g rest ih =>
      rcases checkGates_cons n i taken g with ⟨⟨inside, free⟩, onward⟩ | ⟨e, misplaced, refused⟩
      · rw [onward, ih]
        constructor
        · rintro ⟨placed, behind⟩
          refine ⟨⟨List.forall_mem_cons.mpr ⟨inside, placed.inside⟩, placed.apart.cons ?_⟩, ?_⟩
          · intro h hh p own other
            exact behind p (mem_places.mpr ⟨h, hh, other⟩) (by simp [own])
          · intro p hp
            rcases List.mem_append.mp hp with here | later
            · exact free p here
            · exact fun member => behind p later (List.mem_append_right _ member)
        · rintro ⟨placed, free⟩
          obtain ⟨first, apart⟩ := List.pairwise_cons.mp placed.apart
          refine ⟨⟨(List.forall_mem_cons.mp placed.inside).2, apart⟩, fun p hp member => ?_⟩
          obtain ⟨h, hh, other⟩ := mem_places.mp hp
          rcases List.mem_append.mp member with own | before
          · exact first h hh p (List.mem_reverse.mp own) other
          · exact free p (List.mem_append_right _ hp) before
      · rw [refused]
        refine iff_of_false nofun ?_
        rintro ⟨placed, free⟩
        exact misplaced.not_free ⟨placed.inside g List.mem_cons_self, fun p hp =>
          free p (List.mem_append_left _ hp)⟩

/-- **The check reports the first gate that is misplaced**: those before it pass. -/
theorem exists_of_checkGates (h : checkGates n i taken gates = .error e) :
    ∃ k g, gates[k]? = some g ∧ checkGates n i taken (gates.take k) = .ok () ∧
      g.Misplaced n (places (gates.take k) ++ taken) (i + k) e := by
  induction gates generalizing i taken with
  | nil => cases h
  | cons g rest ih =>
      rcases checkGates_cons n i taken g with ⟨-, onward⟩ | ⟨e', misplaced, refused⟩
      · obtain ⟨k, g', found, passed, misplaced⟩ := ih (onward rest ▸ h)
        refine ⟨k + 1, g', found, (onward (rest.take k)).trans passed, ?_⟩
        have number : i + 1 + k = i + (k + 1) := by omega
        rw [← number]
        refine misplaced.of_subset fun p hp => ?_
        simp only [places, List.take_succ_cons, List.flatMap_cons, List.mem_append, List.mem_reverse] at hp ⊢
        rcases hp with behind | own | before
        · exact .inl (.inr behind)
        · exact .inl (.inl own)
        · exact .inr before
      · cases (refused rest).symm.trans h
        exact ⟨0, g, rfl, rfl, misplaced⟩

/-! ## Sound circuits -/

theorem checkedSpan_eq_ok_iff {steps : Index} :
    checkedSpan gates = .ok steps ↔ span gates = .ok steps :=
  mapError_eq_ok_iff

/-- **A circuit is sound** if it has a qubit, its gates are placed in the register, and it declares the steps that
they span. -/
theorem check_eq_ok_iff {c : Circuit} :
    c.check = .ok () ↔ c.qubitCount ≠ 0 ∧ Placed c.qubitCount c.gates ∧ span c.gates = .ok c.stepCount := by
  by_cases empty : c.qubitCount = 0
  · rw [check, if_pos empty]
    exact iff_of_false nofun fun sound => sound.1 empty
  · have free : ∀ p ∈ places c.gates, p ∉ ([] : List Position) := fun p _ => List.not_mem_nil
    rw [check, if_neg empty, and_iff_right empty, ← checkedSpan_eq_ok_iff]
    constructor
    · intro h
      obtain ⟨_, passed, h⟩ := bind_eq_ok_iff.mp h
      obtain ⟨derived, counted, h⟩ := bind_eq_ok_iff.mp h
      by_cases declared : derived = c.stepCount
      · exact ⟨(checkGates_eq_ok_iff.mp passed).1, declared ▸ counted⟩
      · rw [if_pos declared] at h
        cases h
    · rintro ⟨placed, counted⟩
      refine bind_eq_ok_iff.mpr ⟨(), checkGates_eq_ok_iff.mpr ⟨placed, free⟩, ?_⟩
      refine bind_eq_ok_iff.mpr ⟨c.stepCount, counted, ?_⟩
      rw [if_neg fun ne => ne rfl]
      rfl

/-- A sound circuit has a qubit, all its gates are inside, and it declares the steps they span. -/
theorem check_eq_ok {c : Circuit} (h : c.check = .ok ()) :
    c.qubitCount ≠ 0 ∧ (∀ g ∈ c.gates, g.Inside c.qubitCount) ∧ span c.gates = .ok c.stepCount := by
  obtain ⟨register, placed, counted⟩ := check_eq_ok_iff.mp h
  exact ⟨register, placed.inside, counted⟩

/-- What the check reports: no qubit, the first gate that is misplaced, or the number of steps. -/
theorem check_eq_error {c : Circuit} (h : c.check = .error e) :
    e = .emptyRegister ∨
    (∃ i g, c.gates[i]? = some g ∧ Placed c.qubitCount (c.gates.take i) ∧
      g.Misplaced c.qubitCount (places (c.gates.take i)) i e) ∨
    checkedSpan c.gates = .error e ∨
    ∃ derived, checkedSpan c.gates = .ok derived ∧ derived ≠ c.stepCount ∧
      e = .stepCountMismatch c.stepCount derived := by
  by_cases empty : c.qubitCount = 0
  · rw [check, if_pos empty] at h
    cases h
    exact .inl rfl
  · rw [check, if_neg empty] at h
    refine .inr ?_
    rcases bind_eq_error_iff.mp h with refused | ⟨_, -, h⟩
    · obtain ⟨i, g, found, before, misplaced⟩ := exists_of_checkGates refused
      rw [List.append_nil, Nat.zero_add] at misplaced
      exact .inl ⟨i, g, found, (checkGates_eq_ok_iff.mp before).1, misplaced⟩
    · rcases bind_eq_error_iff.mp h with uncounted | ⟨derived, counted, h⟩
      · exact .inr (.inl uncounted)
      · by_cases declared : derived = c.stepCount
        · rw [if_neg fun ne => ne declared] at h
          cases h
        · rw [if_pos declared] at h
          cases h
          exact .inr (.inr ⟨derived, counted, declared, rfl⟩)

/-- **What is built over a register** is the sound circuit with the gates, if there is one. -/
theorem ofGates_eq_ok_iff {name : String} {c : Circuit} :
    ofGates name n gates = .ok c ↔
      (c.gates = gates ∧ c.qubitCount = n ∧ c.name = name ∧ c.description = none) ∧ c.check = .ok () := by
  constructor
  · intro h
    obtain ⟨steps, -, h⟩ := bind_eq_ok_iff.mp h
    obtain ⟨_, sound, h⟩ := bind_eq_ok_iff.mp h
    cases h
    exact ⟨⟨rfl, rfl, rfl, rfl⟩, sound⟩
  · obtain ⟨listed, register, steps, text, description⟩ := c
    rintro ⟨⟨rfl, rfl, rfl, rfl⟩, sound⟩
    obtain ⟨-, -, counted⟩ := check_eq_ok_iff.mp sound
    refine bind_eq_ok_iff.mpr ⟨steps, checkedSpan_eq_ok_iff.mpr counted, ?_⟩
    exact bind_eq_ok_iff.mpr ⟨(), sound, rfl⟩

/-- What was built is sound, and is what was asked for. -/
theorem ofGates_eq_ok {name : String} {c : Circuit} (h : ofGates name n gates = .ok c) :
    c.check = .ok () ∧ c.gates = gates ∧ c.qubitCount = n := by
  obtain ⟨⟨listed, register, -, -⟩, sound⟩ := ofGates_eq_ok_iff.mp h
  exact ⟨sound, listed, register⟩

end Circuit

end QuantumWorkbench
