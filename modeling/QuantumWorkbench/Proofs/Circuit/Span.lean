import QuantumWorkbench.Circuit.Wire
import QuantumWorkbench.Proofs.Circuit.Index
import QuantumWorkbench.Proofs.Circuit.Placement
import QuantumWorkbench.Proofs.Script.RoundTrip

/-!
# The steps that gates span

Every way in which circuits come about keeps the step count in line with the gates: the builders and the
loader derive it, and the reader of scripts counts along.

## Contents
- `extent_eq_ok_iff`: one past the largest of some indices is their least strict bound. `toNat_of_extent` says
  which number it is.
- `Circuit.Spanned`: a circuit declares the steps that its gates span.
- `Circuit.Made`: the ways in which circuits come about, and `Circuit.spanned_of_made`.
- `Circuit.check_error_of_serial`: what can be wrong with a circuit that has one gate a step.
-/

namespace QuantumWorkbench

/-! ## The extent of indices -/

theorem lastIdxOf?_eq_none_iff {x : Index} {values : List Index} :
    lastIdxOf? x values = none ↔ x ∉ values := by
  rw [lastIdxOf?, Option.map_eq_none_iff, List.getLast?_eq_none_iff, List.filter_eq_nil_iff]
  constructor
  · intro none_is occurs
    obtain ⟨i, inside, rfl⟩ := List.getElem_of_mem occurs
    exact none_is _ (List.mk_mem_zipIdx_iff_getElem?.mpr (List.getElem?_eq_getElem inside))
      (decide_eq_true rfl)
  · rintro misses ⟨v, i⟩ member same
    exact misses (of_decide_eq_true same ▸ List.fst_mem_of_mem_zipIdx member)

theorem foldl_bound_le_iff {values : List Index} (room : Index.last ∉ values) (acc n : Index) :
    values.foldl (fun bound v => max bound (v + 1)) acc ≤ n ↔ acc ≤ n ∧ ∀ v ∈ values, v < n := by
  induction values generalizing acc with
  | nil => simp
  | cons v rest ih =>
      have first : v ≠ Index.last := fun same => room (same ▸ List.mem_cons_self)
      have others : Index.last ∉ rest := fun member => room (List.mem_cons_of_mem v member)
      rw [List.foldl_cons, ih others, Index.max_le_iff, Index.add_one_le_iff first, List.forall_mem_cons,
        and_assoc]

/-- Indices have an extent unless the largest index is among them. -/
theorem exists_extent_iff {values : List Index} : (∃ n, extent values = .ok n) ↔ Index.last ∉ values := by
  rw [← lastIdxOf?_eq_none_iff, extent]
  cases lastIdxOf? Index.last values with
  | none => exact iff_of_true ⟨_, rfl⟩ rfl
  | some i => exact iff_of_false nofun nofun

/-- Indices with a bound have an extent, as nothing bounds the largest index. -/
theorem exists_extent_of_lt {values : List Index} {n : Index} (bound : ∀ v ∈ values, v < n) :
    ∃ k, extent values = .ok k :=
  exists_extent_iff.mpr fun occurs => UInt32.not_le.mpr (bound _ occurs) n.le_last

theorem extent_le_iff {values : List Index} {n : Index} (found : extent values = .ok n) (m : Index) :
    n ≤ m ↔ ∀ v ∈ values, v < m := by
  have room : Index.last ∉ values := exists_extent_iff.mp ⟨n, found⟩
  rw [extent, lastIdxOf?_eq_none_iff.mpr room] at found
  cases found
  rw [foldl_bound_le_iff room]
  exact and_iff_right UInt32.zero_le

/-- **The extent of some indices is their least strict bound**, if they have one. -/
theorem extent_eq_ok_iff {values : List Index} {n : Index} :
    extent values = .ok n ↔ ∀ m, n ≤ m ↔ ∀ v ∈ values, v < m := by
  constructor
  · exact extent_le_iff
  · intro least
    obtain ⟨k, found⟩ := exists_extent_of_lt ((least n).mp UInt32.le_rfl)
    -- Two least bounds are equal.
    have same : k = n := UInt32.le_antisymm
      ((extent_le_iff found n).mpr ((least n).mp UInt32.le_rfl))
      ((least k).mpr ((extent_le_iff found k).mp UInt32.le_rfl))
    rw [found, same]

/-- **The extent as a number**: one past the largest of the indices, and `0` for none. -/
theorem toNat_of_extent {values : List Index} {n : Index} (found : extent values = .ok n) :
    n.toNat = (values.map (·.toNat)).max?.elim 0 (· + 1) := by
  cases top : (values.map (·.toNat)).max? with
  | none =>
      have nothing : values = [] := List.map_eq_nil_iff.mp (List.max?_eq_none_iff.mp top)
      subst nothing
      cases found
      rfl
  | some largest =>
      obtain ⟨member, bound⟩ := List.max?_eq_some_iff.mp top
      obtain ⟨v, hv, rfl⟩ := List.mem_map.mp member
      have below : v < n := (extent_le_iff found n).mp UInt32.le_rfl v hv
      have least : n ≤ v + 1 := by
        refine (extent_le_iff found _).mpr fun w hw => ?_
        rw [UInt32.lt_iff_toNat_lt, Index.toNat_succ below]
        exact Nat.lt_succ_of_le (bound _ (List.mem_map_of_mem hw))
      have next : n = v + 1 := UInt32.le_antisymm least (Index.succ_le below)
      rw [next, Index.toNat_succ below]
      rfl

namespace Circuit

/-! ## Spanned circuits -/

/-- The circuit declares the steps that its gates span. -/
def Spanned (c : Circuit) : Prop := span c.gates = .ok c.stepCount

theorem span_eq_ok_iff {gates : List Gate} {n : Index} :
    span gates = .ok n ↔ ∀ m, n ≤ m ↔ ∀ g ∈ gates, g.step < m := by
  rw [span, extent_eq_ok_iff]
  simp only [List.forall_mem_map]

theorem spanned_of_check {c : Circuit} (h : c.check = .ok ()) : c.Spanned := (check_eq_ok h).2.2

/-- What a circuit that was loaded is made of. -/
theorem ofJson_eq_ok {v : Json} {c : Circuit} (h : ofJson v = .ok c) :
    validateJson v = .ok () ∧ ∃ declared, Declaration.ofJson v = .ok declared ∧
      readGates 0 declared.gates = .ok c.gates ∧ c.qubitCount = declared.qubits ∧ c.Spanned ∧
      ∀ n, declared.steps = some n → n = c.stepCount := by
  obtain ⟨_, looked, h⟩ := bind_eq_ok_iff.mp h
  obtain ⟨declared, declares, h⟩ := bind_eq_ok_iff.mp h
  obtain ⟨gates, read, h⟩ := bind_eq_ok_iff.mp h
  obtain ⟨stepCount, counted, h⟩ := bind_eq_ok_iff.mp h
  have derived : span gates = .ok stepCount := checkedSpan_eq_ok_iff.mp (mapError_eq_ok_iff.mp counted)
  by_cases other : declared.steps.any (· ≠ stepCount) = true
  · rw [if_pos other] at h
    cases h
  · rw [if_neg other] at h
    cases h
    refine ⟨looked, declared, mapError_eq_ok_iff.mp declares, read, rfl, derived, fun n stated => ?_⟩
    rw [stated, Option.any_some, decide_eq_true_eq, Classical.not_not] at other
    exact other

theorem spanned_of_ofJson {v : Json} {c : Circuit} (h : ofJson v = .ok c) : c.Spanned := by
  obtain ⟨-, -, -, -, -, spanned, -⟩ := ofJson_eq_ok h
  exact spanned

theorem length_serial (c : Circuit) : c.serial.gates.length = c.gates.length := by
  simp [serial]

/-- The gates of a serial circuit stand one a step, unless their numbers wrap around. -/
theorem toNat_step_serial {c : Circuit} (few : c.gates.length < UInt32.size) {i : Nat}
    (inside : i < c.serial.gates.length) : c.serial.gates[i].step.toNat = i := by
  rw [length_serial] at inside
  simp only [serial, List.getElem_mapIdx]
  exact UInt32.toNat_ofNat_of_lt' (Nat.lt_trans inside few)

/-- A serial circuit spans as many steps as it has gates. -/
theorem spanned_serial {c : Circuit} (few : c.gates.length < UInt32.size) : c.serial.Spanned := by
  apply span_eq_ok_iff.mpr
  intro m
  show UInt32.ofNat c.gates.length ≤ m ↔ _
  rw [UInt32.le_iff_toNat_le, UInt32.toNat_ofNat_of_lt' few]
  constructor
  · intro le g hg
    obtain ⟨i, inside, rfl⟩ := List.getElem_of_mem hg
    rw [UInt32.lt_iff_toNat_lt, toNat_step_serial few inside]
    rw [length_serial] at inside
    exact Nat.lt_of_lt_of_le inside le
  · intro below
    cases count : c.gates.length with
    | zero => exact Nat.zero_le _
    | succ last =>
        have inside : last < c.serial.gates.length := by
          rw [length_serial, count]
          exact Nat.lt_succ_self last
        -- The last gate alone shows that no smaller bound would do.
        have top := below _ (List.getElem_mem inside)
        rw [UInt32.lt_iff_toNat_lt, toNat_step_serial few inside] at top
        exact top

/-- **The ways in which circuits come about**: they are built over a given register or over the smallest
one that holds the gates, loaded from JSON, or read from a script. The reader of scripts counts steps in
32 bits, so that it has no number for a gate behind `2 ^ 32` others. -/
inductive Made : Circuit → Prop where
  | built {name : String} {n : Index} {gates : List Gate} {c : Circuit}
      (h : ofGates name n gates = .ok c) : Made c
  | fitted {name : String} {gates : List Gate} {c : Circuit} (h : fitting name gates = .ok c) : Made c
  | loaded {v : Json} {c : Circuit} (h : ofJson v = .ok c) : Made c
  | read (text : String) (d : Dialect) (few : (ofScript text d).gates.length < UInt32.size) :
      Made (ofScript text d)

theorem spanned_of_made {c : Circuit} (h : Made c) : c.Spanned := by
  cases h with
  | built h => exact spanned_of_check (ofGates_eq_ok h).1
  | fitted h =>
      obtain ⟨widest, -, h⟩ := bind_eq_ok_iff.mp h
      exact spanned_of_check (ofGates_eq_ok h).1
  | loaded h => exact spanned_of_ofJson h
  | read text d few =>
      rw [← serial_ofScript]
      exact spanned_serial few

/-! ## One gate a step -/

/-- **Only the register and the qubits can be wrong with a serial circuit.** -/
theorem check_error_of_serial {c : Circuit} {e : CircuitError} (few : c.gates.length < UInt32.size)
    (h : c.serial.check = .error e) :
    e = .emptyRegister ∨ (∃ q k, e = .qubitOutOfRange q k c.qubitCount) ∨
      ∃ q k, e = .controlOutOfRange q k c.qubitCount := by
  have counted : checkedSpan c.serial.gates = .ok c.serial.stepCount :=
    checkedSpan_eq_ok_iff.mpr (spanned_serial few)
  rcases check_eq_error h with empty | ⟨i, g, found, -, misplaced⟩ | uncounted | ⟨derived, derives, other, -⟩
  · exact .inl empty
  · cases misplaced with
    | target outside => exact .inr (.inl ⟨_, _, rfl⟩)
    | control controlled outside => exact .inr (.inr ⟨_, _, rfl⟩)
    | slot own occupied =>
        -- The gates stand one a step, so that no other has a place in common with this one.
        obtain ⟨before, listed, taken⟩ := mem_places.mp occupied
        obtain ⟨j, inside, rfl⟩ := List.getElem_of_mem listed
        obtain ⟨within, rfl⟩ := List.getElem?_eq_some_iff.mp found
        rw [List.length_take] at inside
        rw [List.getElem_take] at taken
        have same := (Gate.mem_slots.mp own).2.symm.trans (Gate.mem_slots.mp taken).2
        have numbers := congrArg UInt32.toNat same
        rw [toNat_step_serial few within, toNat_step_serial few (by omega)] at numbers
        omega
  · cases uncounted.symm.trans counted
  · cases derives.symm.trans counted
    exact absurd rfl other

end Circuit

end QuantumWorkbench
