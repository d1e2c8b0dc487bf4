import QuantumWorkbench.Circuit.Wire
import QuantumWorkbench.Proofs.Circuit.Span
import QuantumWorkbench.Proofs.Json.Record

/-!
# Circuits that were loaded

The loader looks at a value twice: first as untrusted, with its own idea of a register and of targets,
then field by field. This module shows that both looks see the same register and the same targets.

## Contents
- `Gate.target_of_ofJson`: the target that the first look found is the target of the gate.
- `Circuit.exists_items_of_ofJson`: both looks go over the same gates and the same register.
- `Circuit.validate_of_ofJson`: a circuit that was loaded is valid.
-/

namespace QuantumWorkbench

namespace Json

theorem exists_obj_of_field? {key : String} {v w : Json} (found : v.field? key = some w) :
    ∃ fields, v = .obj fields := by
  cases v with
  | obj fields => exact ⟨fields, rfl⟩
  | _ => cases found

/-- Only the numeral of an index is read as the index. -/
theorem eq_int_of_readIndex {v : Json} {i : UInt32} (read : readIndex v = .ok i) : v = .int i.toNat := by
  cases v with
  | int n =>
      by_cases small : 0 ≤ n ∧ n < Nat.pow 2 32
      · rw [readIndex, readWord, if_pos small] at read
        cases read
        have bound : n.toNat < UInt32.size := by
          have size : UInt32.size = Nat.pow 2 32 := rfl
          omega
        show int n = int (UInt32.ofNat n.toNat).toNat
        rw [UInt32.toNat_ofNat_of_lt' bound, Int.toNat_of_nonneg small.1]
      · rw [readIndex, readWord, if_neg small] at read
        cases read
  | _ => cases read

theorem integer?_of_readIndex {v : Json} {i : UInt32} (read : readIndex v = .ok i) :
    v.integer? = some (i.toNat : Int) := by
  rw [eq_int_of_readIndex read]
  exact integer?_int i

end Json

/-- The value of the field is what the position is read from. -/
theorem Position.qubit_of_ofJson {fields : List (String × Json)} {p : Position} {w : Json}
    (read : ofJson (.obj fields) = .ok p) (qubit : (Json.obj fields).field? "qubit" = some w) :
    Json.readIndex w = .ok p.qubit := by
  obtain ⟨_, -, read⟩ := bind_eq_ok_iff.mp read
  obtain ⟨target, gotQubit, read⟩ := bind_eq_ok_iff.mp read
  obtain ⟨step, -, read⟩ := bind_eq_ok_iff.mp read
  cases read
  exact (Json.get_of_lookup (f := qubitField) qubit).symm.trans gotQubit

namespace Gate

/-- A gate is read field by field. -/
theorem get_of_ofJson {fields : List (String × Json)} {g : Gate} (read : ofJson (.obj fields) = .ok g) :
    kindField.get fields = .ok g.kind ∧ positionField.get fields = .ok g.position ∧
      controlField.get fields = .ok g.control? := by
  obtain ⟨_, -, read⟩ := bind_eq_ok_iff.mp read
  obtain ⟨kind, gotKind, read⟩ := bind_eq_ok_iff.mp read
  obtain ⟨place, gotPosition, read⟩ := bind_eq_ok_iff.mp read
  obtain ⟨control, gotControl, read⟩ := bind_eq_ok_iff.mp read
  obtain ⟨rfl, rfl, rfl⟩ := parts_of_ofParts (mapError_eq_ok_iff.mp read)
  exact ⟨gotKind, gotPosition, gotControl⟩

/-- The value of the field is what the place of the gate is read from. -/
theorem position_of_ofJson {fields : List (String × Json)} {g : Gate} {p : Json}
    (read : ofJson (.obj fields) = .ok g) (position : (Json.obj fields).field? "position" = some p) :
    Position.ofJson p = .ok g.position := by
  obtain ⟨-, gotPosition, -⟩ := get_of_ofJson read
  exact (Json.get_of_lookup (f := positionField) position).symm.trans gotPosition

/-- **Both looks at a gate see one target.** -/
theorem target_of_ofJson {v : Json} {g : Gate} {q : Int} (read : ofJson v = .ok g)
    (looked : Circuit.targetOfJson? v = some q) : (g.target.toNat : Int) = q := by
  obtain ⟨p, position, behind⟩ := Option.bind_eq_some_iff.mp looked
  -- What the guard asks for is known from the look-up behind it.
  obtain ⟨_, -, behind⟩ := Option.bind_eq_some_iff.mp behind
  obtain ⟨w, qubit, number⟩ := Option.bind_eq_some_iff.mp behind
  obtain ⟨fields, rfl⟩ := Json.exists_obj_of_field? position
  obtain ⟨inner, rfl⟩ := Json.exists_obj_of_field? qubit
  have readQubit : Json.readIndex w = .ok g.target :=
    Position.qubit_of_ofJson (position_of_ofJson read position) qubit
  exact Option.some.inj ((Json.integer?_of_readIndex readQubit).symm.trans number)

end Gate

namespace Circuit

/-- Gates that pass both looks lie in the register. -/
theorem inside_of_readGates {items : List Json} {n : Index} {i j : Nat} {gates : List Gate}
    (looked : validateJsonGates n.toNat i items = .ok ()) (read : readGates j items = .ok gates) :
    ∀ g ∈ gates, g.target < n := by
  induction items generalizing i j gates with
  | nil =>
      cases read
      exact List.forall_mem_nil _
  | cons v rest ih =>
      obtain ⟨g, first, read⟩ := bind_eq_ok_iff.mp read
      obtain ⟨others, behind, read⟩ := bind_eq_ok_iff.mp read
      cases read
      rw [validateJsonGates] at looked
      cases target : targetOfJson? v with
      | none =>
          rw [target] at looked
          cases looked
      | some q =>
          rw [target] at looked
          have same := Gate.target_of_ofJson (mapError_eq_ok_iff.mp first) target
          by_cases outside : q < 0 ∨ (n.toNat : Int) ≤ q
          · have refused : _ = Except.ok () := (if_pos outside).symm.trans looked
            cases refused
          · refine List.forall_mem_cons.mpr ⟨?_, ih ((if_neg outside).symm.trans looked) behind⟩
            rw [UInt32.lt_iff_toNat_lt]
            omega

/-- The register size that the first look goes by is the one that is read. -/
theorem integer?_of_qubits {fields : List (String × Json)} {n : Index}
    (got : Declaration.qubitsField.get fields = .ok n) :
    (((Json.obj fields).field? "qubits").bind Json.integer?).getD 0 = (n.toNat : Int) := by
  cases found : (Json.obj fields).field? "qubits" with
  | none =>
      have missing : Declaration.qubitsField.get fields = .ok 0 :=
        Json.get_of_missing (f := Declaration.qubitsField) found rfl
      cases missing.symm.trans got
      rfl
  | some v =>
      have read : Json.readIndex v = .ok n :=
        (Json.get_of_lookup (f := Declaration.qubitsField) found).symm.trans got
      rw [Option.bind_some, Json.integer?_of_readIndex read]
      rfl

/-- The gates that the first look goes over are the ones that are read. -/
theorem eq_arr_of_gates {fields : List (String × Json)} {items : List Json} {v : Json}
    (found : (Json.obj fields).field? "gates" = some v) (got : Declaration.gatesField.get fields = .ok items) :
    v = .arr items := by
  have read : Json.readList .ok v = .ok items :=
    (Json.get_of_lookup (f := Declaration.gatesField) found).symm.trans got
  cases v with
  | arr listed =>
      cases (Json.mapM_ok listed).symm.trans read
      rfl
  | _ => cases read

/-- A declaration is read field by field. -/
theorem Declaration.get_of_ofJson {fields : List (String × Json)} {declared : Declaration}
    (declares : Declaration.ofJson (.obj fields) = .ok declared) :
    gatesField.get fields = .ok declared.gates ∧ qubitsField.get fields = .ok declared.qubits ∧
      stepsField.get fields = .ok declared.steps := by
  obtain ⟨_, -, declares⟩ := bind_eq_ok_iff.mp declares
  obtain ⟨items, gotGates, declares⟩ := bind_eq_ok_iff.mp declares
  obtain ⟨n, gotQubits, declares⟩ := bind_eq_ok_iff.mp declares
  obtain ⟨steps, gotSteps, declares⟩ := bind_eq_ok_iff.mp declares
  obtain ⟨name, -, declares⟩ := bind_eq_ok_iff.mp declares
  obtain ⟨description, -, declares⟩ := bind_eq_ok_iff.mp declares
  cases declares
  exact ⟨gotGates, gotQubits, gotSteps⟩

/-- **Both looks at a value go over the same gates**, and over the same register. -/
theorem exists_items_of_ofJson {v : Json} {c : Circuit} (h : ofJson v = .ok c) :
    ∃ items, v.field? "gates" = some (.arr items) ∧
      validateJsonGates c.qubitCount.toNat 0 items = .ok () ∧ readGates 0 items = .ok c.gates := by
  obtain ⟨looked, declared, declares, read, register, -⟩ := ofJson_eq_ok h
  cases listed : v.field? "gates" with
  | none =>
      -- A value without gates does not pass the first look.
      rw [validateJson, listed] at looked
      cases looked
  | some list =>
      obtain ⟨fields, rfl⟩ := Json.exists_obj_of_field? listed
      obtain ⟨gotGates, gotQubits, -⟩ := Declaration.get_of_ofJson declares
      have size := integer?_of_qubits gotQubits
      cases eq_arr_of_gates listed gotGates
      rw [validateJson, listed, size] at looked
      rw [register]
      exact ⟨declared.gates, rfl, looked, read⟩

/-- **A circuit that was loaded is valid.** -/
theorem validate_of_ofJson {v : Json} {c : Circuit} (h : ofJson v = .ok c) : c.validate = .ok () := by
  obtain ⟨items, -, looked, read⟩ := exists_items_of_ofJson h
  exact validate_eq_ok_iff.mpr (inside_of_readGates looked read)

end Circuit

end QuantumWorkbench
