import QuantumWorkbench.Circuit.Wire
import QuantumWorkbench.Proofs.Circuit.Span
import QuantumWorkbench.Proofs.Json.Record

/-!
# Circuits written as values

The form in which a circuit is written fixes its fields and not their order. This module says when a
value writes a circuit, and what the loader makes of every such value.

## Contents
- `Position.Writes`, `Gate.Writes`, `Circuit.Writes`: the value says just this, in any order of fields.
- `Circuit.writes_toJson`, `Circuit.Writes.canonical`: so do the written form and its canonical value.
- `Circuit.validateJson_of_writes`: the two validators agree on it.
- `Circuit.reload`, `Circuit.ofJson_of_writes`: the loader judges the circuit that is written, and returns
  no other one.
-/

namespace QuantumWorkbench

/-! ## What a value writes -/

/-- The value writes the position. -/
structure Position.Writes (p : Position) (v : Json) : Prop where
  record : v.IsRecord
  qubit : v.field? "qubit" = some (.int p.qubit.toNat)
  step : v.field? "step" = some (.int p.step.toNat)

/-- The value writes the gate. -/
structure Gate.Writes (g : Gate) (v : Json) : Prop where
  record : v.IsRecord
  kind : v.field? "type" = some (.str g.kind.name)
  position : ∃ p, v.field? "position" = some p ∧ g.position.Writes p
  control : v.field? "control" = g.control?.map fun c => .int c.toNat

/-- The values write the gates, one after the other. -/
inductive Gate.WriteAll : List Gate → List Json → Prop where
  | nil : WriteAll [] []
  | cons {g : Gate} {v : Json} {gates : List Gate} {items : List Json} (first : g.Writes v)
      (rest : WriteAll gates items) : WriteAll (g :: gates) (v :: items)

/-- The value writes the circuit. -/
structure Circuit.Writes (c : Circuit) (v : Json) : Prop where
  record : v.IsRecord
  gates : ∃ items, v.field? "gates" = some (.arr items) ∧ Gate.WriteAll c.gates items
  qubits : v.field? "qubits" = some (.int c.qubitCount.toNat)
  steps : v.field? "steps" = some (.int c.stepCount.toNat)
  name : v.field? "name" = some (.str c.name)
  description : v.field? "description" = c.description.map .str

namespace Position

theorem writes_toJson (p : Position) : p.Writes p.toJson where
  record := ⟨_, rfl, show ["qubit", "step"].Nodup by decide⟩
  qubit := rfl
  step := rfl

theorem Writes.canonical {p : Position} {v : Json} (h : p.Writes v) : p.Writes v.canonical where
  record := h.record.canonical
  qubit := by rw [Json.field?_canonical h.record, h.qubit, Option.map_some, Json.canonical_int]
  step := by rw [Json.field?_canonical h.record, h.step, Option.map_some, Json.canonical_int]

theorem ofJson_of_writes {p : Position} {v : Json} (h : p.Writes v) : ofJson v = .ok p := by
  obtain ⟨⟨fields, rfl, nodup⟩, qubit, step⟩ := h
  have gotQubit : qubitField.get fields = .ok p.qubit :=
    (Json.get_of_lookup (f := qubitField) qubit).trans (Json.readIndex_int _)
  have gotStep : stepField.get fields = .ok p.step :=
    (Json.get_of_lookup (f := stepField) step).trans (Json.readIndex_int _)
  rw [ofJson, Json.readRecord_of_get nodup, gotQubit, gotStep]
  · rfl
  · simp only [List.forall_mem_cons]
    exact ⟨fun v => Json.check_of_get gotQubit, fun v => Json.check_of_get gotStep, List.forall_mem_nil _⟩

end Position

theorem GateKind.ofJson_name (kind : GateKind) : ofJson (.str kind.name) = .ok kind := by
  rw [ofJson, Json.readVariant]
  simp only [ofName?_name]

namespace Gate

theorem writes_toJson (g : Gate) : g.Writes g.toJson := by
  have new : "control" ∉ ["type", "position"] := by decide
  have nodup : ["type", "position"].Nodup := by decide
  constructor
  · refine ⟨_, rfl, ?_⟩
    apply Keyed.nodup_optional
    · exact nodup
    · exact new
  · rfl
  · exact ⟨_, rfl, g.position.writes_toJson⟩
  · apply Keyed.lookup_optional
    exact new

theorem Writes.canonical {g : Gate} {v : Json} (h : g.Writes v) : g.Writes v.canonical := by
  refine ⟨h.record.canonical, ?_, ?_, ?_⟩
  · rw [Json.field?_canonical h.record, h.kind, Option.map_some, Json.canonical_str]
  · obtain ⟨p, found, writes⟩ := h.position
    refine ⟨p.canonical, ?_, writes.canonical⟩
    rw [Json.field?_canonical h.record, found, Option.map_some]
  · rw [Json.field?_canonical h.record, h.control, Option.map_map]
    rfl

theorem ofJson_of_writes {g : Gate} {v : Json} (h : g.Writes v) : ofJson v = .ok g := by
  obtain ⟨⟨fields, rfl, nodup⟩, kind, ⟨p, position, writes⟩, control⟩ := h
  have gotKind : kindField.get fields = .ok g.kind :=
    (Json.get_of_lookup (f := kindField) kind).trans (GateKind.ofJson_name _)
  have gotPosition : positionField.get fields = .ok g.position :=
    (Json.get_of_lookup (f := positionField) position).trans (Position.ofJson_of_writes writes)
  have gotControl : controlField.get fields = .ok g.control? :=
    Json.get_of_option (f := controlField) rfl rfl Json.readOption_int control
  rw [ofJson, Json.readRecord_of_get nodup, gotKind, gotPosition, gotControl]
  · show (ofParts g.kind g.position g.control?).mapError _ = _
    rw [ofParts_self]
    rfl
  · simp only [List.forall_mem_cons]
    exact ⟨fun v => Json.check_of_get gotKind, fun v => Json.check_of_get gotPosition,
      fun v => Json.check_of_get gotControl, List.forall_mem_nil _⟩

theorem writeAll_toJson (gates : List Gate) : WriteAll gates (gates.map toJson) := by
  induction gates with
  | nil => exact .nil
  | cons g rest ih => exact .cons g.writes_toJson ih

theorem WriteAll.canonical {gates : List Gate} {items : List Json} (h : WriteAll gates items) :
    WriteAll gates (items.map Json.canonical) := by
  induction h with
  | nil => exact .nil
  | cons first _ ih => exact .cons first.canonical ih

end Gate

namespace Circuit

theorem readGates_of_writes {gates : List Gate} {items : List Json} (h : Gate.WriteAll gates items)
    (i : Nat) : readGates i items = .ok gates := by
  induction h generalizing i with
  | nil => rfl
  | cons first _ ih =>
      rw [readGates, Gate.ofJson_of_writes first, ih]
      rfl

theorem writes_toJson (c : Circuit) : c.Writes c.toJson := by
  have new : "description" ∉ ["gates", "qubits", "steps", "name"] := by decide
  have nodup : ["gates", "qubits", "steps", "name"].Nodup := by decide
  constructor
  · refine ⟨_, rfl, ?_⟩
    apply Keyed.nodup_optional
    · exact nodup
    · exact new
  · exact ⟨_, rfl, Gate.writeAll_toJson c.gates⟩
  · rfl
  · rfl
  · rfl
  · apply Keyed.lookup_optional
    exact new

theorem Writes.canonical {c : Circuit} {v : Json} (h : c.Writes v) : c.Writes v.canonical := by
  refine ⟨h.record.canonical, ?_, ?_, ?_, ?_, ?_⟩
  · obtain ⟨items, found, writes⟩ := h.gates
    refine ⟨items.map Json.canonical, ?_, writes.canonical⟩
    rw [Json.field?_canonical h.record, found, Option.map_some, Json.canonical_arr]
  · rw [Json.field?_canonical h.record, h.qubits, Option.map_some, Json.canonical_int]
  · rw [Json.field?_canonical h.record, h.steps, Option.map_some, Json.canonical_int]
  · rw [Json.field?_canonical h.record, h.name, Option.map_some, Json.canonical_str]
  · rw [Json.field?_canonical h.record, h.description, Option.map_map]
    rfl

/-! ## Loading -/

/-- The untrusted look at a gate that is written finds its target. -/
theorem targetOfJson?_of_writes {g : Gate} {v : Json} (h : g.Writes v) :
    targetOfJson? v = some (g.target.toNat : Int) := by
  obtain ⟨p, found, ⟨fields, rfl, -⟩, qubit, -⟩ := h.position
  rw [targetOfJson?, found]
  show ((Json.obj fields).field? "qubit").bind Json.integer? = _
  rw [qubit]
  exact Json.integer?_int _

theorem validateJsonGates_of_writes {gates : List Gate} {items : List Json}
    (h : Gate.WriteAll gates items) (n : Index) (i : Nat) :
    validateJsonGates n.toNat i items = validateGates n i gates := by
  induction h generalizing i with
  | nil => rfl
  | @cons g v _ _ first _ ih =>
      rw [validateJsonGates, targetOfJson?_of_writes first, validateGates]
      have same : ((g.target.toNat : Int) < 0 ∨ (n.toNat : Int) ≤ g.target.toNat) ↔ n ≤ g.target := by
        rw [UInt32.le_iff_toNat_le]
        omega
      by_cases outside : n ≤ g.target
      · rw [if_pos outside]
        exact if_pos (same.mpr outside)
      · rw [if_neg outside, ← ih]
        exact if_neg fun out => outside (same.mp out)

/-- **The two validators agree** on a circuit and a value that writes it. -/
theorem validateJson_of_writes {c : Circuit} {v : Json} (h : c.Writes v) : validateJson v = c.validate := by
  obtain ⟨items, found, writes⟩ := h.gates
  rw [validateJson, found, h.qubits]
  show validateJsonGates ((Json.integer? (.int c.qubitCount.toNat)).getD 0) 0 items = _
  rw [Json.integer?_int]
  exact validateJsonGates_of_writes writes _ _

theorem declaration_of_writes {c : Circuit} {v : Json} (h : c.Writes v) :
    ∃ items, Declaration.ofJson v = .ok ⟨items, c.qubitCount, some c.stepCount, c.name, c.description⟩ ∧
      Gate.WriteAll c.gates items := by
  obtain ⟨⟨fields, rfl, nodup⟩, ⟨items, gates, writes⟩, qubits, steps, name, description⟩ := h
  have gotGates : Declaration.gatesField.get fields = .ok items := by
    rw [Json.get_of_lookup (f := Declaration.gatesField) gates]
    exact Json.mapM_ok items
  have gotQubits : Declaration.qubitsField.get fields = .ok c.qubitCount :=
    (Json.get_of_lookup (f := Declaration.qubitsField) qubits).trans (Json.readIndex_int _)
  have gotSteps : Declaration.stepsField.get fields = .ok (some c.stepCount) :=
    Json.get_of_option (f := Declaration.stepsField) (a := some c.stepCount) rfl rfl Json.readOption_int steps
  have gotName : Declaration.nameField.get fields = .ok c.name :=
    Json.get_of_lookup (f := Declaration.nameField) name
  have gotDescription : Declaration.descriptionField.get fields = .ok c.description :=
    Json.get_of_option (f := Declaration.descriptionField) rfl rfl (fun _ => rfl) description
  refine ⟨items, ?_, writes⟩
  rw [Declaration.ofJson, Json.readRecord_of_get nodup, gotGates, gotQubits, gotSteps, gotName, gotDescription]
  · rfl
  · simp only [List.forall_mem_cons]
    exact ⟨fun v => Json.check_of_get gotGates, fun v => Json.check_of_get gotQubits,
      fun v => Json.check_of_get gotSteps, fun v => Json.check_of_get gotName,
      fun v => Json.check_of_get gotDescription, List.forall_mem_nil _⟩

/-- What loading makes of a circuit that is written: validation comes first, then the steps that the gates
span are compared with those that are declared. -/
def reload (c : Circuit) : Except Fault Circuit := do
  c.validate
  let stepCount ← (checkedSpan c.gates).mapError fun e => .malformed (.unsound e)
  if c.stepCount ≠ stepCount then
    throw (.malformed (.unsound (.stepCountMismatch c.stepCount stepCount)))
  return c

/-- The circuit itself comes back, if it is valid and declares the steps that its gates span. -/
theorem reload_eq_ok_iff {c d : Circuit} :
    c.reload = .ok d ↔ (c.validate = .ok () ∧ c.Spanned) ∧ c = d := by
  constructor
  · intro h
    obtain ⟨_, valid, h⟩ := bind_eq_ok_iff.mp h
    obtain ⟨n, counted, h⟩ := bind_eq_ok_iff.mp h
    have spanned : span c.gates = .ok n := checkedSpan_eq_ok_iff.mp (mapError_eq_ok_iff.mp counted)
    by_cases same : c.stepCount = n
    · rw [if_neg (not_not_intro same)] at h
      rw [← same] at spanned
      cases h
      exact ⟨⟨valid, spanned⟩, rfl⟩
    · rw [if_pos same] at h
      cases h
  · rintro ⟨⟨valid, spanned⟩, rfl⟩
    have counted : checkedSpan c.gates = .ok c.stepCount := checkedSpan_eq_ok_iff.mpr spanned
    rw [reload, valid, counted]
    simp only [ok_bind, mapError_ok]
    exact if_neg (not_not_intro rfl)

theorem reload_eq_error_iff {c : Circuit} : (∃ fault, c.reload = .error fault) ↔ ¬ c.reload = .ok c := by
  cases reloaded : c.reload with
  | error fault =>
      constructor
      · rintro - ⟨⟩
      · exact fun _ => ⟨fault, rfl⟩
  | ok d =>
      obtain ⟨-, rfl⟩ := reload_eq_ok_iff.mp reloaded
      constructor
      · rintro ⟨_, ⟨⟩⟩
      · exact fun other => absurd rfl other

/-- **Loading judges the circuit that is written**, and returns no other one. -/
theorem ofJson_of_writes {c : Circuit} {v : Json} (h : c.Writes v) : ofJson v = c.reload := by
  obtain ⟨items, declared, writes⟩ := declaration_of_writes h
  have gates := readGates_of_writes writes 0
  -- Both sides validate first. Behind that everything can be read, and only the span is left to judge.
  cases valid : c.validate with
  | error fault =>
      rw [ofJson, reload, validateJson_of_writes h, valid]
      rfl
  | ok u =>
      cases spanned : checkedSpan c.gates with
      | error cause =>
          rw [ofJson, reload, validateJson_of_writes h, valid, declared]
          simp only [ok_bind, mapError_ok, gates, spanned]
          rfl
      | ok n =>
          rw [ofJson, reload, validateJson_of_writes h, valid, declared]
          simp only [ok_bind, mapError_ok, gates, spanned]
          by_cases same : c.stepCount = n
          · cases same
            have agrees : ¬ (some c.stepCount).any (fun steps => decide (steps ≠ c.stepCount)) = true := by
              simp
            rw [if_neg agrees, if_neg (not_not_intro rfl)]
          · have differs : (some c.stepCount).any (fun steps => decide (steps ≠ n)) = true :=
              decide_eq_true same
            rw [if_pos differs, if_pos same]
            rfl

end Circuit

end QuantumWorkbench
