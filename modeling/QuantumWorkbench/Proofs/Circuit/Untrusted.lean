import Mathlib.Data.List.Forall2
import QuantumWorkbench.Proofs.Circuit.RoundTrip

/-!
# Untrusted values

A value that is to become a circuit is read three times: by the validator of values, by the reader of
declarations, and by the reader of gates. This module shows that they do not disagree. What the validator
refuses the loader refuses in the same words, and what the loader returns is what the validator looked at.

## Contents
- `Json.readOption_eq_ok_iff`: an optional index is null or the numeral of an index.
- `Gate.ReadFrom`: the gate is what stands in the fields of the value.
- `Circuit.readFrom_of_readGates`: one gate for each value, in the same order.
- `Circuit.steps_of_ofJson`: a declared number of steps is that of the gates.
- `Circuit.untrusted_loader`: the validators agree, and the loader is sound.
-/

namespace QuantumWorkbench

namespace Json

/-- Only null and the numeral of an index are read as an optional index. -/
theorem readOption_eq_ok_iff {v : Json} {i? : Option UInt32} :
    readOption readIndex v = .ok i? ↔ v = .null ∧ i? = none ∨ ∃ i, v = .int i.toNat ∧ i? = some i := by
  constructor
  · intro read
    by_cases absent : v = .null
    · subst absent
      cases read
      exact .inl ⟨rfl, rfl⟩
    · have wrapped : some <$> readIndex v = .ok i? := by
        cases v with
        | null => exact absurd rfl absent
        | _ => exact read
      cases index : readIndex v with
      | error cause =>
          rw [index] at wrapped
          cases wrapped
      | ok i =>
          rw [index] at wrapped
          cases wrapped
          exact .inr ⟨i, eq_int_of_readIndex index, rfl⟩
  · rintro (⟨rfl, rfl⟩ | ⟨i, rfl, rfl⟩)
    · rfl
    · exact readOption_int i

/-- An optional index is seen as a whole number if it is there. -/
theorem integer?_of_readOption {v : Json} {i? : Option UInt32} (read : readOption readIndex v = .ok i?) :
    v.integer? = i?.map fun i => (i.toNat : Int) := by
  rcases readOption_eq_ok_iff.mp read with ⟨rfl, rfl⟩ | ⟨i, rfl, rfl⟩
  · rfl
  · exact integer?_int i

end Json

/-! ## Gates -/

/-- The gate is what stands in the fields of the value: the kind by its name, the target as the validator
finds it, and the control if there is one. -/
structure Gate.ReadFrom (v : Json) (g : Gate) : Prop where
  kind : ∃ name, v.field? "type" = some name ∧ GateKind.ofJson name = .ok g.kind
  target : Circuit.targetOfJson? v = some (g.target.toNat : Int)
  control : (v.field? "control").bind Json.integer? = g.control?.map fun c => (c.toNat : Int)

/-- **Whatever both looks let pass is what it seems to be.** -/
theorem Gate.readFrom_of_ofJson {v : Json} {g : Gate} {q : Int} (read : ofJson v = .ok g)
    (looked : Circuit.targetOfJson? v = some q) : g.ReadFrom v := by
  have target : (g.target.toNat : Int) = q := target_of_ofJson read looked
  obtain ⟨p, position, -⟩ := Option.bind_eq_some_iff.mp looked
  obtain ⟨fields, rfl⟩ := Json.exists_obj_of_field? position
  obtain ⟨gotKind, -, gotControl⟩ := get_of_ofJson read
  refine ⟨?_, target ▸ looked, ?_⟩
  · cases found : (Json.obj fields).field? "type" with
    | none =>
        -- There is no kind to fall back on.
        have missing : kindField.get fields = .error (.missingField "type") := by
          rw [Field.get, show fields.lookup kindField.name = none from found]
          rfl
        cases missing.symm.trans gotKind
    | some name => exact ⟨name, rfl, (Json.get_of_lookup (f := kindField) found).symm.trans gotKind⟩
  · cases found : (Json.obj fields).field? "control" with
    | none =>
        have missing : controlField.get fields = .ok none :=
          Json.get_of_missing (f := controlField) found rfl
        rw [← Except.ok.inj (missing.symm.trans gotControl)]
        rfl
    | some w =>
        exact Json.integer?_of_readOption
          ((Json.get_of_lookup (f := controlField) found).symm.trans gotControl)

namespace Circuit

/-- One gate for each value, in the same order. -/
theorem readFrom_of_readGates {items : List Json} {n : Int} {i j : Nat} {gates : List Gate}
    (looked : validateJsonGates n i items = .ok ()) (read : readGates j items = .ok gates) :
    List.Forall₂ Gate.ReadFrom items gates := by
  induction items generalizing i j gates with
  | nil =>
      cases read
      exact .nil
  | cons v rest ih =>
      obtain ⟨g, first, read⟩ := bind_eq_ok_iff.mp read
      obtain ⟨others, behind, read⟩ := bind_eq_ok_iff.mp read
      cases read
      rw [validateJsonGates] at looked
      cases target : targetOfJson? v with
      | none =>
          rw [target] at looked
          cases looked
      | some q =>
          rw [target] at looked
          by_cases outside : q < 0 ∨ n ≤ q
          · have refused : _ = Except.ok () := (if_pos outside).symm.trans looked
            cases refused
          · exact .cons (Gate.readFrom_of_ofJson (mapError_eq_ok_iff.mp first) target)
              (ih ((if_neg outside).symm.trans looked) behind)

/-! ## Circuits -/

/-- **A declared number of steps is that of the gates.** Null declares none. -/
theorem steps_of_ofJson {v w : Json} {c : Circuit} (h : ofJson v = .ok c)
    (found : v.field? "steps" = some w) (present : w ≠ .null) : w = .int c.stepCount.toNat := by
  obtain ⟨-, declared, declares, -, -, -, honest⟩ := ofJson_eq_ok h
  obtain ⟨fields, rfl⟩ := Json.exists_obj_of_field? found
  obtain ⟨-, -, gotSteps⟩ := Declaration.get_of_ofJson declares
  have read : Json.readOption Json.readIndex w = .ok declared.steps :=
    (Json.get_of_lookup (f := Declaration.stepsField) found).symm.trans gotSteps
  rcases Json.readOption_eq_ok_iff.mp read with ⟨absent, -⟩ | ⟨n, rfl, stated⟩
  · exact absurd absent present
  · rw [honest n stated]

/-- **The validators agree, and the loader is sound.**
* A circuit and its written form, in whatever order of keys, are judged alike: both are valid, or the same
  gate is refused for the same qubit.
* What the validator refuses the loader refuses in the same words, whatever else is wrong with the value.
* A circuit that was loaded is valid. Each value in the list of gates has become one gate, in the same
  order: it has the kind that the value names, the target that the validator found, and the control that
  the value gives, if any. Exactly the gates of the controlled kind have a control, and it is not their
  target. There is one step more than the highest of the gates, or none without gates, and a number of
  steps that was declared is this one. -/
theorem untrusted_loader :
    (∀ (c : Circuit) (v : Json), v = c.toJson ∨ v = c.toJson.canonical → validateJson v = c.validate) ∧
    (∀ (v : Json) (fault : Fault), validateJson v = .error fault → ofJson v = .error fault) ∧
    ∀ (v : Json) (c : Circuit), ofJson v = .ok c →
      c.validate = .ok () ∧
      (∃ items, v.field? "gates" = some (.arr items) ∧ List.Forall₂ Gate.ReadFrom items c.gates) ∧
      (∀ g ∈ c.gates, (g.control?.isSome ↔ g.kind = .controlledNot) ∧ g.control? ≠ some g.target) ∧
      (c.gates = [] ∧ c.stepCount = 0 ∨
        ∃ g ∈ c.gates, (∀ g' ∈ c.gates, g'.step ≤ g.step) ∧ c.stepCount.toNat = g.step.toNat + 1) ∧
      ∀ w, v.field? "steps" = some w → w ≠ .null → w = .int c.stepCount.toNat := by
  refine ⟨?_, ?_, ?_⟩
  · intro c v written
    rcases written with rfl | rfl
    · exact validateJson_of_writes c.writes_toJson
    · exact validateJson_of_writes c.writes_toJson.canonical
  · intro v fault refused
    rw [ofJson, refused]
    rfl
  · intro v c loaded
    obtain ⟨items, listed, looked, read⟩ := exists_items_of_ofJson loaded
    have spanned : c.Spanned := spanned_of_ofJson loaded
    refine ⟨validate_of_ofJson loaded, ⟨items, listed, readFrom_of_readGates looked read⟩, ?_, ?_,
      fun w => steps_of_ofJson loaded⟩
    · exact fun g _ => ⟨g.operation.control?_isSome_iff, g.operation.control?_ne_target⟩
    · refine (spanned_iff.mp spanned).2.imp_right ?_
      rintro ⟨g, hg, highest, counted⟩
      have below : g.step < c.stepCount := (span_eq_ok_iff.mp spanned _).mp UInt32.le_rfl g hg
      exact ⟨g, hg, highest, by rw [counted, Index.toNat_succ below]⟩

/-- Nothing but the first gate is in order here: the second has an unknown kind, a negative target and no
step, and the steps are no number. -/
def jumbled : Json :=
  .obj [("gates", .arr [(Gate.hadamard 0 0).toJson,
      .obj [("type", .str "Y"), ("position", .obj [("qubit", .int (-1))])]]),
    ("qubits", .int 1), ("steps", .str "many")]

/-- One flip at the third of three steps. -/
def declared : Json :=
  .obj [("gates", .arr [(Gate.pauliX 0 2).toJson]), ("qubits", .int 1), ("steps", .int 3)]

/-- The negative target of `jumbled` is what is reported of it, `latest` is judged like its written form,
and the steps of `declared` are those of its flip. -/
theorem untrusted_loader_jumbled :
    validateJson latest.toJson = latest.validate ∧
    (validateJson jumbled = .error (.invalidQubit (-1) 1) ∧
      ofJson jumbled = .error (.invalidQubit (-1) 1)) ∧
    ∃ c items, ofJson declared = .ok c ∧ declared.field? "gates" = some (.arr items) ∧
      items.length = c.gates.length ∧ declared.field? "steps" = some (.int 3) ∧
      Json.int 3 = .int c.stepCount.toNat := by
  have refused : validateJson jumbled = .error (.invalidQubit (-1) 1) := rfl
  have loaded : ofJson declared =
      .ok { gates := [.pauliX 0 2], qubitCount := 1, stepCount := 3, name := "" } := rfl
  obtain ⟨-, ⟨items, listed, alike⟩, -, -, counted⟩ := untrusted_loader.2.2 declared _ loaded
  exact ⟨untrusted_loader.1 latest _ (.inl rfl), ⟨refused, untrusted_loader.2.1 jumbled _ refused⟩,
    _, items, loaded, listed, alike.length_eq, rfl, counted (.int 3) rfl nofun⟩

end Circuit

end QuantumWorkbench
