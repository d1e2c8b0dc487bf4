import QuantumWorkbench.Console.Program
import QuantumWorkbench.Proofs.Circuit.FirstRefusal
import QuantumWorkbench.Proofs.Circuit.RoundTrip
import QuantumWorkbench.Proofs.Console.Sending

/-!
# Two verdicts on a file

A file is judged by the command that checks it, and by those that load it. They never contradict each other on a
file that loads. But the check is the look at an untrusted value and no more, so data can pass it that is no circuit.

## Contents
- `Malformation.IsDetail`: what the look at an untrusted value leaves to the loader.
- `Circuit.validateJson_eq_ok_iff`: a value passes the look if it is a circuit, or fails in a detail only.
- `Surroundings.ReportsValid`: what the command for checking prints of a valid file.
- `Surroundings.verdicts`: how the two verdicts are related.
-/

namespace QuantumWorkbench

/-! ## Values -/

/-- The value has a list of gates, with targets in the register, and it is something else that is wrong: the form of
a field, of a gate, or the number of steps. -/
inductive Malformation.IsDetail : Malformation → Prop where
  | shape (cause : ShapeError) : IsDetail (.shape cause)
  | gateShape (gate : Nat) (cause : ShapeError) : IsDetail (.gateShape gate cause)
  | unsound (cause : CircuitError) : IsDetail (.unsound cause)

namespace Circuit

variable {v : Json} {fault : Fault}

theorem isDetail_of_readGates {i : Nat} {items : List Json} (refused : readGates i items = .error fault) :
    ∃ cause, fault = .malformed cause ∧ cause.IsDetail := by
  induction items generalizing i with
  | nil => cases refused
  | cons v rest ih =>
      rcases bind_eq_error_iff.mp refused with first | ⟨g, -, behind⟩
      · obtain ⟨cause, -, rfl⟩ := mapError_eq_error_iff.mp first
        exact ⟨_, rfl, .gateShape i cause⟩
      · rcases bind_eq_error_iff.mp behind with others | ⟨_, -, ⟨⟩⟩
        exact ih others

/-- What the look lets pass, the loader refuses in a detail only. -/
theorem isDetail_of_ofJson (looked : validateJson v = .ok ()) (refused : ofJson v = .error fault) :
    ∃ cause, fault = .malformed cause ∧ cause.IsDetail := by
  rw [ofJson, looked, ok_bind] at refused
  rcases bind_eq_error_iff.mp refused with declares | ⟨declared, -, refused⟩
  · obtain ⟨cause, -, rfl⟩ := mapError_eq_error_iff.mp declares
    exact ⟨_, rfl, .shape cause⟩
  rcases bind_eq_error_iff.mp refused with read | ⟨gates, -, refused⟩
  · exact isDetail_of_readGates read
  rcases bind_eq_error_iff.mp refused with counted | ⟨stepCount, -, refused⟩
  · obtain ⟨cause, -, rfl⟩ := mapError_eq_error_iff.mp counted
    exact ⟨_, rfl, .unsound cause⟩
  · by_cases other : declared.steps.any (· ≠ stepCount) = true
    · rw [if_pos other] at refused
      cases refused
      exact ⟨_, rfl, .unsound _⟩
    · rw [if_neg other] at refused
      cases refused

/-- What the look refuses is no detail. -/
theorem not_isDetail_of_validateJson (refused : validateJson v = .error fault) {cause : Malformation}
    (same : fault = .malformed cause) : ¬ cause.IsDetail := by
  subst same
  by_cases listed : ∃ items, v.HasField "gates" (.arr items)
  · obtain ⟨items, listed⟩ := listed
    rw [validateJson_of_gates listed (Json.registerSize_iff.mpr rfl)] at refused
    obtain ⟨_, _, -, reports⟩ := validateJsonGates_eq_error_iff.mp refused
    exact absurd rfl reports.kind_ne
  · rw [validateJson_of_noGates listed] at refused
    cases refused
    rintro ⟨⟩

/-- **A value passes the look exactly if it is a circuit, or no circuit because of a detail.** -/
theorem validateJson_eq_ok_iff : validateJson v = .ok () ↔
    (∃ c, ofJson v = .ok c) ∨ ∃ cause, cause.IsDetail ∧ ofJson v = .error (.malformed cause) := by
  constructor
  · intro looked
    cases read : ofJson v with
    | ok c => exact .inl ⟨c, rfl⟩
    | error fault =>
        obtain ⟨cause, rfl, detail⟩ := isDetail_of_ofJson looked read
        exact .inr ⟨cause, detail, rfl⟩
  · rintro (⟨c, read⟩ | ⟨cause, detail, refused⟩)
    · exact (ofJson_eq_ok read).1
    · cases looked : validateJson v with
      | ok => rfl
      | error fault =>
          rw [ofJson, looked] at refused
          cases refused
          exact absurd detail (not_isDetail_of_validateJson looked rfl)

end Circuit

/-! ## Files -/

section

variable {path text : String}

/-- **Data is passed exactly if it loads, or does not because of a detail.** -/
theorem judgeFile_data (data : isJsonPath path = true) : judgeFile path text = .ok () ↔
    (∃ c, Circuit.ofFile path text = .ok c) ∨
      ∃ cause, cause.IsDetail ∧ Circuit.ofFile path text = .error (.invalidCircuit (.malformed cause)) := by
  rw [judgeFile, Circuit.ofFile, if_pos data, if_pos data, Circuit.parse]
  cases Json.parse? text with
  | none =>
      refine iff_of_false ?_ ?_
      · rintro ⟨⟩
      · rintro (⟨_, ⟨⟩⟩ | ⟨_, detail, ⟨⟩⟩)
        cases detail
  | some v =>
      refine Iff.trans mapError_eq_ok_iff (Circuit.validateJson_eq_ok_iff.trans (or_congr ?_ ?_))
      · exact exists_congr fun _ => mapError_eq_ok_iff.symm
      · refine exists_congr fun cause => and_congr_right' ?_
        rw [mapError_eq_error_iff]
        constructor
        · exact fun refused => ⟨_, refused, rfl⟩
        · rintro ⟨_, refused, ⟨⟩⟩
          exact refused

theorem validate_of_ofFile {c : Circuit} (data : isJsonPath path = true)
    (loaded : Circuit.ofFile path text = .ok c) : c.validate = .ok () := by
  rw [Circuit.ofFile, if_pos data, mapError_eq_ok_iff, Circuit.parse] at loaded
  cases read : Json.parse? text with
  | none =>
      rw [read] at loaded
      cases loaded
  | some v =>
      rw [read] at loaded
      exact Circuit.validate_of_ofJson loaded

theorem judgeFile_script (script : ¬ isJsonPath path = true) :
    judgeFile path text = .ok () ↔ (Circuit.ofScript text .qiskit).validate = .ok () := by
  rw [judgeFile, if_neg script]
  exact mapError_eq_ok_iff

/-- A script loads unless it is one that can only be written. -/
theorem ofFile_script (script : ¬ isJsonPath path = true) : Circuit.ofFile path text =
    if Dialect.ofExtension? (Path.extension path) = some .qsharp then .error (.unreadableDialect .qsharp)
    else .ok (Circuit.ofScript text .qiskit) := by
  rw [Circuit.ofFile, if_neg script]
  cases Dialect.ofExtension? (Path.extension path) with
  | none => rfl
  | some d => cases d <;> rfl

end

/-! ## Commands -/

namespace Surroundings

/-- The command for checking says that the file is valid, and does nothing else. -/
def ReportsValid (s : Surroundings) (path : String) : Prop :=
  (Command.validate path).execute s [] = (.ok (), { out := joinLines [s!"✓ {path} is valid"] })

variable {s : Surroundings} {path text : String}

theorem reportsValid_iff (found : s.files.read path = .ok text) :
    s.ReportsValid path ↔ judgeFile path text = .ok () := by
  have input : s.files.input path = .ok text := by rw [FileView.input, found]
  rw [ReportsValid, Command.execute, Command.run, Command.runValidate, input, CommandM.lift_ok_bind]
  cases judgeFile path text with
  | error e =>
      rw [CommandM.lift_error_bind]
      refine iff_of_false ?_ ?_
      · rintro ⟨⟩
      · rintro ⟨⟩
  | ok =>
      rw [CommandM.lift_ok_bind]
      refine iff_of_true ?_ rfl
      show (Except.ok (), { ({} : Console) with out := "" ++ joinLines [s!"✓ {path} is valid"] }) = _
      rw [String.empty_append]

theorem loadCircuit_eq (found : s.files.read path = .ok text) :
    s.files.loadCircuit path = Circuit.ofFile path text := by
  rw [FileView.loadCircuit, FileView.input, found, ok_bind]

/-- **How the two verdicts on a file are related.** Take any file that can be read.
* If it loads, it is reported valid exactly if its circuit is.
* Data is reported valid exactly if it loads as a valid circuit, or does not load because of a detail.
* A script that is not of the kind that can only be written loads, and is reported valid exactly if its circuit is. -/
theorem verdicts (found : s.files.read path = .ok text) :
    (∀ c, s.files.loadCircuit path = .ok c → (s.ReportsValid path ↔ c.validate = .ok ())) ∧
    (isJsonPath path = true →
      (s.ReportsValid path ↔ (∃ c, s.files.loadCircuit path = .ok c ∧ c.validate = .ok ()) ∨
        ∃ cause, cause.IsDetail ∧ s.files.loadCircuit path = .error (.invalidCircuit (.malformed cause)))) ∧
    (isJsonPath path = false → Dialect.ofExtension? (Path.extension path) ≠ some .qsharp →
      (∃ c, s.files.loadCircuit path = .ok c) ∧
        (s.ReportsValid path ↔ ∃ c, s.files.loadCircuit path = .ok c ∧ c.validate = .ok ())) := by
  rw [reportsValid_iff found, loadCircuit_eq found]
  refine ⟨?_, ?_, ?_⟩
  · intro c loaded
    by_cases data : isJsonPath path = true
    · exact iff_of_true ((judgeFile_data data).mpr (.inl ⟨c, loaded⟩)) (validate_of_ofFile data loaded)
    · rw [ofFile_script data] at loaded
      split at loaded <;> cases loaded
      exact judgeFile_script data
  · intro data
    rw [judgeFile_data data]
    refine or_congr_left (exists_congr fun c => ?_)
    exact ⟨fun loaded => ⟨loaded, validate_of_ofFile data loaded⟩, And.left⟩
  · intro script readable
    have script : ¬ isJsonPath path = true := ne_true_of_eq_false script
    have loaded : Circuit.ofFile path text = .ok (Circuit.ofScript text .qiskit) :=
      (ofFile_script script).trans (if_neg readable)
    refine ⟨⟨_, loaded⟩, (judgeFile_script script).trans ⟨fun valid => ⟨_, loaded, valid⟩, ?_⟩⟩
    rintro ⟨c, again, valid⟩
    cases loaded.symm.trans again
    exact valid

/-- A gate with a target and nothing else. -/
def typelessText : String := "\x7b\"gates\": [\x7b\"position\": \x7b\"qubit\": 0\x7d\x7d], \"qubits\": 1\x7d"

/-- Surroundings with one text in every file. -/
def holding (text : String) : Surroundings where
  files := { read := fun _ => .ok text, isWritable := fun _ => false }
  env _ := none
  service := .scripted []
  draws := .ofSeed 0

/-- A script of one gate. -/
def loneScript : String := "qr = QuantumRegister(1)\ncircuit.h(0)\n"

theorem verdicts_lone :
    (holding loneScript).files.read "c.py" = .ok loneScript ∧ isJsonPath "c.py" = false ∧
    Dialect.ofExtension? (Path.extension "c.py") ≠ some .qsharp ∧ (holding loneScript).ReportsValid "c.py" := by
  have found : (holding loneScript).files.read "c.py" = .ok loneScript := rfl
  have script : isJsonPath "c.py" = false := by decide +kernel
  have readable : Dialect.ofExtension? (Path.extension "c.py") ≠ some .qsharp := by decide +kernel
  obtain ⟨agrees, -, scripts⟩ := verdicts found
  obtain ⟨⟨c, loaded⟩, -⟩ := scripts script readable
  have valid : c.validate = .ok () := by
    rw [loadCircuit_eq found, ofFile_script (ne_true_of_eq_false script), if_neg readable] at loaded
    cases loaded
    exact toOption_eq_some_iff.mp (by decide +kernel)
  exact ⟨found, script, readable, (agrees c loaded).mpr valid⟩

/-- Two files that are reported valid and do not load: data that says of a gate where it acts and not what it is, and
a script of calls under the extension of scripts that can only be written. -/
theorem verdicts_differ :
    ((holding typelessText).files.read "c.json" = .ok typelessText ∧ (holding typelessText).ReportsValid "c.json" ∧
      ¬ ∃ c, (holding typelessText).files.loadCircuit "c.json" = .ok c ∧ c.validate = .ok ()) ∧
    (holding loneScript).files.read "c.qs" = .ok loneScript ∧ (holding loneScript).ReportsValid "c.qs" ∧
      ¬ ∃ c, (holding loneScript).files.loadCircuit "c.qs" = .ok c ∧ c.validate = .ok () := by
  have judged : judgeFile "c.json" typelessText = .ok () := toOption_eq_some_iff.mp (by decide +kernel)
  have judged' : judgeFile "c.qs" loneScript = .ok () := toOption_eq_some_iff.mp (by decide +kernel)
  have refused : (Circuit.ofFile "c.json" typelessText).isOk = false := by decide +kernel
  have refused' : (Circuit.ofFile "c.qs" loneScript).isOk = false := by decide +kernel
  refine ⟨⟨rfl, (reportsValid_iff rfl).mpr judged, ?_⟩, rfl, (reportsValid_iff rfl).mpr judged', ?_⟩
  · rintro ⟨c, loaded, -⟩
    rw [← loadCircuit_eq (s := holding typelessText) rfl, loaded] at refused
    cases refused
  · rintro ⟨c, loaded, -⟩
    rw [← loadCircuit_eq (s := holding loneScript) rfl, loaded] at refused'
    cases refused'

end Surroundings

end QuantumWorkbench
