import QuantumWorkbench.Console.Command
import QuantumWorkbench.Proofs.Circuit.Loaded
import QuantumWorkbench.Proofs.Circuit.Written
import QuantumWorkbench.Proofs.Json.ReadBack

/-!
# Circuits written and loaded

Writing never fails and loading judges, so that not every circuit comes back from its written form. Those
that come back are the valid ones that declare the steps that their gates span.

## Contents
- `Circuit.spanned_iff`: the steps that gates span, told by the highest of them.
- `Circuit.parse_pretty`: loading the text of a circuit is loading its value.
- `Command.execute_parse_json`: what the command that reads scripts prints.
- `Circuit.json_round_trip`: which circuits come back, and that the others are refused.
-/

namespace QuantumWorkbench

namespace Circuit

/-! ## The highest step -/

/-- **The steps that gates span** are one more than the highest of them. No count is past the largest
index, so that no gate may stand there. -/
theorem spanned_iff {c : Circuit} :
    c.Spanned ↔ (∀ g ∈ c.gates, g.step ≠ Index.last) ∧
      (c.gates = [] ∧ c.stepCount = 0 ∨
        ∃ g ∈ c.gates, (∀ g' ∈ c.gates, g'.step ≤ g.step) ∧ c.stepCount = g.step + 1) := by
  rw [Spanned, span_eq_ok_iff]
  constructor
  · intro least
    have below : ∀ g ∈ c.gates, g.step < c.stepCount := (least _).mp UInt32.le_rfl
    have room : ∀ g ∈ c.gates, g.step ≠ Index.last := by
      intro g hg top
      exact UInt32.not_le.mpr (top ▸ below g hg) c.stepCount.le_last
    refine ⟨room, ?_⟩
    by_cases empty : c.stepCount = 0
    · refine .inl ⟨List.eq_nil_iff_forall_not_mem.mpr fun g hg => ?_, empty⟩
      exact absurd (empty ▸ below g hg) (UInt32.not_lt.mpr UInt32.zero_le)
    · -- A count below the least bound is no bound.
      have positive : c.stepCount.toNat ≠ 0 := fun zero => empty (UInt32.toNat_inj.mp zero)
      have before : (c.stepCount - 1).toNat = c.stepCount.toNat - 1 :=
        UInt32.toNat_sub_of_le _ _ (UInt32.le_iff_toNat_le.mpr (by rw [UInt32.toNat_one]; omega))
      have missed : ¬ ∀ g ∈ c.gates, g.step < c.stepCount - 1 := by
        rw [← least, UInt32.le_iff_toNat_le, before]
        omega
      obtain ⟨g, missed⟩ := Classical.not_forall.mp missed
      obtain ⟨hg, missed⟩ := Classical.not_imp.mp missed
      have high : c.stepCount.toNat - 1 ≤ g.step.toNat :=
        before ▸ UInt32.le_iff_toNat_le.mp (UInt32.not_lt.mp missed)
      have low := UInt32.lt_iff_toNat_lt.mp (below g hg)
      have moved := Index.toNat_succ (below g hg)
      refine .inr ⟨g, hg, ?_, UInt32.toNat_inj.mp (by omega)⟩
      intro g' hg'
      have low' := UInt32.lt_iff_toNat_lt.mp (below g' hg')
      rw [UInt32.le_iff_toNat_le]
      omega
  · rintro ⟨room, ⟨none_is, zero⟩ | ⟨g, hg, highest, counted⟩⟩ m
    · rw [none_is, zero]
      simp
    · rw [counted, Index.add_one_le_iff (room g hg)]
      constructor
      · exact fun lt g' hg' => UInt32.lt_of_le_of_lt (highest g' hg') lt
      · exact fun all => all g hg

/-! ## Texts -/

theorem isWord_index (i : Index) : JsonToken.IsWord i.toNat := by
  have bound := i.toNat_lt
  show -((Nat.pow 2 63 : Nat) : Int) ≤ _ ∧ _ < (UInt64.size : Int)
  have size : UInt64.size = 18446744073709551616 := rfl
  omega

theorem fits_index (i : Index) (room : Nat) : (Json.int i.toNat).Fits room := .int (isWord_index i)

theorem fits_position (p : Position) (room : Nat) : p.toJson.Fits (room + 1) :=
  .obj (List.forall_mem_cons.mpr ⟨fits_index _ _,
    List.forall_mem_cons.mpr ⟨fits_index _ _, List.forall_mem_nil _⟩⟩)

theorem fits_gate (g : Gate) (room : Nat) : g.toJson.Fits (room + 2) := by
  refine .obj fun e he => ?_
  rcases List.mem_append.mp he with always | optional
  · simp only [List.mem_cons, List.not_mem_nil, or_false] at always
    rcases always with rfl | rfl
    · exact .str _
    · exact fits_position _ _
  · obtain ⟨c, -, rfl⟩ := Option.map_eq_some_iff.mp (Option.mem_toList.mp optional)
    exact fits_index _ _

/-- A circuit is written with four containers open at most. -/
theorem fits_toJson (c : Circuit) (room : Nat) : c.toJson.Fits (room + 4) := by
  refine .obj fun e he => ?_
  rcases List.mem_append.mp he with always | optional
  · simp only [List.mem_cons, List.not_mem_nil, or_false] at always
    rcases always with rfl | rfl | rfl | rfl
    · refine .arr fun v hv => ?_
      obtain ⟨g, -, rfl⟩ := List.mem_map.mp hv
      exact fits_gate _ _
    · exact fits_index _ _
    · exact fits_index _ _
    · exact .str _
  · obtain ⟨d, -, rfl⟩ := Option.map_eq_some_iff.mp (Option.mem_toList.mp optional)
    exact .str _

/-- **Loading the text of a circuit is loading its value**, whatever blanks stand behind it. -/
theorem parse_pretty (c : Circuit) {tail : String}
    (blank : ∀ ch ∈ tail.toList, JsonToken.isSpace ch = true) : parse (c.toJson.pretty ++ tail) = c.reload := by
  rw [parse, Json.parse?_pretty (c.fits_toJson 123) blank]
  exact ofJson_of_writes c.writes_toJson.canonical

end Circuit

theorem joinLines_singleton (line : String) : joinLines [line] = line ++ "\n" := by
  rw [← String.toList_inj, joinLines, String.toList_ofList, String.toList_append, List.flatMap_singleton]
  rfl

/-- Reading a script as data prints the circuit of the script. -/
theorem Command.execute_parse_json {s : Surroundings} {sent : List Request} {input text : String}
    (script : isJsonPath input = false) (found : s.files.input input = .ok text) :
    (Command.parse input "json").execute s sent =
      (.ok (), { out := joinLines [(Circuit.ofScript text .qiskit).toJson.pretty], sent }) := by
  have format : lowerText "json" = "json" := by decide +kernel
  simp only [execute, run, runParse, script, found, format, if_neg Bool.false_ne_true]
  show ((CommandM.print (joinLines [(Circuit.ofScript text .qiskit).toJson.pretty])).run.run _) = _
  generalize joinLines [(Circuit.ofScript text .qiskit).toJson.pretty] = printed
  show (Except.ok (), { ({ sent } : Console) with out := "" ++ printed }) = _
  rw [String.empty_append]

namespace Circuit

/-! ## There and back -/

/-- **Exactly the valid circuits with an honest step count come back.**
* A circuit is loaded from its written form, as itself, if it is valid, no gate stands at the largest step,
  and it declares one step more than the highest of its gates, or none if it has none. In every other case
  loading fails. The order of the keys does not matter.
* What was loaded once is loaded again from its written form.
* Data that is printed from a script of fewer than `2 ^ 32` gates is loaded as the circuit of the script if
  that circuit is valid, and otherwise is not. -/
theorem json_round_trip :
    (∀ (c : Circuit) (v : Json), v = c.toJson ∨ v = c.toJson.canonical →
      let returns := c.validate = .ok () ∧ (∀ g ∈ c.gates, g.step ≠ Index.last) ∧
        (c.gates = [] ∧ c.stepCount = 0 ∨
          ∃ g ∈ c.gates, (∀ g' ∈ c.gates, g'.step ≤ g.step) ∧ c.stepCount = g.step + 1)
      (ofJson v = .ok c ↔ returns) ∧ ((∃ fault, ofJson v = .error fault) ↔ ¬ returns)) ∧
    (∀ (v : Json) (c : Circuit), ofJson v = .ok c → ofJson c.toJson.canonical = .ok c) ∧
    (∀ (s : Surroundings) (sent : List Request) (input text : String),
      isJsonPath input = false → s.files.input input = .ok text →
      let c := ofScript text .qiskit
      c.gates.length < UInt32.size →
      ∃ printed, (Command.parse input "json").execute s sent = (.ok (), { out := printed, sent }) ∧
        (parse printed = .ok c ↔ c.validate = .ok ())) := by
  refine ⟨?_, ?_, ?_⟩
  · intro c v written returns
    have writes : c.Writes v := by
      rcases written with rfl | rfl
      · exact c.writes_toJson
      · exact c.writes_toJson.canonical
    have comes : ofJson v = .ok c ↔ returns := by
      rw [ofJson_of_writes writes, reload_eq_ok_iff, and_iff_left rfl]
      exact and_congr_right fun _ => spanned_iff
    refine ⟨comes, ?_⟩
    rw [← comes, ofJson_of_writes writes]
    exact reload_eq_error_iff
  · intro v c loaded
    rw [ofJson_of_writes c.writes_toJson.canonical, reload_eq_ok_iff]
    exact ⟨⟨validate_of_ofJson loaded, spanned_of_ofJson loaded⟩, rfl⟩
  · intro s sent input text script found c few
    refine ⟨_, Command.execute_parse_json script found, ?_⟩
    have spanned : c.Spanned := spanned_of_made (.read text .qiskit few)
    have lineFeed : ∀ ch ∈ "\n".toList, JsonToken.isSpace ch = true := List.all_eq_true.mp rfl
    rw [joinLines_singleton, parse_pretty c lineFeed, reload_eq_ok_iff, and_iff_left rfl, and_iff_left spanned]

/-- A flip at the largest step. The circuit is valid, and no step count is behind the flip. -/
def latest : Circuit where
  gates := [.pauliX 0 Index.last]
  qubitCount := 1
  stepCount := 0
  name := "latest"

/-- A flip without a name, with a control that is null. -/
def sparse : Json :=
  .obj [("qubits", .int 1), ("gates", .arr [.obj [("position", .obj [("step", .int 0), ("qubit", .int 0)]),
    ("control", .null), ("type", .str "X")]])]

/-- Two gates over two qubits, as a script. -/
def pairScript : String :=
  "qr = QuantumRegister(2)\ncircuit.h(0)\ncircuit.cx(0, 1)\n"

/-- A directory that holds the script. -/
def pairDesk : Surroundings where
  files.read path := if path = "pair.py" then .ok pairScript else .error .missing
  files.isWritable _ := false
  env _ := none
  service := .scripted []
  draws := .ofSeed 0

theorem json_round_trip_pair :
    (latest.validate = .ok () ∧ ∃ fault, ofJson latest.toJson = .error fault) ∧
    (∃ c, ofJson sparse = .ok c ∧ ofJson c.toJson.canonical = .ok c) ∧
    ∃ printed, (Command.parse "pair.py" "json").execute pairDesk [] = (.ok (), { out := printed }) ∧
      (ofScript pairScript .qiskit).gates.length = 2 ∧ parse printed = .ok (ofScript pairScript .qiskit) := by
  refine ⟨⟨rfl, ?_⟩, ?_, ?_⟩
  · apply (json_round_trip.1 latest latest.toJson (.inl rfl)).2.mpr
    rintro ⟨-, room, -⟩
    exact room _ List.mem_cons_self rfl
  · have loaded : ofJson sparse =
        .ok { gates := [.pauliX 0 0], qubitCount := 1, stepCount := 1, name := "" } := rfl
    exact ⟨_, loaded, json_round_trip.2.1 sparse _ loaded⟩
  · have two : (ofScript pairScript .qiskit).gates.length = 2 := by decide +kernel
    have few : (ofScript pairScript .qiskit).gates.length < UInt32.size := by rw [two]; decide
    have valid : (ofScript pairScript .qiskit).validate = .ok () :=
      validate_eq_ok_iff.mpr (by decide +kernel)
    obtain ⟨printed, executed, loads⟩ :=
      json_round_trip.2.2 pairDesk [] "pair.py" pairScript (by decide +kernel) rfl few
    exact ⟨printed, executed, two, loads.mpr valid⟩

end Circuit

end QuantumWorkbench
