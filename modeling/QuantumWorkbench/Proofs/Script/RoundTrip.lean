import QuantumWorkbench.Proofs.Script.Words
import QuantumWorkbench.Script.Circuit

/-!
# Scripts that are read back

A circuit that was written as a script of calls is read back gate by gate. What a script does not say is
lost: the steps, the name and the description.

## Contents
- `Token.callWords`: the words of the call that places a gate, and `Gate.ofLine?_callLine`, what the
  call is read as.
- `Operation.ofLine?`: the operation that a line places, and `Circuit.gatesOfLines_eq`: the gates of some lines
  are their operations, one a step.
- `Circuit.serial`: the gates of a circuit in list order, one a step.
- `Circuit.ofScript_toScript`: reading what was written gives the serial circuit.
- `Circuit.serial_ofScript`: a circuit that was read is serial already.
- `Circuit.script_round_trip`: writing is undone by reading, and reading what was written again changes
  nothing.
-/

namespace QuantumWorkbench

open Token (Word spell isWritten)

/-! ## Calls -/

namespace Token

/-- Indices with commas between them. -/
def argWords : List Index → List Word
  | [] => []
  | [q] => [.number q]
  | q :: rest => .number q :: .sign ',' :: .blank :: argWords rest

/-- The words of a call on the circuit object. -/
def methodWords (method : String) (args : List Index) : List Word :=
  [.name "circuit", .sign '.', .name method, .sign '('] ++ argWords args ++ [.sign ')']

/-- The words of the call that places an operation. -/
def callWords : Operation → List Word
  | .hadamard q => methodWords "h" [q]
  | .pauliX q => methodWords "x" [q]
  | .controlledNot c t _ => methodWords "cx" [c, t]
  | .measure q => methodWords "measure" [q, q]

theorem isWritten_callWords (op : Operation) : isWritten (callWords op) = true := by
  cases op <;> rfl

end Token

open Token (callWords)

theorem toList_callLine (g : Gate) :
    (Circuit.callLine g).toList = spell (callWords g.operation) := by
  obtain ⟨op, step⟩ := g
  cases op <;>
    simp [Circuit.callLine, callWords, Token.methodWords, Token.argWords, spell, Word.text, toString]

@[simp] theorem indexArg?_toUInt64 (q : Index) : indexArg? [.int q.toUInt64] = some q := by
  have fits : q.toUInt64.toNat < UInt32.size := by
    rw [UInt32.toNat_toUInt64]
    exact q.toNat_lt
  rw [indexArg?, if_pos fits, UInt32.toUInt32_toUInt64]

namespace MethodCall

/-- A call is read with what stands between its brackets. -/
theorem ofTokens?_call (method : String) (args : List Token) :
    ofTokens? (.ident "circuit" :: .mark '.' :: .ident method :: .mark '(' ::
      (args ++ [.mark ')'])) = (splitArgs? args).map fun args => { method, args } := by
  have last : (args ++ [Token.mark ')']).getLast? = some (.mark ')') := List.getLast?_concat
  have noSemicolon : some (Token.mark ')') ≠ some (.mark ';') := by decide
  simp only [ofTokens?, last, if_neg noSemicolon, if_true, List.dropLast_concat]

/-- Indices with commas between them are as many arguments. -/
theorem splitFrom_argWords (q : Index) (rest : List Index) :
    splitFrom 0 [] ((Token.argWords (q :: rest)).filterMap Word.token?) =
      some ((q :: rest).map fun q => [.int q.toUInt64]) := by
  induction rest generalizing q with
  | nil => simp [Token.argWords, Word.token?, splitFrom]
  | cons next rest ih =>
      -- The comma ends the first argument, and nothing of it is carried over.
      have behind : splitFrom 0 [] ((Token.argWords (q :: next :: rest)).filterMap Word.token?) =
          ([.int q.toUInt64] :: ·) <$>
            splitFrom 0 [] ((Token.argWords (next :: rest)).filterMap Word.token?) := by
        simp [Token.argWords, Word.token?, splitFrom]
        rfl
      rw [behind, ih]
      rfl

theorem splitArgs?_argWords (args : List Index) :
    splitArgs? ((Token.argWords args).filterMap Word.token?) =
      some (args.map fun q => [.int q.toUInt64]) := by
  cases args with
  | nil => rfl
  | cons q rest =>
      have some_token : ((Token.argWords (q :: rest)).filterMap Word.token?).isEmpty = false := by
        cases rest <;> rfl
      rw [splitArgs?, some_token, if_neg (by decide), splitFrom_argWords, Option.filter_some,
        if_pos (by simp)]

/-- The words of a call are read as that call. -/
theorem ofTokens?_methodWords (method : String) (args : List Index) :
    ofTokens? ((Token.methodWords method args).filterMap Word.token?) =
      some { method, args := args.map fun q => [.int q.toUInt64] } := by
  have read := ofTokens?_call method ((Token.argWords args).filterMap Word.token?)
  rw [splitArgs?_argWords] at read
  rw [Token.methodWords, List.filterMap_append, List.filterMap_append]
  exact read

end MethodCall

namespace Gate

theorem controlledNot_of_ne {c t step : Index} (ne : c ≠ t) :
    controlledNot c t step = .ok ⟨.controlledNot c t ne, step⟩ := by
  rw [controlledNot, dif_neg ne]

/-- **A call is read as the gate that it places**, at the step that the reader has come to. -/
theorem ofLine?_callLine (g : Gate) (step : Index) :
    ofLine? (Circuit.callLine g).toList step = some { g with step } := by
  rw [toList_callLine, ofLine?, Token.line?_spell (Token.isWritten_callWords _), Option.bind_some]
  obtain ⟨op, placed⟩ := g
  cases op with
  | hadamard q =>
      rw [callWords, MethodCall.ofTokens?_methodWords]
      simp [ofCall?, hadamard]
  | pauliX q =>
      rw [callWords, MethodCall.ofTokens?_methodWords]
      simp [ofCall?, pauliX]
  | controlledNot c t ne =>
      rw [callWords, MethodCall.ofTokens?_methodWords]
      simp [ofCall?, controlledNot_of_ne ne, Except.toOption]
  | measure q =>
      rw [callWords, MethodCall.ofTokens?_methodWords]
      simp [ofCall?, measure]

/-- What a call places does not depend on the step. -/
theorem ofCall?_eq (step : Index) (call : MethodCall) :
    ofCall? step call = (ofCall? 0 call).map fun g => ⟨g.operation, step⟩ := by
  unfold ofCall?
  split
  · rw [Option.map_map]
    rfl
  · rw [Option.map_map]
    rfl
  · rename_i c t _ _
    cases indexArg? c with
    | none => rfl
    | some control =>
        cases indexArg? t with
        | none => rfl
        | some target =>
            show (controlledNot control target step).toOption =
              ((controlledNot control target 0).toOption).map _
            unfold controlledNot
            split <;> rfl
  · rw [Option.map_map]
    rfl
  · rfl

end Gate

/-! ## Operations of lines -/

/-- The operation that a line places, wherever the reader has come to. -/
def Operation.ofLine? (line : List Char) : Option Operation :=
  (Gate.ofLine? line 0).map (·.operation)

theorem Gate.ofLine?_eq (line : List Char) (step : Index) :
    Gate.ofLine? line step = (Operation.ofLine? line).map (⟨·, step⟩) := by
  unfold Operation.ofLine? Gate.ofLine?
  cases (Token.line? line).bind MethodCall.ofTokens? with
  | none => rfl
  | some call =>
      rw [Option.bind_some, Option.bind_some, Gate.ofCall?_eq, Option.map_map]
      rfl

theorem Operation.ofLine?_callLine (g : Gate) :
    Operation.ofLine? (Circuit.callLine g).toList = some g.operation := by
  rw [Operation.ofLine?, Gate.ofLine?_callLine]
  rfl

namespace Circuit

/-- **The gates of some lines are the operations that the lines place, one a step.** -/
theorem gatesOfLines_eq (k : Nat) (lines : List (List Char)) :
    gatesOfLines (UInt32.ofNat k) lines =
      (lines.filterMap Operation.ofLine?).mapIdx fun i op => ⟨op, UInt32.ofNat (k + i)⟩ := by
  induction lines generalizing k with
  | nil => rfl
  | cons line rest ih =>
      rw [gatesOfLines, Gate.ofLine?_eq, List.filterMap_cons]
      cases Operation.ofLine? line with
      -- A line that places nothing takes no step.
      | none => exact ih k
      | some op =>
          show _ :: gatesOfLines (UInt32.ofNat k + 1) rest = _
          rw [show UInt32.ofNat k + 1 = UInt32.ofNat (k + 1) from (UInt32.ofNat_add k 1).symm, ih,
            List.mapIdx_cons]
          simp only [Nat.add_zero, Nat.add_assoc, Nat.add_comm 1]

theorem gates_ofLines (lines : List (List Char)) :
    (ofLines lines).gates =
      (lines.filterMap Operation.ofLine?).mapIdx fun i op => ⟨op, UInt32.ofNat i⟩ := by
  have gates := gatesOfLines_eq 0 lines
  simp only [Nat.zero_add] at gates
  exact gates

end Circuit

/-! ## The head of a script -/

namespace Token

/-- The words of the first line of a script. -/
def importWords : List Word :=
  [.name "from", .blank, .name "qiskit", .blank, .name "import", .blank, .name "QuantumCircuit",
    .sign ',', .blank, .name "QuantumRegister", .sign ',', .blank, .name "ClassicalRegister"]

/-- The words of a line that makes a register. -/
def registerWords (object maker : String) (n : Index) : List Word :=
  [.name object, .blank, .sign '=', .blank, .name maker, .sign '(', .number n, .sign ')']

end Token

namespace Circuit

/-- The lines of a script before its calls. -/
def headLines (n : Index) : List String :=
  ["from qiskit import QuantumCircuit, QuantumRegister, ClassicalRegister",
    "",
    "# Create quantum registers",
    s!"qr = QuantumRegister({n})",
    s!"cr = ClassicalRegister({n})",
    "circuit = QuantumCircuit(qr, cr)",
    ""]

theorem callScript_eq (c : Circuit) :
    c.callScript = headLines c.qubitCount ++ c.gates.map callLine := rfl

theorem toList_import :
    "from qiskit import QuantumCircuit, QuantumRegister, ClassicalRegister".toList =
      spell Token.importWords := by
  decide +kernel

theorem toList_quantumRegister (n : Index) :
    (s!"qr = QuantumRegister({n})").toList = spell (Token.registerWords "qr" "QuantumRegister" n) := by
  simp [Token.registerWords, spell, Word.text, toString]

theorem toList_classicalRegister (n : Index) :
    (s!"cr = ClassicalRegister({n})").toList =
      spell (Token.registerWords "cr" "ClassicalRegister" n) := by
  simp [Token.registerWords, spell, Word.text, toString]

/-- The head of a script places no gate. -/
theorem ofLine?_headLines {n : Index} {line : String} (h : line ∈ headLines n) :
    Operation.ofLine? line.toList = none := by
  -- Two lines are empty and one is a comment. The others hold tokens and no call on the circuit.
  have silent : (Token.line? line.toList).bind MethodCall.ofTokens? = none := by
    simp only [headLines, List.mem_cons, List.not_mem_nil, or_false] at h
    rcases h with rfl | rfl | rfl | rfl | rfl | rfl | rfl
    · rw [toList_import, Token.line?_spell (by decide +kernel)]
      rfl
    · exact Option.isNone_iff_eq_none.mp (by decide +kernel)
    · exact Option.isNone_iff_eq_none.mp (by decide +kernel)
    · rw [toList_quantumRegister, Token.line?_spell rfl]
      rfl
    · rw [toList_classicalRegister, Token.line?_spell rfl]
      rfl
    · exact Option.isNone_iff_eq_none.mp (by decide +kernel)
    · exact Option.isNone_iff_eq_none.mp (by decide +kernel)
  rw [Operation.ofLine?, Gate.ofLine?, silent]
  rfl

/-- The head of a script declares the register, and nothing before the declaration does. -/
theorem findSome?_headLines (n : Index) (calls : List String) :
    ((headLines n ++ calls).map String.toList).findSome? registerSize? = some n := by
  have imports : registerSize?
      "from qiskit import QuantumCircuit, QuantumRegister, ClassicalRegister".toList = none := by
    rw [toList_import, registerSize?_spell (by decide +kernel)]
    rfl
  have empty : registerSize? "".toList = none := by decide +kernel
  have comment : registerSize? "# Create quantum registers".toList = none := by decide +kernel
  have declared : registerSize? (s!"qr = QuantumRegister({n})").toList = some n := by
    have fits : n.toNat < UInt32.size := n.toNat_lt
    rw [toList_quantumRegister, registerSize?_spell rfl]
    show registerOfTokens? [.ident "qr", .mark '=', .ident "QuantumRegister", .mark '(',
      .int n.toUInt64, .mark ')'] = some n
    simp [registerOfTokens?, fits]
  -- The search ends here, so that the lines behind the declaration do not matter.
  simp only [headLines, List.cons_append, List.map_cons, List.findSome?_cons, imports, empty,
    comment, declared]

/-! ## Lines -/

/-- A text without breaks stays on its line. -/
theorem isLine_of_noBreak {line : String} (harmless : ∀ c ∈ line.toList, c ≠ '\n' ∧ c ≠ '\r') : IsLine line := by
  constructor
  · intro breaks
    exact (harmless _ breaks).1 rfl
  · intro ends
    exact (harmless _ (List.mem_of_getLast? ends)).2 rfl

/-- What is spelt in words stays on its line. -/
theorem isLine_of_spell {line : String} {words : List Word} (h : isWritten words = true)
    (spelt : line.toList = spell words) : IsLine line := by
  apply isLine_of_noBreak
  rw [spelt]
  exact Token.noBreak_spell h

theorem isLine_callScript (c : Circuit) : ∀ line ∈ c.callScript, IsLine line := by
  intro line h
  rw [callScript_eq, List.mem_append, List.mem_map] at h
  rcases h with head | ⟨g, -, rfl⟩
  · simp only [headLines, List.mem_cons, List.not_mem_nil, or_false] at head
    rcases head with rfl | rfl | rfl | rfl | rfl | rfl | rfl
    · exact isLine_of_spell (by decide +kernel) toList_import
    · exact ⟨by decide +kernel, by decide +kernel⟩
    · exact ⟨by decide +kernel, by decide +kernel⟩
    · exact isLine_of_spell rfl (toList_quantumRegister _)
    · exact isLine_of_spell rfl (toList_classicalRegister _)
    · exact ⟨by decide +kernel, by decide +kernel⟩
    · exact ⟨by decide +kernel, by decide +kernel⟩
  · exact isLine_of_spell (Token.isWritten_callWords _) (toList_callLine g)

/-! ## Reading what was written -/

/-- The gates of a circuit in list order, one a step. It is all that a script says of a circuit. -/
def serial (c : Circuit) : Circuit where
  gates := c.gates.mapIdx fun i g => { g with step := UInt32.ofNat i }
  qubitCount := c.qubitCount
  stepCount := UInt32.ofNat c.gates.length
  name := scriptName

/-- What does not depend on steps is the same in the serial circuit. -/
theorem map_serial_gates {α : Type} (c : Circuit) {f : Gate → α}
    (stepless : ∀ (g : Gate) step, f { g with step } = f g) : c.serial.gates.map f = c.gates.map f := by
  apply List.ext_getElem
  · simp [serial]
  · intro i _ _
    simp [serial, stepless]

/-- The operations of a script are those of its calls. -/
theorem operations_callScript (c : Circuit) :
    (c.callScript.map String.toList).filterMap Operation.ofLine? = c.gates.map (·.operation) := by
  have head : ((headLines c.qubitCount).map String.toList).filterMap Operation.ofLine? = [] := by
    apply List.filterMap_eq_nil_iff.mpr
    intro line h
    obtain ⟨text, listed, rfl⟩ := List.mem_map.mp h
    exact ofLine?_headLines listed
  rw [callScript_eq, List.map_append, List.filterMap_append, head, List.nil_append, List.map_map,
    List.filterMap_map]
  simp only [Function.comp_def, Operation.ofLine?_callLine, List.filterMap_eq_map']

/-- **Reading a script that was written gives the serial circuit.** -/
theorem ofScript_toScript (c : Circuit) : ofScript (c.toScript .qiskit) .qiskit = c.serial := by
  have lines : textLines (c.toScript .qiskit) = c.callScript.map String.toList :=
    textLines_joinLines (isLine_callScript c)
  have gates : gatesOfLines 0 (c.callScript.map String.toList) = c.serial.gates := by
    have read := gates_ofLines (c.callScript.map String.toList)
    rw [operations_callScript] at read
    refine read.trans (List.ext_getElem ?_ ?_)
    · simp [serial]
    · intro i _ _
      simp [serial]
  have register : (c.callScript.map String.toList).findSome? registerSize? = some c.qubitCount := by
    rw [callScript_eq]
    exact findSome?_headLines c.qubitCount _
  show ofLines (textLines (c.toScript .qiskit)) = c.serial
  rw [lines, ofLines, gates, register]
  simp [serial]

/-- **A circuit that was read is serial already.** -/
theorem serial_ofScript (text : String) (d : Dialect) : (ofScript text d).serial = ofScript text d := by
  cases d with
  | qsharp => rfl
  | qiskit =>
      have gates : (ofLines (textLines text)).serial.gates = (ofLines (textLines text)).gates := by
        show (ofLines (textLines text)).gates.mapIdx _ = _
        rw [gates_ofLines, List.mapIdx_mapIdx]
        rfl
      exact congrArg (fun gates => { ofLines (textLines text) with gates }) gates

/-- Steps, name and description leave no trace in a script. -/
theorem toScript_serial (c : Circuit) (d : Dialect) : c.serial.toScript d = c.toScript d := by
  have calls : c.serial.gates.map callLine = c.gates.map callLine :=
    map_serial_gates c fun _ _ => rfl
  have lines : c.serial.scriptLines d = c.scriptLines d := by
    cases d with
    | qiskit =>
        show headLines c.qubitCount ++ _ = headLines c.qubitCount ++ _
        rw [calls]
    | qsharp =>
        have indented : c.serial.gates.map (fun g => "        " ++ statementLine g) =
            c.gates.map (fun g => "        " ++ statementLine g) := map_serial_gates c fun _ _ => rfl
        show c.serial.operationScript = c.operationScript
        unfold operationScript
        rw [indented]
        rfl
  rw [toScript, toScript, lines]

/-! ## There and back -/

/-- **Writing is undone by reading.**
* A circuit of fewer than `2 ^ 32` gates that is written as a script of calls is read back with its
  register, and with its gates in list order: each has its kind, its target and its control, and the
  `i`-th stands at step `i`. There are as many steps as gates, the name is that of all circuits that are
  read, and there is no description. Nothing else is asked of the circuit.
* A circuit that was read, of whatever text, is read back unchanged.
* A script that was written is written again from what is read of it. -/
theorem script_round_trip :
    (∀ c : Circuit, c.gates.length < UInt32.size →
      let p := ofScript (c.toScript .qiskit) .qiskit
      p.name = "Parsed Circuit" ∧ p.description = none ∧ p.qubitCount = c.qubitCount ∧
      p.gates.map (fun g => (g.kind, g.target, g.control?)) =
        c.gates.map (fun g => (g.kind, g.target, g.control?)) ∧
      (∀ (i : Nat) (g : Gate), p.gates[i]? = some g → g.step.toNat = i) ∧
      p.stepCount.toNat = c.gates.length) ∧
    (∀ text : String, let p := ofScript text .qiskit
      ofScript (p.toScript .qiskit) .qiskit = p) ∧
    (∀ c : Circuit, (ofScript (c.toScript .qiskit) .qiskit).toScript .qiskit = c.toScript .qiskit) := by
  refine ⟨?_, ?_, ?_⟩
  · intro c few p
    have read : p = c.serial := ofScript_toScript c
    rw [read]
    refine ⟨rfl, rfl, rfl, map_serial_gates c fun _ _ => rfl, ?_, ?_⟩
    · intro i g found
      obtain ⟨inside, rfl⟩ := List.getElem?_eq_some_iff.mp found
      have bound : i < c.gates.length := by simpa [serial] using inside
      have small : i < UInt32.size := Nat.lt_trans bound few
      simpa [serial] using small
    · exact UInt32.toNat_ofNat_of_lt few
  · intro text p
    rw [ofScript_toScript]
    exact serial_ofScript text .qiskit
  · intro c
    rw [ofScript_toScript]
    exact toScript_serial c .qiskit

/-- A circuit without a register, whose gates are listed against their steps. -/
def draft : Circuit where
  gates := [⟨.controlledNot 4294967295 0 (by decide), 7⟩, .hadamard 3 0, .measure 3 2]
  qubitCount := 0
  stepCount := 5
  name := "draft"
  description := some "not yet sound"

theorem script_round_trip_draft :
    draft.gates.length < UInt32.size ∧
    let p := ofScript (draft.toScript .qiskit) .qiskit
    p.name = "Parsed Circuit" ∧ p.description = none ∧ p.qubitCount = 0 ∧
    p.gates.map (fun g => (g.kind, g.target, g.control?)) =
      [(.controlledNot, 0, some 4294967295), (.hadamard, 3, none), (.measure, 3, none)] ∧
    (∀ (i : Nat) (g : Gate), p.gates[i]? = some g → g.step.toNat = i) ∧ p.stepCount.toNat = 3 :=
  ⟨by decide, script_round_trip.1 draft (by decide)⟩

end Circuit

end QuantumWorkbench
