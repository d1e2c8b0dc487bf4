import QuantumWorkbench.Proofs.Script.RoundTrip

/-!
# What the dialects say

One dialect is read back, so its scripts tell circuits apart as far as the reader can. The other is only written. Here
its lines are taken apart by hand: what stands before a number is fixed for each kind of gate, and no digit stands
behind it. Both dialects turn out to say the same of a circuit.

## Contents
- `digits_append_inj`: a number in a line can be told from what stands behind it.
- `Circuit.statementText`: the statement of an operation, and `Circuit.statementText_injective`.
- `Dialect.headLines`, `Dialect.gateLine`, `Dialect.footLines`: the parts of a script.
- `Circuit.toScript_eq_iff`: scripts are equal for circuits with the same register and operations.
- `Circuit.dialects_agree`: the dialects carry the same information, one line for each gate.
-/

namespace QuantumWorkbench

/-- Maps that tell the same elements apart tell the same lists apart. -/
theorem map_eq_map_iff {α β γ : Type} {f : α → β} {k : α → γ} (alike : ∀ a b, f a = f b ↔ k a = k b)
    {l l' : List α} : l.map f = l'.map f ↔ l.map k = l'.map k := by
  induction l generalizing l' with
  | nil => simp [eq_comm]
  | cons a rest ih =>
      cases l' with
      | nil => simp
      | cons b rest' => simp only [List.map_cons, List.cons.injEq, alike, ih]

/-! ## Numbers in a line -/

/-- An index in decimal digits. -/
def digits (q : Index) : List Char := Nat.toDigits 10 q.toNat

theorem isDigit_digits (q : Index) : ∀ c ∈ digits q, c.isDigit = true := fun _ h =>
  Nat.isDigit_of_mem_toDigits (by decide) (by decide) h

theorem toList_toString_index (q : Index) : (toString q).toList = digits q := Nat.toList_repr

/-- **A number ends where no digit follows**: it and what stands behind it are known from the whole. -/
theorem digits_append_inj {m n : Index} {s t : List Char} (stop : ∀ c ∈ s.head?, c.isDigit = false)
    (stop' : ∀ c ∈ t.head?, c.isDigit = false) (same : digits m ++ s = digits n ++ t) : m = n ∧ s = t := by
  have runs : digits m = digits n := by
    rw [← Token.takeWhile_of_stop (isDigit_digits m) stop, same, Token.takeWhile_of_stop (isDigit_digits n) stop']
  have values : m.toNat = n.toNat := by
    have read := congrArg (Nat.ofDigitChars 10 · 0) runs
    rwa [digits, digits, Nat.ofDigitChars_ten_toDigits, Nat.ofDigitChars_ten_toDigits] at read
  rw [runs] at same
  exact ⟨UInt32.toNat_inj.mp values, List.append_cancel_left same⟩

/-- A character that ends no line. -/
def isInline (c : Char) : Bool := c ≠ '\n' ∧ c ≠ '\r'

theorem isLine_of_all {line : String} (h : line.toList.all isInline = true) : IsLine line :=
  Circuit.isLine_of_noBreak fun c hc => of_decide_eq_true (List.all_eq_true.mp h c hc)

@[simp] theorem all_isInline_digits (q : Index) : (digits q).all isInline = true := by
  refine List.all_eq_true.mpr fun c hc => decide_eq_true ⟨?_, ?_⟩
  · rintro rfl
    exact absurd (isDigit_digits q _ hc) (by decide)
  · rintro rfl
    exact absurd (isDigit_digits q _ hc) (by decide)

namespace Circuit

/-! ## Statements -/

/-- The characters of the statement that applies an operation. -/
def statementText : Operation → List Char
  | .hadamard q => "H(qubits[".toList ++ (digits q ++ "]);".toList)
  | .pauliX q => "X(qubits[".toList ++ (digits q ++ "]);".toList)
  | .controlledNot c t _ => "CNOT(qubits[".toList ++ (digits c ++ ("], qubits[".toList ++ (digits t ++ "]);".toList)))
  | .measure q => "set results w/= ".toList ++ (digits q ++ (" <- M(qubits[".toList ++ (digits q ++ "]);".toList)))

theorem toList_statementLine (g : Gate) : (statementLine g).toList = statementText g.operation := by
  obtain ⟨op, step⟩ := g
  cases op <;>
    · simp only [statementLine, String.toList_append, toList_toString_index, List.append_assoc]
      rfl

/-- The first letter of the statements of a kind. -/
def initial : GateKind → Char
  | .hadamard => 'H'
  | .pauliX => 'X'
  | .controlledNot => 'C'
  | .measure => 's'

theorem head?_statementText (op : Operation) : (statementText op).head? = some (initial op.kind) := by
  cases op <;> rfl

/-- **A statement says which operation it applies**: its first letter tells the kind, and behind each number stands
no digit. -/
theorem statementText_injective {a b : Operation} (same : statementText a = statementText b) : a = b := by
  have initials : some (initial a.kind) = some (initial b.kind) := by
    rw [← head?_statementText, same, head?_statementText]
  have closing : ∀ c ∈ "]);".toList.head?, c.isDigit = false := by simp
  have between : ∀ s, ∀ c ∈ ("], qubits[".toList ++ s).head?, c.isDigit = false := by simp
  have arrow : ∀ s, ∀ c ∈ (" <- M(qubits[".toList ++ s).head?, c.isDigit = false := by simp
  cases a with
  | hadamard q =>
      cases b with
      | hadamard q' =>
          obtain ⟨rfl, -⟩ := digits_append_inj closing closing (List.append_cancel_left same)
          rfl
      | _ => cases initials
  | pauliX q =>
      cases b with
      | pauliX q' =>
          obtain ⟨rfl, -⟩ := digits_append_inj closing closing (List.append_cancel_left same)
          rfl
      | _ => cases initials
  | controlledNot c t ne =>
      cases b with
      | controlledNot c' t' ne' =>
          obtain ⟨rfl, targets⟩ := digits_append_inj (between _) (between _) (List.append_cancel_left same)
          obtain ⟨rfl, -⟩ := digits_append_inj closing closing (List.append_cancel_left targets)
          rfl
      | _ => cases initials
  | measure q =>
      cases b with
      | measure q' =>
          obtain ⟨rfl, -⟩ := digits_append_inj (arrow _) (arrow _) (List.append_cancel_left same)
          rfl
      | _ => cases initials

/-- The statements stay on their lines. -/
theorem all_isInline_statementText (op : Operation) : (statementText op).all isInline = true := by
  unfold statementText
  cases op <;> simp only [List.all_append, all_isInline_digits] <;> decide +kernel

end Circuit

/-! ## Scripts -/

namespace Dialect

/-- The lines of a script before its gates. -/
def headLines : Dialect → Index → List String
  | qiskit, n => Circuit.headLines n
  | qsharp, n =>
    ["namespace QuantumProgram \x7b",
      "    open Microsoft.Quantum.Canon;",
      "    open Microsoft.Quantum.Intrinsic;",
      "",
      "    operation RunCircuit() : Result[] \x7b",
      s!"        use qubits = Qubit[{n}];",
      s!"        mutable results = new Result[{n}];",
      ""]

/-- The line of a gate. -/
def gateLine : Dialect → Gate → String
  | qiskit, g => Circuit.callLine g
  | qsharp, g => "        " ++ Circuit.statementLine g

/-- The lines behind the gates. -/
def footLines : Dialect → List String
  | qiskit => []
  | qsharp => ["", "        return results;", "    \x7d", "\x7d"]

theorem toList_gateLine_qsharp (g : Gate) :
    (gateLine .qsharp g).toList = "        ".toList ++ Circuit.statementText g.operation := by
  rw [gateLine, String.toList_append, Circuit.toList_statementLine]

/-- The declarations of the register and of the results have the number of qubits in them. -/
theorem toList_use (n : Index) :
    (s!"        use qubits = Qubit[{n}];").toList = "        use qubits = Qubit[".toList ++ (digits n ++ "];".toList) := by
  simp only [String.toList_append, toList_toString_index, List.append_assoc]
  rfl

theorem toList_mutable (n : Index) :
    (s!"        mutable results = new Result[{n}];").toList =
      "        mutable results = new Result[".toList ++ (digits n ++ "];".toList) := by
  simp only [String.toList_append, toList_toString_index, List.append_assoc]
  rfl

/-- **A gate line says which operation it applies**, in either dialect. -/
theorem gateLine_eq_iff (d : Dialect) {g h : Gate} : d.gateLine g = d.gateLine h ↔ g.operation = h.operation := by
  obtain ⟨a, _⟩ := g
  obtain ⟨b, _⟩ := h
  constructor
  · intro same
    cases d with
    | qiskit =>
        have read := congrArg (fun line => Operation.ofLine? line.toList) same
        simpa only [gateLine, Operation.ofLine?_callLine, Option.some.injEq] using read
    | qsharp =>
        have text := congrArg String.toList same
        rw [toList_gateLine_qsharp, toList_gateLine_qsharp] at text
        exact Circuit.statementText_injective (List.append_cancel_left text)
  · rintro rfl
    cases d <;> rfl

/-- The register is known from the head. -/
theorem headLines_injective (d : Dialect) {m n : Index} (same : d.headLines m = d.headLines n) : m = n := by
  cases d with
  | qiskit =>
      have read := Circuit.findSome?_headLines m []
      rw [show Circuit.headLines m = Circuit.headLines n from same, Circuit.findSome?_headLines] at read
      exact (Option.some.inj read).symm
  | qsharp =>
      have sixth : (headLines .qsharp m)[5]? = (headLines .qsharp n)[5]? := by rw [same]
      have used := congrArg String.toList (Option.some.inj sixth)
      rw [toList_use, toList_use] at used
      have stop : ∀ c ∈ "];".toList.head?, c.isDigit = false := by simp
      exact (digits_append_inj stop stop (List.append_cancel_left used)).1

theorem length_headLines (d : Dialect) (m n : Index) : (d.headLines m).length = (d.headLines n).length := by
  cases d <;> rfl

/-- The letters that a gate line starts with stand at the ninth place, where the other lines have others. -/
theorem ninth_gateLine_qsharp (g : Gate) :
    (gateLine .qsharp g).toList[8]? = some (Circuit.initial g.kind) := by
  rw [toList_gateLine_qsharp, List.getElem?_append_right (by decide)]
  exact List.head?_eq_getElem?.symm.trans (Circuit.head?_statementText g.operation)

theorem ninths_fixed_qsharp (n : Index) :
    (headLines .qsharp n ++ footLines .qsharp).map (·.toList[8]?) =
      [some 'e', some ' ', some ' ', none, some 'a', some 'u', some 'm', none, none, some 'r', none, none] := by
  simp only [headLines, footLines, List.cons_append, List.nil_append, List.map_cons, List.map_nil, toList_use,
    toList_mutable]
  rfl

theorem all_isInline_fixed_qsharp (n : Index) :
    (headLines .qsharp n ++ footLines .qsharp).all (·.toList.all isInline) = true := by
  simp only [headLines, footLines, List.cons_append, List.nil_append, List.all_cons, toList_use, toList_mutable,
    List.all_append, all_isInline_digits]
  decide +kernel

/-- **No fixed line is a gate line.** -/
theorem gateLine_not_mem (d : Dialect) (g : Gate) (n : Index) : d.gateLine g ∉ d.headLines n ++ d.footLines := by
  intro fixed
  cases d with
  | qiskit =>
      rw [footLines, List.append_nil] at fixed
      have silent : Operation.ofLine? (Circuit.callLine g).toList = none := Circuit.ofLine?_headLines fixed
      rw [Operation.ofLine?_callLine] at silent
      cases silent
  | qsharp =>
      have listed := List.mem_map_of_mem (f := fun line : String => line.toList[8]?) fixed
      rw [ninth_gateLine_qsharp, ninths_fixed_qsharp] at listed
      revert listed
      cases g.kind <;> decide

end Dialect

namespace Circuit

variable {c c₁ c₂ : Circuit}

theorem scriptLines_eq (c : Circuit) (d : Dialect) :
    c.scriptLines d = d.headLines c.qubitCount ++ c.gates.map d.gateLine ++ d.footLines := by
  cases d with
  | qiskit => exact (List.append_nil _).symm
  | qsharp => rfl

theorem isLine_scriptLines (c : Circuit) (d : Dialect) : ∀ line ∈ c.scriptLines d, IsLine line := by
  cases d with
  | qiskit => exact isLine_callScript c
  | qsharp =>
      intro line h
      rw [scriptLines_eq, List.append_assoc, List.mem_append, List.mem_append, List.mem_map] at h
      have fixed := List.all_eq_true.mp (Dialect.all_isInline_fixed_qsharp c.qubitCount)
      apply isLine_of_all
      rcases h with head | ⟨g, -, rfl⟩ | foot
      · exact fixed line (List.mem_append_left _ head)
      · rw [Dialect.toList_gateLine_qsharp, List.all_append, all_isInline_statementText]
        decide +kernel
      · exact fixed line (List.mem_append_right _ foot)

/-- The lines of a script are those that were joined. -/
theorem textLines_toScript (c : Circuit) (d : Dialect) :
    textLines (c.toScript d) = (c.scriptLines d).map String.toList :=
  textLines_joinLines (isLine_scriptLines c d)

/-- **A script says the register and the operations**, nothing less and nothing more. -/
theorem toScript_eq_iff (d : Dialect) :
    c₁.toScript d = c₂.toScript d ↔
      c₁.qubitCount = c₂.qubitCount ∧ c₁.gates.map (·.operation) = c₂.gates.map (·.operation) := by
  have alike : c₁.gates.map d.gateLine = c₂.gates.map d.gateLine ↔
      c₁.gates.map (·.operation) = c₂.gates.map (·.operation) := map_eq_map_iff fun _ _ => d.gateLine_eq_iff
  rw [← alike]
  constructor
  · intro same
    have texts := congrArg textLines same
    rw [textLines_toScript, textLines_toScript] at texts
    have lines := (List.map_inj_right fun _ _ => String.toList_inj.mp).mp texts
    rw [scriptLines_eq, scriptLines_eq, List.append_assoc, List.append_assoc] at lines
    obtain ⟨heads, rest⟩ := List.append_inj lines (d.length_headLines _ _)
    exact ⟨d.headLines_injective heads, List.append_cancel_right rest⟩
  · rintro ⟨qubits, calls⟩
    rw [toScript, toScript, scriptLines_eq, scriptLines_eq, qubits, calls]

/-- **The two dialects carry the same information.**
* The scripts of two circuits in one dialect are equal if and only if those in the other are, and if and only if the
  circuits have the same register and the same sequence of kinds, controls and targets.
* A script consists of the lines of the gates in list order, one for each, between a head and a foot, with a line feed
  behind each line. None of them breaks apart. The head depends on the size of the register only, the foot on nothing,
  and neither has a line that any gate could have. -/
theorem dialects_agree :
    (∀ c₁ c₂ : Circuit,
      (c₁.toScript .qsharp = c₂.toScript .qsharp ↔ c₁.toScript .qiskit = c₂.toScript .qiskit) ∧
      (c₁.toScript .qiskit = c₂.toScript .qiskit ↔
        c₁.qubitCount = c₂.qubitCount ∧
          c₁.gates.map (fun g => (g.kind, g.control?, g.target)) =
            c₂.gates.map (fun g => (g.kind, g.control?, g.target)))) ∧
    ∀ (c : Circuit) (d : Dialect),
      let lines := d.headLines c.qubitCount ++ c.gates.map d.gateLine ++ d.footLines
      c.toScript d = joinLines lines ∧ textLines (c.toScript d) = lines.map String.toList ∧
      ∀ g, d.gateLine g ∉ d.headLines c.qubitCount ∧ d.gateLine g ∉ d.footLines := by
  refine ⟨fun c₁ c₂ => ⟨?_, ?_⟩, fun c d => ⟨?_, ?_, fun g => ?_⟩⟩
  · rw [toScript_eq_iff, toScript_eq_iff]
  · have parts : ∀ g h : Gate, g.operation = h.operation ↔
        (g.kind, g.control?, g.target) = (h.kind, h.control?, h.target) := by
      intro g h
      constructor
      · intro same
        simp only [Gate.kind, Gate.control?, Gate.target, same]
      · intro same
        simp only [Prod.mk.injEq] at same
        exact Operation.ext_parts same.1 same.2.2 same.2.1
    rw [toScript_eq_iff, map_eq_map_iff parts]
  · rw [toScript, scriptLines_eq]
  · rw [textLines_toScript, scriptLines_eq]
  · have apart := d.gateLine_not_mem g c.qubitCount
    rwa [List.mem_append, not_or] at apart

end Circuit

end QuantumWorkbench
