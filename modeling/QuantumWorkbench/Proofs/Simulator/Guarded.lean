import Mathlib.Data.Nat.Bitwise
import QuantumWorkbench.Proofs.Circuit.Inside
import QuantumWorkbench.Proofs.Simulator.Outcomes
import QuantumWorkbench.Proofs.Simulator.Pairs

/-!
# The simulation with guards

The simulator indexes its vector by basis states of the register, so that an index beyond the end cannot be written
down, and leaves out gates that act outside. Here the same simulation works on an array and on machine words. Each
shift and each access is guarded, and the whole comes to nothing as soon as one of them is out of range.

## Contents
- `Guarded.bit?`, `Guarded.write?`: a shift and a write with their guards.
- `Guarded.operate?`, `Guarded.probabilityOne?`, `Guarded.sample?`, `Guarded.bitText?`: the parts of the simulation,
  each with the law that it comes to what the simulator computes.
- `Guarded.run?`: the simulation. `Guarded.answer?` puts the check before it.
- `Guarded.operate?_beyond`: a gate outside the register meets a guard.
- `Guarded.run?_eq`: on registers that a word has bits for, circuits inside the register meet no guard.
-/

namespace QuantumWorkbench.Guarded

/-! ## Words and arrays -/

/-- The bits of a machine word. -/
def wordBits : Nat := 64

/-- The word with bit `k` set. A word cannot be shifted by as many bits as it has. -/
def bit? (k : Nat) : Option Nat := if k < wordBits then some (1 <<< k) else none

/-- The bit `k` of a word. -/
def testBit? (word k : Nat) : Option Bool := if k < wordBits then some (word >>> k &&& 1 = 1) else none

/-- Replaces an amplitude. There is none beyond the end. -/
def write? (amps : Array Amplitude) (i : Nat) (a : Amplitude) : Option (Array Amplitude) :=
  if h : i < amps.size then some (amps.set i a h) else none

theorem bit?_eq {k : Nat} (fits : k < wordBits) : bit? k = some (basisCount k) := by
  rw [bit?, if_pos fits, Nat.one_shiftLeft]
  rfl

theorem testBit?_eq {k : Nat} (fits : k < wordBits) (word : Nat) : testBit? word k = some (word.testBit k) := by
  have same : (word >>> k &&& 1 = 1) ↔ word.testBit k = true := by
    simp only [Nat.testBit, Nat.and_comm 1, Nat.and_one_is_mod, bne_iff_ne, ne_eq]
    omega
  simp only [testBit?, if_pos fits, same, Bool.decide_eq_true]

theorem write?_toArray {n : Nat} (v : Statevector n) (i : Fin (basisCount n)) (a : Amplitude) :
    write? v.toArray i a = some (v.set i.val a i.isLt).toArray := by
  have inside : i.val < v.toArray.size := by
    rw [v.size_toArray]
    exact i.isLt
  rw [write?, dif_pos inside, Vector.toArray_set]

theorem getElem?_toArray {n : Nat} (v : Statevector n) (i : Fin (basisCount n)) :
    v.toArray[i.val]? = some (v.get i) := by
  rw [Vector.getElem?_toArray, Vector.getElem?_eq_getElem i.isLt]
  rfl

/-- A bit is clear if the word has nothing in common with the word of that bit alone. -/
theorem and_basisCount_eq_zero_iff {i q : Nat} : i &&& basisCount q = 0 ↔ i.testBit q = false := by
  rw [show i &&& basisCount q = (i.testBit q).toNat * 2 ^ q from Nat.and_two_pow i q]
  cases i.testBit q with
  | false => simp
  | true => simp

/-! ## Loops -/

/-- A loop with guards that are not met does what the loop without them does, seen through a view of its state. -/
theorem foldlM_eq_some {α β γ : Type} (view : β → γ) {f : β → α → β} {f? : γ → α → Option γ} {l : List α}
    (turn : ∀ b, ∀ a ∈ l, f? (view b) a = some (view (f b a))) (b : β) :
    l.foldlM f? (view b) = some (view (l.foldl f b)) := by
  induction l generalizing b with
  | nil => rfl
  | cons a rest ih =>
      rw [List.foldlM_cons, turn b a List.mem_cons_self, List.foldl_cons]
      exact ih (fun b a ha => turn b a (List.mem_cons_of_mem _ ha)) (f b a)

theorem mapM_eq_some {α β : Type} {f : α → β} {f? : α → Option β} {l : List α}
    (turn : ∀ a ∈ l, f? a = some (f a)) : l.mapM f? = some (l.map f) := by
  induction l with
  | nil => rfl
  | cons a rest ih =>
      rw [List.mapM_cons, turn a List.mem_cons_self, ih fun b hb => turn b (List.mem_cons_of_mem a hb)]
      rfl

/-- A loop over the basis states of a register goes through all places of an array of that size. -/
theorem foldlM_basis {β γ : Type} (view : β → γ) {m : Nat} {f : β → Fin m → β} {f? : γ → Nat → Option γ}
    (turn : ∀ b i, f? (view b) i.val = some (view (f b i))) (b : β) :
    (List.range m).foldlM f? (view b) = some (view (Fin.foldl m f b)) := by
  induction m with
  | zero =>
      rw [Fin.foldl_zero]
      rfl
  | succ m ih =>
      have last := turn (Fin.foldl m (fun b i => f b i.castSucc) b) (Fin.last m)
      rw [List.range_succ, List.foldlM_append, ih fun b i => turn b i.castSucc, Fin.foldl_succ_last, ← last]
      exact bind_pure (f? _ m)

/-! ## Gates -/

/-- Handles the pair of basis states that starts at `i`, if the bit of the mask is clear in `i`. -/
def mapPair? (f : Nat → Amplitude → Amplitude → Amplitude × Amplitude) (mask : Nat) (amps : Array Amplitude)
    (i : Nat) : Option (Array Amplitude) :=
  if i &&& mask = 0 then do
    let j := i ||| mask
    let (a, b) := f i (← amps[i]?) (← amps[j]?)
    write? (← write? amps i a) j b
  else some amps

def mapPairs? (f : Nat → Amplitude → Amplitude → Amplitude × Amplitude) (mask : Nat) (amps : Array Amplitude) :
    Option (Array Amplitude) :=
  (List.range amps.size).foldlM (mapPair? f mask) amps

/-- The effect of an operation. The qubit of a measurement is not looked at. -/
def operate? (amps : Array Amplitude) : Operation → Option (Array Amplitude)
  | .hadamard q => do
    let mask ← bit? q.toNat
    mapPairs? (fun _ a b => ((a.add b).scale Statevector.invSqrtTwo, (a.sub b).scale Statevector.invSqrtTwo)) mask amps
  | .pauliX q => do
    let mask ← bit? q.toNat
    mapPairs? (fun _ a b => (b, a)) mask amps
  | .controlledNot c t _ => do
    let control ← bit? c.toNat
    let mask ← bit? t.toNat
    mapPairs? (fun i a b => if i &&& control = 0 then (a, b) else (b, a)) mask amps
  | .measure _ => some amps

/-- The register with all qubits certainly `0`. -/
def ground? (n : Nat) : Option (Array Amplitude) := do
  let size ← bit? n
  write? (Array.replicate size .zero) 0 .one

section
variable {n : Nat} (f : Nat → Amplitude → Amplitude → Amplitude × Amplitude) (q : Fin n)

theorem mapPair?_eq (v : Statevector n) (i : Fin (basisCount n)) :
    mapPair? f (basisCount q) v.toArray i = some (Statevector.mapPair f q v i).toArray := by
  unfold mapPair? Statevector.mapPair
  by_cases clear : i.val.testBit q = false
  · let pair := f i (v.get i) (v.get (Statevector.withBit i q))
    -- The partner is the basis state with the bit set, which the register has as well.
    have partner : v.toArray[i.val ||| basisCount q]? = some (v.get (Statevector.withBit i q)) :=
      getElem?_toArray v (Statevector.withBit i q)
    have first : write? v.toArray i pair.1 = some (v.set i pair.1).toArray := write?_toArray v i pair.1
    have second : write? (v.set i pair.1).toArray (i.val ||| basisCount q) pair.2 =
        some ((v.set i pair.1).set (Statevector.withBit i q) pair.2).toArray :=
      write?_toArray (v.set i pair.1) (Statevector.withBit i q) pair.2
    rw [if_pos (and_basisCount_eq_zero_iff.mpr clear), clear]
    simp only [getElem?_toArray, partner, Option.bind_eq_bind, Option.bind_some]
    exact (congrArg (·.bind fun amps => write? amps (i.val ||| basisCount q) pair.2) first).trans second
  · rw [if_neg fun none_shared => clear (and_basisCount_eq_zero_iff.mp none_shared),
      if_pos (eq_true_of_ne_false clear)]

theorem mapPairs?_eq (v : Statevector n) :
    mapPairs? f (basisCount q) v.toArray = some (Statevector.mapPairs f q v).toArray := by
  rw [mapPairs?, v.size_toArray]
  exact foldlM_basis Vector.toArray (mapPair?_eq f q) v

end

/-- The partner of the first basis state lies beyond the end, if its bit is none of the register's. -/
theorem mapPairs?_beyond {n q : Nat} (f : Nat → Amplitude → Amplitude → Amplitude × Amplitude) (beyond : n ≤ q)
    (v : Statevector n) : mapPairs? f (basisCount q) v.toArray = none := by
  have missing : v.toArray[0 ||| basisCount q]? = none := by
    rw [Nat.zero_or]
    refine Array.getElem?_eq_none ?_
    rw [v.size_toArray]
    exact Nat.pow_le_pow_right (by decide) beyond
  have first : mapPair? f (basisCount q) v.toArray 0 = none := by
    rw [mapPair?, if_pos (Nat.zero_and _)]
    simp only [missing]
    cases v.toArray[0]? with
    | none => rfl
    | some a => rfl
  obtain ⟨others, places⟩ : ∃ others, List.range (basisCount n) = 0 :: others := by
    obtain ⟨k, size⟩ := Nat.exists_eq_succ_of_ne_zero (Nat.ne_of_gt (Nat.two_pow_pos n))
    exact ⟨_, (congrArg List.range size).trans List.range_succ_eq_map⟩
  rw [mapPairs?, v.size_toArray, places, List.foldlM_cons, first]
  rfl

/-- **The guards are met by every gate that turns a qubit outside the register.** -/
theorem operate?_beyond {n : Nat} {op : Operation} (turns : op.kind ≠ .measure) (beyond : n ≤ op.target.toNat)
    (v : Statevector n) : operate? v.toArray op = none := by
  have guarded : ∀ f, (bit? op.target.toNat).bind (mapPairs? f · v.toArray) = none := by
    intro f
    by_cases fits : op.target.toNat < wordBits
    · rw [bit?_eq fits]
      exact mapPairs?_beyond f beyond v
    · rw [bit?, if_neg fits]
      rfl
  cases op with
  | measure q => exact absurd rfl turns
  | hadamard q => exact guarded _
  | pauliX q => exact guarded _
  | controlledNot c t ne =>
      rw [operate?]
      cases bit? c.toNat with
      | none => rfl
      | some control => exact guarded _

section
variable {n : Nat} (small : n < wordBits)
include small

/-- **A gate inside the register meets no guard.** -/
theorem operate?_eq {op : Operation} (inside : ∀ q ∈ op.qubits, q.toNat < n) (v : Statevector n) :
    operate? v.toArray op = some (v.apply op).toArray := by
  have qubit : ∀ q ∈ op.qubits, bit? q.toNat = some (basisCount q.toNat) ∧
      ∃ place : Fin n, Statevector.qubit? n q = some place ∧ place.val = q.toNat := fun q hq =>
    ⟨bit?_eq (Nat.lt_trans (inside q hq) small), ⟨q.toNat, inside q hq⟩, dif_pos (inside q hq), rfl⟩
  cases op with
  | measure q => rfl
  | hadamard q =>
      obtain ⟨shift, place, here, value⟩ := qubit q List.mem_cons_self
      rw [operate?, shift, Statevector.apply, here, ← value]
      exact mapPairs?_eq _ place v
  | pauliX q =>
      obtain ⟨shift, place, here, value⟩ := qubit q List.mem_cons_self
      rw [operate?, shift, Statevector.apply, here, ← value]
      exact mapPairs?_eq _ place v
  | controlledNot c t ne =>
      obtain ⟨shift, control, here, value⟩ := qubit c List.mem_cons_self
      obtain ⟨shift', target, there, value'⟩ := qubit t (List.mem_cons_of_mem c List.mem_cons_self)
      have swaps : (fun (i : Nat) (a b : Amplitude) => if i &&& basisCount control = 0 then (a, b) else (b, a)) =
          fun i a b => if i.testBit control then (b, a) else (a, b) := by
        funext i a b
        simp only [and_basisCount_eq_zero_iff]
        cases i.testBit control.val <;> rfl
      rw [← value] at shift
      rw [← value'] at shift'
      simp only [operate?, ← value, ← value', shift, shift', Statevector.apply, here, there, Option.bind_eq_bind,
        Option.bind_some, swaps]
      exact mapPairs?_eq _ target v

theorem ground?_eq : ground? n = some (Statevector.ground n).toArray := by
  rw [ground?, bit?_eq small]
  exact write?_toArray (Vector.replicate (basisCount n) Amplitude.zero) ⟨0, Nat.two_pow_pos n⟩ Amplitude.one

end

/-! ## Readout -/

/-- The probability of reading `1` on a qubit. -/
def probabilityOne? (amps : Array Amplitude) (q : Nat) : Option Float := do
  let mask ← bit? q
  (List.range amps.size).foldlM
    (fun sum i => if i &&& mask = 0 then some sum else do return sum + (← amps[i]?).normSq) 0.0

/-- The qubits by themselves. -/
def qubitStates? (amps : Array Amplitude) (n : Nat) : Option (List QubitState) :=
  (List.range n).mapM fun q => do
    let p := Statevector.clampUnit (← probabilityOne? amps q)
    return { qubit := UInt32.ofNat q, zero := (1.0 - p).sqrt, one := p.sqrt }

/-- Goes on through the places in a list. Behind the last of them stands the last place of all, if there is one. -/
def scan? (amps : Array Amplitude) (draw : Float) : Float → List Nat → Option Nat
  | _, [] => if amps.size = 0 then none else some (amps.size - 1)
  | before, i :: rest => do
    let sum := before + (← amps[i]?).normSq
    if draw < sum then return i else scan? amps draw sum rest

/-- The basis state that a number selects. -/
def sample? (amps : Array Amplitude) (draw : Float) : Option Nat := scan? amps draw 0.0 (List.range amps.size)

/-- The bits of `qubits` in a basis state, the last qubit first. -/
def bitText? (qubits : List Nat) (basis : Nat) : Option String :=
  (qubits.reverse.mapM fun q => (testBit? basis q).map bitLetter).map String.ofList

/-- Counts the outcomes of the shots. -/
def countOutcomes? (qubits : List Nat) (shots : Nat) (basis? : Nat → Option Nat) : Option Counts :=
  (List.range shots).foldlM (fun counts k => do return counts.add (← bitText? qubits (← basis? k))) .empty

section
variable {n : Nat} (small : n < wordBits)

include small in
theorem probabilityOne?_eq (v : Statevector n) (q : Fin n) :
    probabilityOne? v.toArray q = some (v.probabilityOne q) := by
  rw [probabilityOne?, bit?_eq (Nat.lt_trans q.isLt small), Option.bind_eq_bind, Option.bind_some, v.size_toArray]
  refine foldlM_basis id (fun sum i => ?_) 0.0
  by_cases clear : i.val.testBit q = false
  · rw [if_pos (and_basisCount_eq_zero_iff.mpr clear), clear]
    rfl
  · rw [if_neg fun none_shared => clear (and_basisCount_eq_zero_iff.mp none_shared), getElem?_toArray,
      if_pos (eq_true_of_ne_false clear)]
    rfl

include small in
theorem qubitStates?_eq (v : Statevector n) : qubitStates? v.toArray n = some v.qubitStates := by
  rw [qubitStates?, ← List.map_coe_finRange_eq_range, List.mapM_map]
  refine mapM_eq_some fun q _ => ?_
  rw [Function.comp_apply, probabilityOne?_eq small]
  rfl

theorem scan?_eq (v : Statevector n) (draw : Float) {ahead i : Nat} (h : i + ahead = basisCount n) (before : Float) :
    scan? v.toArray draw before (List.range' i ahead) = some (v.sampleFrom draw before i) := by
  induction ahead generalizing i before with
  | zero =>
      have size : v.toArray.size = i := by
        rw [v.size_toArray, ← h, Nat.add_zero]
      have filled : ¬ i = 0 := by
        have room : 0 < basisCount n := Nat.two_pow_pos n
        omega
      rw [Statevector.sampleFrom, dif_neg (by omega), List.range'_zero, scan?, size, if_neg filled]
  | succ ahead ih =>
      have within : i < basisCount n := by omega
      have here := v.sampleFrom_eq draw before ⟨i, within⟩
      rw [List.range'_succ, scan?, getElem?_toArray v ⟨i, within⟩, here]
      show (if draw < before + (v.get ⟨i, within⟩).normSq then some i else _) = _
      split
      · rfl
      · exact ih (by omega) _

theorem sample?_eq (v : Statevector n) (draw : Float) : sample? v.toArray draw = some (v.sample draw) := by
  rw [sample?, v.size_toArray, List.range_eq_range']
  exact scan?_eq v draw (Nat.zero_add _) 0.0

theorem bitText?_eq {qubits : List Nat} (small : ∀ q ∈ qubits, q < wordBits) (basis : Nat) :
    bitText? qubits basis = some (bitText qubits basis) := by
  have letters : (qubits.reverse.mapM fun q => (testBit? basis q).map bitLetter) =
      some (qubits.reverse.map fun q => bitLetter (basis.testBit q)) := by
    refine mapM_eq_some fun q hq => ?_
    rw [testBit?_eq (small q (List.mem_reverse.mp hq))]
    rfl
  rw [bitText?, letters]
  rfl

theorem countOutcomes?_eq {qubits : List Nat} (small : ∀ q ∈ qubits, q < wordBits) (shots : Nat)
    {basis? : Nat → Option Nat} {basis : Nat → Nat} (found : ∀ k, basis? k = some (basis k)) :
    countOutcomes? qubits shots basis? = some (countOutcomes qubits shots basis) := by
  induction shots with
  | zero => rfl
  | succ shots ih =>
      rw [countOutcomes?] at ih ⊢
      rw [List.range_succ, List.foldlM_append, ih, countOutcomes_succ]
      simp only [Option.bind_eq_bind, Option.bind_some, List.foldlM_cons, found, bitText?_eq small]
      rfl

end

/-! ## The simulation -/

/-- The array behind the last gate. -/
def finalState? (c : Circuit) : Option (Array Amplitude) := do
  c.schedule.foldlM (fun amps g => operate? amps g.operation) (← ground? c.qubitCount.toNat)

/-- The counts of the measured qubits. Without measurements no shots are taken. -/
def measurements? (s : Simulator) (c : Circuit) (amps : Array Amplitude) : Option Counts :=
  if c.measuredQubits.isEmpty then some .empty
  else countOutcomes? c.measuredQubits s.shots.toNat fun k => sample? amps (s.draws k)

/-- Simulates a circuit. -/
def run? (s : Simulator) (c : Circuit) : Option Evaluation := do
  let final ← finalState? c
  return { states := ← qubitStates? final c.qubitCount.toNat, measurements := ← measurements? s c final }

/-- The answer to a circuit that is simulated in some way. What the check refuses is not simulated at all. -/
def answer? (s : Simulator) (c : Circuit) (simulation : Option Evaluation) : Option Answer :=
  match s.check c with
  | .error fault => some (.error (.invalidCircuit fault))
  | .ok () => simulation.map .ok

section
variable {c : Circuit} (small : c.qubitCount.toNat < wordBits)
include small

theorem finalState?_eq (inside : ∀ g ∈ c.gates, g.Inside c.qubitCount) :
    finalState? c = some c.finalState.toArray := by
  have gates : ∀ (v : Statevector c.qubitCount.toNat), ∀ g ∈ c.schedule,
      operate? v.toArray g.operation = some (v.apply g.operation).toArray := by
    intro v g hg
    refine operate?_eq small (fun q hq => ?_) v
    exact UInt32.lt_iff_toNat_lt.mp (inside g (List.mem_mergeSort.mp hg) q hq)
  rw [finalState?, ground?_eq small]
  exact foldlM_eq_some Vector.toArray gates (Statevector.ground c.qubitCount.toNat)

theorem measurements?_eq (s : Simulator) :
    measurements? s c c.finalState.toArray = some (s.run c).measurements := by
  have measured : ∀ q ∈ c.measuredQubits, q < wordBits := by
    intro q hq
    exact Nat.lt_trans (List.mem_range.mp (List.mem_filter.mp hq).1) small
  rw [measurements?, Simulator.run]
  split
  · rfl
  · exact countOutcomes?_eq measured _ fun k => sample?_eq c.finalState (s.draws k)

/-- **A circuit inside its register meets no guard**, if a word has a bit for each qubit and one more. -/
theorem run?_eq (s : Simulator) (inside : ∀ g ∈ c.gates, g.Inside c.qubitCount) : run? s c = some (s.run c) := by
  simp only [run?, finalState?_eq small inside, qubitStates?_eq small, measurements?_eq small, Option.bind_eq_bind,
    Option.bind_some]
  rfl

end

variable {s : Simulator} {c : Circuit}

/-- What is accepted is answered with the simulation. -/
theorem answer?_of_ok {answer : Evaluation} (accepted : s.evaluate c = .ok answer) (simulation : Option Evaluation) :
    answer? s c simulation = simulation.map .ok := by
  rw [answer?, (Simulator.evaluate_eq_ok_iff.mp accepted).1]

/-- What is refused is refused whatever a simulation would have been. -/
theorem answer?_of_error {error : EvaluatorError} (refused : s.evaluate c = .error error)
    (simulation : Option Evaluation) : answer? s c simulation = some (.error error) := by
  obtain ⟨fault, found, rfl⟩ := Simulator.evaluate_eq_error_iff.mp refused
  rw [answer?, found]

end QuantumWorkbench.Guarded
