import QuantumWorkbench.Circuit.Gate
import QuantumWorkbench.Evaluation.Basic

/-!
# State vectors

The joint state of a register: an amplitude for each of its basis states. Bit `q` of the number of a
basis state is the value of qubit `q`.

## Contents
- `Amplitude`: a complex number of two doubles.
- `basisCount n`, `Statevector n`: the number of basis states of `n` qubits, and their amplitudes,
  stored in place.
- `Statevector.mapPairs`: the loop over pairs of basis states that differ in one qubit; the three
  gates are instances of it.
- `Statevector.apply`: the effect of an operation. A measurement leaves the state as it is.
- `Statevector.probabilityOne`, `Statevector.qubitStates`: what one qubit shows by itself.
-/

namespace QuantumWorkbench

/-! ## Amplitudes -/

/-- A complex number. -/
structure Amplitude where
  re : Float
  im : Float
deriving DecidableEq, Repr

namespace Amplitude

def zero : Amplitude := { re := 0.0, im := 0.0 }
def one : Amplitude := { re := 1.0, im := 0.0 }

instance : Inhabited Amplitude := ⟨zero⟩

def add (a b : Amplitude) : Amplitude := { re := a.re + b.re, im := a.im + b.im }
def sub (a b : Amplitude) : Amplitude := { re := a.re - b.re, im := a.im - b.im }
def scale (s : Float) (a : Amplitude) : Amplitude := { re := s * a.re, im := s * a.im }

/-- The square of the absolute value. -/
def normSq (a : Amplitude) : Float := a.re * a.re + a.im * a.im

end Amplitude

/-! ## Registers -/

/-- The number of basis states of `n` qubits. -/
abbrev basisCount (n : Nat) : Nat := Nat.pow 2 n

/-- An amplitude for each basis state of `n` qubits. -/
abbrev Statevector (n : Nat) := Vector Amplitude (basisCount n)

namespace Statevector

variable {n : Nat}

/-- The register with all qubits certainly `0`. -/
def ground (n : Nat) : Statevector n :=
  (Vector.replicate (basisCount n) Amplitude.zero).set 0 Amplitude.one (Nat.two_pow_pos n)

/-- The number of the basis state with qubit `q` set as well. -/
def withBit (i : Fin (basisCount n)) (q : Fin n) : Fin (basisCount n) :=
  ⟨i.val ||| basisCount q, Nat.or_lt_two_pow i.isLt (Nat.pow_lt_pow_right (by decide) q.isLt)⟩

/-- Handles the pair of basis states that starts at `i`, if qubit `q` is clear in `i`. -/
@[specialize]
def mapPair (f : Nat → Amplitude → Amplitude → Amplitude × Amplitude) (q : Fin n)
    (v : Statevector n) (i : Fin (basisCount n)) : Statevector n :=
  if i.val.testBit q then v
  else
    let j := withBit i q
    let (a, b) := f i.val v[i] v[j]
    (v.set i a).set j b

/-- Replaces the amplitudes of all pairs of basis states that differ in qubit `q` only. The function
sees the basis state in which the qubit is clear, its amplitude and that of its partner. -/
@[specialize]
def mapPairs (f : Nat → Amplitude → Amplitude → Amplitude × Amplitude) (q : Fin n)
    (v : Statevector n) : Statevector n :=
  Fin.foldl (basisCount n) (mapPair f q) v

/-! ## Gates -/

/-- One over the square root of two. -/
def invSqrtTwo : Float := 1.0 / Float.sqrt 2.0

def hadamard (q : Fin n) : Statevector n → Statevector n :=
  mapPairs (fun _ a b => ((a.add b).scale invSqrtTwo, (a.sub b).scale invSqrtTwo)) q

def pauliX (q : Fin n) : Statevector n → Statevector n :=
  mapPairs (fun _ a b => (b, a)) q

/-- Swaps the pairs in which the control is set. -/
def controlledNot (control target : Fin n) : Statevector n → Statevector n :=
  mapPairs (fun i a b => if i.testBit control then (b, a) else (a, b)) target

/-- The qubit of the register with the given number. -/
def qubit? (n : Nat) (q : Index) : Option (Fin n) :=
  if h : q.toNat < n then some ⟨q.toNat, h⟩ else none

/-- The effect of an operation. On qubits outside the register it has none. -/
def apply (v : Statevector n) (op : Operation) : Statevector n :=
  match op with
  | .hadamard q => (qubit? n q).elim v (hadamard · v)
  | .pauliX q => (qubit? n q).elim v (pauliX · v)
  | .controlledNot c t _ =>
    match qubit? n c, qubit? n t with
    | some c, some t => controlledNot c t v
    | _, _ => v
  | .measure _ => v

/-! ## Single qubits -/

/-- The probability of reading `1` on a qubit, summed in the order of the basis states. -/
def probabilityOne (v : Statevector n) (q : Fin n) : Float :=
  Fin.foldl (basisCount n) (fun sum i => if i.val.testBit q then sum + v[i].normSq else sum) 0.0

/-- The nearest number from `0` to `1`. -/
def clampUnit (x : Float) : Float :=
  if x < 0.0 then 0.0 else if 1.0 < x then 1.0 else x

/-- A qubit by itself: the roots of the probabilities of `0` and of `1`. -/
def qubitState (v : Statevector n) (q : Fin n) : QubitState :=
  let p := clampUnit (v.probabilityOne q)
  { qubit := UInt32.ofNat q, zero := (1.0 - p).sqrt, one := p.sqrt }

/-- The qubits by themselves, in order. -/
def qubitStates (v : Statevector n) : List QubitState := (List.finRange n).map v.qubitState

end Statevector

end QuantumWorkbench
