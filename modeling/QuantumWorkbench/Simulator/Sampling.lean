import QuantumWorkbench.Simulator.Statevector

/-!
# Sampling

## Contents
- `Statevector.sample`: the basis state that a random number selects.
- `bitText`: the bits of some qubits in a basis state, the highest qubit first.
- `countOutcomes`: how often each outcome of the measured qubits occurs in some shots.
- `Draws`: a sequence of numbers from `0` to below `1`, and `Draws.ofSeed`, a generator of them.
-/

namespace QuantumWorkbench

/-! ## Draws -/

/-- A number from `0` to below `1` for each shot. -/
abbrev Draws := Nat → Float

namespace Draws

/-- Mixes the bits of a word. -/
def mix (x : UInt64) : UInt64 :=
  let x := (x ^^^ (x >>> 30)) * 0xBF58476D1CE4E5B9
  let x := (x ^^^ (x >>> 27)) * 0x94D049BB133111EB
  x ^^^ (x >>> 31)

/-- The sequence that a seed starts. The words step by the golden ratio and are mixed; their upper
53 bits are the digits of the number. -/
def ofSeed (seed : UInt64) : Draws := fun k =>
  let word := mix (seed + (UInt64.ofNat k + 1) * 0x9E3779B97F4A7C15)
  (word >>> 11).toFloat / 9007199254740992.0

end Draws

/-! ## Outcomes -/

namespace Statevector

variable {n : Nat}

/-- Goes on from basis state `i`, where the states before it have the given probability together. -/
def sampleFrom (v : Statevector n) (draw : Float) (before : Float) (i : Nat) : Nat :=
  if h : i < v.toArray.size then
    let sum := before + v.toArray[i].normSq
    if draw < sum then i else sampleFrom v draw sum (i + 1)
  else v.toArray.size - 1
termination_by v.toArray.size - i
decreasing_by omega

/-- The first basis state whose probability, with those before it, exceeds the number drawn, and the
last one if rounding leaves none. -/
def sample (v : Statevector n) (draw : Float) : Nat := v.sampleFrom draw 0.0 0

end Statevector

/-- The bits of `qubits` in a basis state, the last qubit first. -/
def bitText (qubits : List Nat) (basis : Nat) : String :=
  String.ofList (qubits.reverse.map fun q => if basis.testBit q then '1' else '0')

/-- Counts the outcomes of `shots` basis states, the `k`-th of which is `basis k`. -/
def countOutcomes (qubits : List Nat) (shots : Nat) (basis : Nat → Nat) : Counts :=
  shots.fold (fun k _ counts => counts.add (bitText qubits (basis k))) .empty

end QuantumWorkbench
