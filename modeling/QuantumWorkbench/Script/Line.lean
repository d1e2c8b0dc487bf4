import QuantumWorkbench.Circuit.Gate
import QuantumWorkbench.Script.Token

/-!
# Lines of a script

A line of a script stands for a gate if it is one of four calls on the object `circuit`. Every other
line says nothing about gates.

## Contents
- `MethodCall`, `MethodCall.ofTokens?`: a call on `circuit` with its arguments, split at the commas
  that stand outside brackets.
- `Gate.ofCall?`: the four calls `h`, `x`, `cx` and `measure`.
- `Gate.ofLine?`: the gate of a line.
- `registerSize?`: the register that a line declares.
-/

namespace QuantumWorkbench

/-- A call on the circuit object. -/
structure MethodCall where
  method : String
  args : List (List Token)
deriving DecidableEq, Repr

namespace MethodCall

/-- Splits at commas outside brackets. `depth` brackets are open, and `arg` is the argument being
read, in reverse. A bracket that closes nothing, or that is not closed, fails. -/
def splitFrom (depth : Nat) (arg : List Token) : List Token → Option (List (List Token))
  | [] => if depth = 0 then some [arg.reverse] else none
  | t :: rest =>
    if t = .mark '(' ∨ t = .mark '[' then splitFrom (depth + 1) (t :: arg) rest
    else if t = .mark ')' ∨ t = .mark ']' then
      match depth with
      | 0 => none
      | d + 1 => splitFrom d (t :: arg) rest
    else if t = .mark ',' ∧ depth = 0 then (arg.reverse :: ·) <$> splitFrom 0 [] rest
    else splitFrom depth (t :: arg) rest

/-- The arguments of a call. Each has at least one token, and no tokens are no arguments. -/
def splitArgs? (tokens : List Token) : Option (List (List Token)) :=
  if tokens.isEmpty then some []
  else (splitFrom 0 [] tokens).filter fun args => args.all (!·.isEmpty)

/-- The call that a line makes on `circuit`, with a semicolon behind it if one likes. -/
def ofTokens? : List Token → Option MethodCall
  | .ident "circuit" :: .mark '.' :: .ident method :: .mark '(' :: rest =>
    let rest := if rest.getLast? = some (.mark ';') then rest.dropLast else rest
    if rest.getLast? = some (.mark ')') then
      (splitArgs? rest.dropLast).map fun args => { method, args }
    else none
  | _ => none

end MethodCall

/-- An argument that is the number of a qubit and nothing else. -/
def indexArg? : List Token → Option Index
  | [.int n] => if n.toNat < UInt32.size then some n.toUInt32 else none
  | _ => none

namespace Gate

/-- The gate that a call places at `step`. A measurement may name where its result goes; that is not
looked at. -/
def ofCall? (step : Index) (call : MethodCall) : Option Gate :=
  match call.method, call.args with
  | "h", [q] => (indexArg? q).map (hadamard · step)
  | "x", [q] => (indexArg? q).map (pauliX · step)
  | "cx", [c, t] => do
    let control ← indexArg? c
    let target ← indexArg? t
    (controlledNot control target step).toOption
  | "measure", q :: _ => (indexArg? q).map (measure · step)
  | _, _ => none

/-- The gate that a line places at `step`. -/
def ofLine? (line : List Char) (step : Index) : Option Gate :=
  (Token.line? line).bind MethodCall.ofTokens? |>.bind (ofCall? step)

end Gate

/-- The size in the first `QuantumRegister(N)` among the tokens whose size is an index. -/
def registerOfTokens? : List Token → Option Index
  | [] => none
  | t :: rest =>
    match t, rest with
    | .ident "QuantumRegister", .mark '(' :: .int n :: .mark ')' :: _ =>
      if n.toNat < UInt32.size then some n.toUInt32 else registerOfTokens? rest
    | _, _ => registerOfTokens? rest

/-- The register that a line declares. Pieces that are no tokens are passed over. -/
def registerSize? (line : List Char) : Option Index :=
  registerOfTokens? ((Token.pieces line).filterMap (·.token?))

end QuantumWorkbench
