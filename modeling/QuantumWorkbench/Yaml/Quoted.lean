import QuantumWorkbench.Yaml.Folding
import QuantumWorkbench.Yaml.Scalar

/-!
# Scalars between quotes

Between single quotes a quote is written twice and all else stands for itself; between double quotes
a backslash starts an escape. A mark between documents may not stand at the start of a line.

## Contents
- `Yaml.singleQuoted`, `Yaml.doubleQuoted`: the glyphs up to the closing quote, and what follows it.
- `Yaml.singleQuoted_length`, `Yaml.doubleQuoted_length`: what follows is shorter.
-/

namespace QuantumWorkbench.Yaml

/-! ## Escapes -/

/-- The character of an escape of one letter. -/
def escape? : Char → Option Char
  | '0' => some '\x00'
  | 'a' => some '\x07'
  | 'b' => some '\x08'
  | 't' | '\t' => some '\t'
  | 'n' => some '\n'
  | 'v' => some '\x0b'
  | 'f' => some '\x0c'
  | 'r' => some '\r'
  | 'e' => some '\x1b'
  | ' ' => some ' '
  | '"' => some '"'
  | '/' => some '/'
  | '\\' => some '\\'
  | 'N' => some '\x85'
  | '_' => some '\xa0'
  | 'L' => some '\u2028'
  | 'P' => some '\u2029'
  | _ => none

/-- The number of hexadecimal digits that an escape takes. -/
def escapeWidth? : Char → Option Nat
  | 'x' => some 2
  | 'u' => some 4
  | 'U' => some 8
  | _ => none

/-- The character with the given number, unless it is a surrogate or beyond the last one. -/
def charOf? (n : Nat) : Option Char :=
  if h : n.isValidChar then some (Char.ofNatAux n h) else none

/-- The character whose number the first `width` digits are. -/
def numbered? (width : Nat) (cs : List Cell) : Option Char := do
  let digits := (cs.take width).map (·.char)
  guard (digits.length = width)
  charOf? (← baseNumeral? 16 digits)

/-! ## Bodies -/

/-- The glyphs up to the closing single quote, and what follows it. -/
def singleQuoted : List Cell → Option (List Glyph × List Cell)
  | [] => none
  | c :: rest =>
    if (documentMark? (c :: rest)).isSome then none
    else if c.char = '\'' then
      match rest with
      | d :: more =>
        if d.char = '\'' then (singleQuoted more).map fun r => (.solid '\'' :: r.1, r.2)
        else some ([], d :: more)
      | [] => some ([], [])
    else (singleQuoted rest).map fun r => (.ofChar c.char :: r.1, r.2)

/-- The glyphs up to the closing double quote, and what follows it. -/
def doubleQuoted : List Cell → Option (List Glyph × List Cell)
  | [] => none
  | c :: rest =>
    if (documentMark? (c :: rest)).isSome then none
    else if c.char = '"' then some ([], rest)
    else if c.char = '\\' then
      match rest with
      | [] => none
      | d :: more =>
        if isBreak d.char then (doubleQuoted more).map fun r => (.joint :: r.1, r.2)
        else
          match escapeWidth? d.char with
          | some width =>
            (numbered? width more).bind fun char =>
              (doubleQuoted (more.drop width)).map fun r => (.solid char :: r.1, r.2)
          | none =>
            (escape? d.char).bind fun char =>
              (doubleQuoted more).map fun r => (.solid char :: r.1, r.2)
    else (doubleQuoted rest).map fun r => (.ofChar c.char :: r.1, r.2)
termination_by cs => cs.length
decreasing_by all_goals simp +arith

theorem singleQuoted_length {cs rest : List Cell} {body : List Glyph}
    (h : singleQuoted cs = some (body, rest)) : rest.length < cs.length := by
  fun_induction singleQuoted cs generalizing body with
  | case1 => simp at h
  | case2 => simp at h
  | case3 c _ _ d more _ ih =>
    obtain ⟨r, hr, heq⟩ := Option.map_eq_some_iff.mp h
    cases heq
    exact Nat.lt_trans (ih hr) (by simp +arith)
  | case4 c _ _ d more _ => cases h; simp
  | case5 => cases h; simp
  | case6 c rest _ _ ih =>
    obtain ⟨r, hr, heq⟩ := Option.map_eq_some_iff.mp h
    cases heq
    exact Nat.lt_trans (ih hr) (by simp)

theorem doubleQuoted_length {cs rest : List Cell} {body : List Glyph}
    (h : doubleQuoted cs = some (body, rest)) : rest.length < cs.length := by
  fun_induction doubleQuoted cs generalizing body with
  | case1 => simp at h
  | case2 => simp at h
  | case3 c rest _ _ => cases h; simp
  | case4 => simp at h
  | case5 c _ _ _ d more _ ih =>
    obtain ⟨r, hr, heq⟩ := Option.map_eq_some_iff.mp h
    cases heq
    exact Nat.lt_trans (ih hr) (by simp +arith)
  | case6 c _ _ _ d more _ width _ ih =>
    obtain ⟨char, _, h⟩ := Option.bind_eq_some_iff.mp h
    obtain ⟨r, hr, heq⟩ := Option.map_eq_some_iff.mp h
    cases heq
    exact Nat.lt_of_lt_of_le (ih hr) (by simp +arith)
  | case7 c _ _ _ d more _ _ ih =>
    obtain ⟨char, _, h⟩ := Option.bind_eq_some_iff.mp h
    obtain ⟨r, hr, heq⟩ := Option.map_eq_some_iff.mp h
    cases heq
    exact Nat.lt_trans (ih hr) (by simp +arith)
  | case8 c rest _ _ _ ih =>
    obtain ⟨r, hr, heq⟩ := Option.map_eq_some_iff.mp h
    cases heq
    exact Nat.lt_trans (ih hr) (by simp)

end QuantumWorkbench.Yaml
