import QuantumWorkbench.Yaml.Plain
import QuantumWorkbench.Yaml.Quoted

/-!
# Tokens of a YAML text

Cuts a text into scalars and marks, and drops blanks and comments. A scalar with a colon behind it
on the same line is a key.

## Contents
- `Yaml.scalar?`: the scalar at the head of a text.
- `Yaml.keyEnd?`: what follows the colon behind a key.
- `Yaml.Token`, `Yaml.Lexeme`: a token, and where it stands.
- `Yaml.lexemes?`: the tokens of a text. Anchors, tags, directives and blocks of text are none.
-/

namespace QuantumWorkbench.Yaml

/-! ## Scalars -/

/-- A scalar and what follows it. -/
structure Scan where
  value : Scalar
  /-- Were blanks up to the next line taken with it? -/
  endsLine : Bool
  rest : List Cell

/-- The scalar at the head of a text. -/
def scalar? (inFlow : Bool) (indent : Nat) : List Cell → Option Scan
  | [] => none
  | c :: rest =>
    if c.char = '\'' then
      (singleQuoted rest).map fun r =>
        { value := { text := fold r.1, isPlain := false }, endsLine := false, rest := r.2 }
    else if c.char = '"' then
      (doubleQuoted rest).map fun r =>
        { value := { text := fold r.1, isPlain := false }, endsLine := false, rest := r.2 }
    else if startsPlain inFlow (c :: rest) then
      (plainSpan inFlow indent false false rest).map fun r =>
        let glyphs := (dropEndBlanks (c :: r.1)).map (.ofChar ·.char)
        { value := { text := fold glyphs, isPlain := true }
          endsLine := endsLine r.1
          rest := r.2 }
    else none

theorem scalar?_length {inFlow : Bool} {indent : Nat} {cs : List Cell} {s : Scan}
    (h : scalar? inFlow indent cs = some s) : s.rest.length < cs.length := by
  unfold scalar? at h
  split at h
  · simp at h
  · split at h
    · obtain ⟨⟨body, tail⟩, hr, rfl⟩ := Option.map_eq_some_iff.mp h
      exact Nat.lt_succ_of_lt (singleQuoted_length hr)
    · split at h
      · obtain ⟨⟨body, tail⟩, hr, rfl⟩ := Option.map_eq_some_iff.mp h
        exact Nat.lt_succ_of_lt (doubleQuoted_length hr)
      · split at h
        · obtain ⟨⟨body, tail⟩, hr, rfl⟩ := Option.map_eq_some_iff.mp h
          exact Nat.lt_succ_of_le (plainSpan_length hr)
        · simp at h

/-- The number of characters that a key and the blanks behind it may have. -/
def maxKeyLength : Nat := 1024

/-- What follows the colon that makes a scalar a key. The colon stands on the line on which the
scalar starts, and not too far behind its start. -/
def keyEnd? (inFlow : Bool) (start : Cell) (rest : List Cell) : Option (List Cell) :=
  match rest.dropWhile (isGap ·.char) with
  | [] => none
  | c :: rest =>
    if c.char = ':' ∧ (inFlow ∨ startsBlank rest) ∧ c.line = start.line
      ∧ c.column ≤ start.column + maxKeyLength then some rest
    else none

theorem keyEnd?_length {inFlow : Bool} {start : Cell} {cs rest : List Cell}
    (h : keyEnd? inFlow start cs = some rest) : rest.length < cs.length := by
  have hd := (List.dropWhile_suffix (l := cs) (isGap ·.char)).length_le
  unfold keyEnd? at h
  split at h
  · simp at h
  · next heq =>
    split at h
    · cases h
      rw [heq] at hd
      exact hd
    · simp at h

/-! ## Tokens -/

inductive Bracket where
  | brace
  | square
deriving DecidableEq, Repr

inductive Token where
  | key (name : Scalar)
  | scalar (value : Scalar)
  | dash
  | comma
  | opening (bracket : Bracket)
  | closing (bracket : Bracket)
  | documentStart
  | documentEnd
deriving DecidableEq, Repr

namespace Token

def ofDocumentMark (c : Char) : Token := if c = '-' then documentStart else documentEnd

/-- The token of a mark of collections. -/
def ofMark? : Char → Option Token
  | ',' => some comma
  | '\x7b' => some (opening .brace)
  | '\x7d' => some (closing .brace)
  | '[' => some (opening .square)
  | ']' => some (closing .square)
  | _ => none

/-- Does what follows a mark stand inside brackets? -/
def leavesInFlow (inFlow : Bool) : Token → Bool
  | opening _ => true
  | closing _ => false
  | _ => inFlow

end Token

/-- A token and where it stands. -/
structure Lexeme where
  token : Token
  column : Nat
  /-- Is there nothing but indentation before it on its line? -/
  startsLine : Bool
deriving DecidableEq, Repr

/-- The tokens of a text. `margin` is the column of the collection that they stand in, once it is
known, and `indenting` says that there is only indentation before them on their line. A tab is no
indentation. -/
def lexemes? (inFlow : Bool) (margin : Option Nat) (indenting : Bool) :
    List Cell → Option (List Lexeme)
  | [] => some []
  | c :: rest =>
    let lexeme (token : Token) : Lexeme := { token, column := c.column, startsLine := indenting }
    if isBreak c.char then lexemes? inFlow margin true rest
    else if c.char = ' ' ∨ (c.char = '\t' ∧ (inFlow ∨ !indenting))
      ∨ (c.char = byteOrderMark ∧ c.column = 0) then lexemes? inFlow margin indenting rest
    else if c.char = '#' then
      have := (List.dropWhile_suffix (l := rest) (!isBreak ·.char)).length_le
      lexemes? inFlow margin indenting (rest.dropWhile (!isBreak ·.char))
    else if let some mark := documentMark? (c :: rest) then
      (lexeme (.ofDocumentMark mark) :: ·) <$> lexemes? inFlow margin false (rest.drop 2)
    else if c.char = '-' ∧ startsBlank rest then
      (lexeme .dash :: ·) <$> lexemes? inFlow (margin <|> some c.column) indenting rest
    else if let some token := Token.ofMark? c.char then
      (lexeme token :: ·) <$> lexemes? (token.leavesInFlow inFlow) margin false rest
    else
      let margin := margin <|> some c.column
      match h : scalar? inFlow (margin.elim 0 (· + 1)) (c :: rest) with
      | none => none
      | some s =>
        have := scalar?_length h
        match hk : keyEnd? inFlow c s.rest with
        | some rest =>
          have := keyEnd?_length hk
          (lexeme (.key s.value) :: ·) <$> lexemes? inFlow margin false rest
        | none => (lexeme (.scalar s.value) :: ·) <$> lexemes? inFlow margin s.endsLine s.rest
termination_by cs => cs.length
decreasing_by
  all_goals simp_all
  all_goals omega

end QuantumWorkbench.Yaml
