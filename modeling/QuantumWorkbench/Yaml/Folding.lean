import QuantumWorkbench.Yaml.Cell

/-!
# Folding lines

A scalar may run over several lines. Its lines are joined by one blank; where empty lines stand
between them, by a break for each of those.

## Contents
- `Yaml.Glyph`: a character of a scalar, told apart by what folding does to it.
- `Yaml.Blanks`: a run of blanks, and `Yaml.Blanks.text`, what stands for it.
- `Yaml.fold`: the text of a scalar.
-/

namespace QuantumWorkbench.Yaml

/-- A character of a scalar. -/
inductive Glyph where
  /-- A character that is kept, whatever it is. -/
  | solid (c : Char)
  /-- A blank inside a line, kept unless it stands beside a break. -/
  | gap (c : Char)
  | lineBreak (c : Char)
  /-- A break that joins its lines without a blank. -/
  | joint
deriving DecidableEq, Repr

/-- A character without an escape. -/
def Glyph.ofChar (c : Char) : Glyph :=
  if isGap c then .gap c else if isBreak c then .lineBreak c else .solid c

/-- A run of blanks: those before its first break, and its breaks, both in reverse. -/
structure Blanks where
  gaps : List Char := []
  breaks : List Char := []
  /-- Does the run start at a joint? -/
  isJoined : Bool := false
deriving DecidableEq, Repr

namespace Blanks

def addGap (c : Char) (b : Blanks) : Blanks :=
  if b.isJoined ∨ b.breaks ≠ [] then b else { b with gaps := c :: b.gaps }

def addBreak (c : Char) (b : Blanks) : Blanks := { b with breaks := c :: b.breaks }

/-- What stands for a run of blanks. The first break is only a blank, or nothing at all where breaks
follow it, unless it is a separator that stands for itself. -/
def text (b : Blanks) : List Char :=
  if b.isJoined then b.breaks.reverse
  else
    match b.breaks.reverse with
    | [] => b.gaps.reverse
    | ['\n'] => [' ']
    | '\n' :: more => more
    | breaks => breaks

end Blanks

/-- The text of glyphs behind a run of blanks. -/
def foldFrom (b : Blanks) : List Glyph → List Char
  | [] => b.text
  | .solid c :: rest => b.text ++ c :: foldFrom {} rest
  | .gap c :: rest => foldFrom (b.addGap c) rest
  | .lineBreak c :: rest => foldFrom (b.addBreak c) rest
  | .joint :: rest => b.text ++ foldFrom { isJoined := true } rest

/-- The text of a scalar. -/
def fold (glyphs : List Glyph) : String := String.ofList (foldFrom {} glyphs)

example : fold ("a \n b".toList.map .ofChar) = "a b" := by decide
example : fold ("a\n\n \n  b c ".toList.map .ofChar) = "a\n\nb c " := by decide
example : fold [.solid 'a', .joint, .gap ' ', .solid 'b'] = "ab" := by decide

end QuantumWorkbench.Yaml
