import QuantumWorkbench.Text.Blank

/-!
# The characters of a YAML text and their places

What a character means hangs on its column, and on whether two characters share a line. So a text is
read as a list of characters that know their places.

## Contents
- `Yaml.Cell`, `Yaml.cells?`: the characters of a text, with one break at the end of each line.
- `Yaml.startsBlank`: do blanks follow, or the end?
- `Yaml.documentMark?`: the marks that stand between documents.
-/

namespace QuantumWorkbench.Yaml

/-- A character and its place. -/
structure Cell where
  char : Char
  line : Nat
  column : Nat
deriving DecidableEq, Repr

/-- A blank inside a line. -/
def isGap (c : Char) : Bool := c = ' ' || c = '\t'

/-- A character that ends a line. -/
def isBreak (c : Char) : Bool :=
  c = '\n' || c = '\r' || c = '\x85' || c = '\u2028' || c = '\u2029'

def isGapOrBreak (c : Char) : Bool := isGap c || isBreak c

/-- The mark that may stand before a text. -/
def byteOrderMark : Char := '\ufeff'

/-- The break that a character at the end of a line stands for. The separators of lines and of
paragraphs stand for themselves. -/
def breakOf (c : Char) : Char := if c = '\u2028' ∨ c = '\u2029' then c else '\n'

/-- The characters of a text from a place on. A carriage return and the line feed behind it are one
break. -/
def cellsFrom (line column : Nat) : List Char → List Cell
  | [] => []
  | '\r' :: '\n' :: rest => { char := '\n', line, column } :: cellsFrom (line + 1) 0 rest
  | c :: rest =>
    if isBreak c then { char := breakOf c, line, column } :: cellsFrom (line + 1) 0 rest
    else { char := c, line, column } :: cellsFrom line (column + 1) rest

/-- The characters that may stand in a text. -/
def isAllowed (c : Char) : Bool :=
  inRanges [(0x09, 0x0A), (0x0D, 0x0D), (0x20, 0x7E), (0x85, 0x85), (0xA0, 0xFFFD),
    (0x10000, 0x10FFFF)] c.toNat

/-- The characters of a text, unless it has one that may not stand in it. -/
def cells? (text : String) : Option (List Cell) :=
  if text.toList.all isAllowed then some (cellsFrom 0 0 text.toList) else none

/-- Does a text start with a blank, or end here? -/
def startsBlank (cs : List Cell) : Bool := cs.head?.all (isGapOrBreak ·.char)

/-- The characters of the mark that a text starts with, if it is one of those between documents:
three dashes or three points, at the start of a line and with a blank behind them. -/
def documentMark? (cs : List Cell) : Option Char := do
  let head ← cs.head?
  guard (head.column = 0 ∧ (head.char = '-' ∨ head.char = '.'))
  guard ((cs.take 3).map (·.char) = [head.char, head.char, head.char] ∧ startsBlank (cs.drop 3))
  return head.char

end QuantumWorkbench.Yaml
