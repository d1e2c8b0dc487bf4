/-!
# Pieces of a text

## Contents
- `piecesFrom`, `pieces`: what stands between separators, empty pieces included.
-/

namespace QuantumWorkbench

/-- The pieces among `cs`, where `piece` is the one being read, in reverse. -/
def piecesFrom (isSeparator : Char → Bool) (piece : List Char) : List Char → List (List Char)
  | [] => [piece.reverse]
  | c :: rest =>
    if isSeparator c then piece.reverse :: piecesFrom isSeparator [] rest
    else piecesFrom isSeparator (c :: piece) rest

/-- What stands between separators. There is one piece more than there are separators. -/
def pieces (isSeparator : Char → Bool) (cs : List Char) : List (List Char) :=
  piecesFrom isSeparator [] cs

example : pieces (· = ',') ['1', ',', ',', '2'] = [['1'], [], ['2']] := by decide

end QuantumWorkbench
