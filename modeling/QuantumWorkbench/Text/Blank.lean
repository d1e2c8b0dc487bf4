/-!
# Blanks and words

## Contents
- `isBlank`: the characters with the Unicode property White_Space.
- `words`: the runs of characters that are no blanks.
-/

namespace QuantumWorkbench

/-- Does a range hold the number? -/
def inRanges (ranges : List (Nat × Nat)) (n : Nat) : Bool :=
  ranges.any fun r => r.1 ≤ n && n ≤ r.2

/-- The property White_Space, as closed ranges. -/
def blankRanges : List (Nat × Nat) :=
  [(0x09, 0x0D), (0x20, 0x20), (0x85, 0x85), (0xA0, 0xA0), (0x1680, 0x1680), (0x2000, 0x200A),
   (0x2028, 0x2029), (0x202F, 0x202F), (0x205F, 0x205F), (0x3000, 0x3000)]

def isBlank (c : Char) : Bool := inRanges blankRanges c.toNat

/-- The words among `cs`, where `word` is the one being read, in reverse. -/
def wordsFrom (word : List Char) : List Char → List (List Char)
  | [] => if word.isEmpty then [] else [word.reverse]
  | c :: rest =>
    if isBlank c then
      if word.isEmpty then wordsFrom [] rest else word.reverse :: wordsFrom [] rest
    else wordsFrom (c :: word) rest

/-- The runs of characters that are no blanks. -/
def words (s : String) : List String :=
  (wordsFrom [] s.toList).map String.ofList

example : words " b  2 " = ["b", "2"] := by decide

end QuantumWorkbench
