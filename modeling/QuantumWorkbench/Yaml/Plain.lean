import QuantumWorkbench.Yaml.Folding
import QuantumWorkbench.Yaml.Scalar

/-!
# Plain scalars

A plain scalar has no quotes, and ends where something else begins: a colon with a blank behind it,
a comment with a blank before it, and inside brackets every mark of a collection. Outside brackets
it goes on as long as its lines stand deeper than what it belongs to.

## Contents
- `Yaml.startsPlain`: may a plain scalar start here?
- `Yaml.plainSpan`: a plain scalar with the blanks behind it, and what follows.
-/

namespace QuantumWorkbench.Yaml

/-- The marks that start and end collections and part their items. -/
def isCollectionMark (c : Char) : Bool := [',', '[', ']', '\x7b', '\x7d'].contains c

/-- May a plain scalar start here? -/
def startsPlain (inFlow : Bool) : List Cell → Bool
  | [] => false
  | c :: rest =>
    if c.char = '-' then !startsBlank rest
    else if c.char = '?' || c.char = ':' then !inFlow && !startsBlank rest
    else !isGapOrBreak c.char && !isCollectionMark c.char
      && c.char ∉ ['#', '&', '*', '!', '|', '>', '\'', '"', '%', '@', '\x60']

/-- Does a plain scalar end before a character that is no blank? -/
def endsPlain (inFlow : Bool) (indent : Nat) (afterBlank : Bool) (c : Cell) (rest : List Cell) :
    Bool :=
  (c.char = ':' && startsBlank rest) || (inFlow && isCollectionMark c.char)
    || (afterBlank && (c.char = '#' || (!inFlow && c.column < indent)
      || (documentMark? (c :: rest)).isSome))

/-- Splits a plain scalar, with the blanks behind it, from what follows. Its further lines begin at
the column `indent` or behind it; a tab before that column is refused, and so is a colon with a mark
behind it inside brackets. `afterBlank` and `afterBreak` say what stands before. -/
def plainSpan (inFlow : Bool) (indent : Nat) (afterBlank afterBreak : Bool) :
    List Cell → Option (List Cell × List Cell)
  | [] => some ([], [])
  | c :: rest =>
    if isGapOrBreak c.char then
      if afterBreak && c.char = '\t' && c.column < indent then none
      else
        (plainSpan inFlow indent true (afterBreak || isBreak c.char) rest).map fun r =>
          (c :: r.1, r.2)
    else if endsPlain inFlow indent afterBlank c rest then some ([], c :: rest)
    else if inFlow && c.char = ':'
      && rest.head?.any fun d => d.char = '?' || isCollectionMark d.char then none
    else (plainSpan inFlow indent false false rest).map fun r => (c :: r.1, r.2)

theorem plainSpan_length {inFlow : Bool} {indent : Nat} {afterBlank afterBreak : Bool}
    {cs body rest : List Cell}
    (h : plainSpan inFlow indent afterBlank afterBreak cs = some (body, rest)) :
    rest.length ≤ cs.length := by
  induction cs generalizing afterBlank afterBreak body with
  | nil => cases h; simp
  | cons c cs ih =>
    unfold plainSpan at h
    split at h
    · split at h
      · simp at h
      · obtain ⟨r, hr, heq⟩ := Option.map_eq_some_iff.mp h
        cases heq
        exact Nat.le_succ_of_le (ih hr)
    · split at h
      · cases h; exact Nat.le_refl _
      · split at h
        · simp at h
        · obtain ⟨r, hr, heq⟩ := Option.map_eq_some_iff.mp h
          cases heq
          exact Nat.le_succ_of_le (ih hr)

/-- The cells of a span without the blanks at its end. -/
def dropEndBlanks (cs : List Cell) : List Cell :=
  (cs.reverse.dropWhile (isGapOrBreak ·.char)).reverse

/-- Does a span end with a break, whatever blanks stand beside it? -/
def endsLine (cs : List Cell) : Bool :=
  (cs.reverse.takeWhile (isGapOrBreak ·.char)).any (isBreak ·.char)

end QuantumWorkbench.Yaml
