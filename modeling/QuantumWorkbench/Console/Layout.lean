import QuantumWorkbench.Decimal.Fixed
import QuantumWorkbench.Evaluation.Basic

/-!
# Listings

The lines that show states and measurements.

## Contents
- `padLeft`, `padRight`: text in a column.
- `probabilityBar`: a probability as a bar of twenty cells at most.
- `stateLines`: a table of qubit states.
- `Counts.ranked`, `measurementLines`: the outcomes, most frequent first, and the first sixteen of
  them as lines.
-/

namespace QuantumWorkbench

/-- The text with blanks before it, to fill so many characters. -/
def padLeft (width : Nat) (s : String) : String := "".pushn ' ' (width - s.length) ++ s

/-- The text with blanks behind it, to fill so many characters. -/
def padRight (width : Nat) (s : String) : String := s ++ "".pushn ' ' (width - s.length)

/-! ## States -/

/-- The number of cells of a full bar. -/
def barWidth : Nat := 20

/-- The number of cells that show a probability, rounded to nearest. What is no probability is shown
as the nearest one, and what is no number as none. -/
def barCells (p : Float) : Nat :=
  let p := if p.isNaN ∨ p < 0.0 then 0.0 else if 1.0 < p then 1.0 else p
  (p * barWidth.toFloat).round.toUInt64.toNat

def probabilityBar (p : Float) : String := "".pushn '█' (barCells p)

/-- A row of the table of states. -/
def stateLine (s : QubitState) : String :=
  let p := s.probabilityOne
  "  " ++ padRight 6 s!"q{s.qubit}" ++ " " ++ padLeft 9 (fixedText 4 s.zero)
    ++ " " ++ padLeft 9 (fixedText 4 s.one) ++ " " ++ padLeft 6 (fixedText 1 (p * 100.0)) ++ "% "
    ++ probabilityBar p

def stateLines (states : List QubitState) : List String :=
  ("  " ++ padRight 6 "qubit" ++ " " ++ padLeft 9 "|0⟩" ++ " " ++ padLeft 9 "|1⟩" ++ " "
    ++ padLeft 7 "P(1)") :: states.map stateLine

/-! ## Measurements -/

namespace Counts

/-- The outcomes by falling counts, and those of one count by their names. -/
def ranked (c : Counts) : List (String × UInt64) :=
  c.entries.mergeSort fun a b => b.2 < a.2 || (a.2 = b.2 && a.1 ≤ b.1)

/-- The number of shots as it is shown, by way of a double. -/
def shownTotal (c : Counts) : UInt64 := c.total.toFloat.toUInt64

end Counts

/-- The number of outcomes that are listed. -/
def listedOutcomes : Nat := 16

/-- A row of the list of outcomes, with its part of the total in percent. -/
def measurementLine (total : Float) (e : String × UInt64) : String :=
  let percent := e.2.toFloat / total * 100.0
  s!"    {e.1}: " ++ padLeft 6 (toString e.2) ++ " (" ++ padLeft 5 (fixedText 2 percent) ++ "%)"

/-- The most frequent outcomes, and how many more there are. Without outcomes there is nothing to
list. -/
def measurementLines (c : Counts) : List String :=
  if c.entries.isEmpty then []
  else
    let rows := c.ranked
    [s!"  Measurements ({c.shownTotal} shots):"]
      ++ (rows.take listedOutcomes).map (measurementLine c.total.toFloat)
      ++ (if listedOutcomes < rows.length then
          [s!"    ... and {rows.length - listedOutcomes} more outcomes"]
        else [])

end QuantumWorkbench
