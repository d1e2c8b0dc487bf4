import Mathlib.Algebra.BigOperators.Group.List.Lemmas
import Mathlib.Algebra.GroupWithZero.Nat
import Mathlib.Algebra.Order.BigOperators.Group.List
import QuantumWorkbench.Evaluation.Wire
import QuantumWorkbench.Proofs.Decimal.WordsAsDoubles
import QuantumWorkbench.Proofs.Evaluation.Ranking

/-!
# The number of shots

The counts of a table are added up as words of 64 bits, and the sum is shown by way of a double. A service can answer
with any words for counts, so that both can lose something of the number of shots.

## Contents
- `Counts.shots`: the number of shots, without any bound, and `Counts.toNat_total`: what is left of it in a word.
- `Counts.le_shots`: no count is above the number of shots.
- `Counts.shots_counted`: when the sum is the number of shots, and when this number is shown.
- `Counts.shots_lost`: answers of a service whose shots are not counted.
-/

namespace QuantumWorkbench

namespace Counts

variable {c : Counts}

/-- The number of shots: the sum of all counts. -/
def shots (c : Counts) : Nat := (c.entries.map fun e => e.2.toNat).sum

/-- **The sum of words** is the number of shots up to a multiple of the size of words. -/
theorem toNat_total (c : Counts) : c.total.toNat = c.shots % 2 ^ 64 := by
  have step : ∀ (l : List (String × UInt64)) (sum : UInt64),
      (l.foldl (fun sum e => sum + e.2) sum).toNat = (sum.toNat + (l.map fun e => e.2.toNat).sum) % 2 ^ 64 := by
    intro l
    induction l with
    | nil => exact fun sum => (Nat.mod_eq_of_lt sum.toNat_lt).symm
    | cons e rest ih =>
        intro sum
        rw [List.foldl_cons, ih, UInt64.toNat_add, Nat.mod_add_mod, List.map_cons, List.sum_cons, Nat.add_assoc]
  exact (step c.entries 0).trans (by rw [UInt64.toNat_zero, Nat.zero_add]; rfl)

/-- No count is above the number of shots. -/
theorem le_shots {e : String × UInt64} (he : e ∈ c.entries) : e.2.toNat ≤ c.shots :=
  List.le_sum_of_mem (List.mem_map_of_mem he)

/-- What is listed of a table begins with its shots, as they are shown. -/
theorem exists_measurementLines (filled : c.entries ≠ []) :
    ∃ rows, measurementLines c = s!"  Measurements ({c.shownTotal} shots):" :: rows := by
  rw [measurementLines, List.isEmpty_eq_false_iff.mpr filled]
  exact ⟨_, rfl⟩

/-- **When shots are counted.** Take any answer.
* The sum of the counts as words is the number of shots modulo `2 ^ 64`, hence the number itself exactly if that is a
  word. Then no count is above the sum, and the greatest one is not.
* The first line about measurements shows the number of shots exactly if it is a word of which no digits but zeros
  stand behind the first 53, or the greatest word. -/
theorem shots_counted (answer : Evaluation) :
    let c := answer.measurements
    c.total.toNat = c.shots % 2 ^ 64 ∧ (c.total.toNat = c.shots ↔ c.shots < 2 ^ 64) ∧
    (c.shots < 2 ^ 64 → ∀ e, c.mostFrequent? = some e → e.2 ≤ c.total) ∧
    (c.entries ≠ [] → ∃ (shown : UInt64) (rows : List String),
      measurementLines c = s!"  Measurements ({shown} shots):" :: rows ∧
      (shown.toNat = c.shots ↔
        c.shots < 2 ^ 64 ∧ (2 ^ (c.shots.log2 - 52) ∣ c.shots ∨ c.shots = 2 ^ 64 - 1))) := by
  intro c
  have word : c.total.toNat < 2 ^ 64 := c.total.toNat_lt
  have sum : c.total.toNat = c.shots % 2 ^ 64 := c.toNat_total
  have exact : c.total.toNat = c.shots ↔ c.shots < 2 ^ 64 := by omega
  refine ⟨sum, exact, fun small e found => ?_, fun filled => ?_⟩
  · rw [UInt64.le_iff_toNat_le, exact.mpr small]
    exact le_shots (mostFrequent?_eq_some_iff.mp found).1
  · obtain ⟨rows, lines⟩ := exists_measurementLines filled
    have shown : c.shownTotal.toNat < 2 ^ 64 := c.shownTotal.toNat_lt
    have back : c.shownTotal = c.total ↔ _ := toUInt64_toFloat_eq_self_iff c.total
    refine ⟨c.shownTotal, rows, lines, ?_⟩
    constructor
    · intro same
      have small : c.shots < 2 ^ 64 := by omega
      have kept : c.shownTotal = c.total := UInt64.toNat_inj.mp (same.trans (exact.mpr small).symm)
      rw [back, exact.mpr small] at kept
      exact ⟨small, kept⟩
    · rintro ⟨small, kept⟩
      rw [← exact.mpr small] at kept
      exact (congrArg UInt64.toNat (back.mpr kept)).trans (exact.mpr small)

theorem shots_counted_even :
    let c : Counts := .ofList [("00", 510), ("11", 514)]
    c.shots < 2 ^ 64 ∧ c.entries ≠ [] ∧ c.mostFrequent? = some ("11", 514) ∧ 514 ≤ c.total ∧
      ∃ (shown : UInt64) (rows : List String),
        measurementLines c = s!"  Measurements ({shown} shots):" :: rows ∧ shown.toNat = 1024 := by
  intro c
  have shots : c.shots = 1024 := by decide +kernel
  have small : c.shots < 2 ^ 64 := by omega
  have filled : c.entries ≠ [] := by decide +kernel
  have found : c.mostFrequent? = some ("11", 514) := by decide +kernel
  obtain ⟨-, -, most, listed⟩ := shots_counted { measurements := c }
  obtain ⟨shown, rows, lines, same⟩ := listed filled
  have short : 2 ^ (c.shots.log2 - 52) ∣ c.shots := by
    rw [shots]
    decide
  exact ⟨small, filled, found, most small _ found, shown, rows, lines, (same.mpr ⟨small, .inl short⟩).trans shots⟩

/-- An answer whose counts add up to `2 ^ 64`. -/
def overfull : String := "\x7b\"measurements\": \x7b\"0\": 18446744073709551615, \"1\": 1\x7d\x7d"

/-- An answer whose only count is odd and has 54 binary digits. -/
def oddCount : String := "\x7b\"measurements\": \x7b\"0\": 9007199254740993\x7d\x7d"

/-- **Shots that are lost.** A service can answer with two counts whose sum is no word, and the sum comes to nothing.
It can also answer with one count of 54 digits, and a number of shots is shown that is smaller than this count. -/
theorem shots_lost :
    (∃ answer, Evaluation.parse? overfull = some answer ∧
      answer.measurements.shots = 2 ^ 64 ∧ answer.measurements.total = 0 ∧
      answer.measurements.mostFrequent? = some ("0", 18446744073709551615)) ∧
    ∃ answer, Evaluation.parse? oddCount = some answer ∧
      answer.measurements.shots = 9007199254740993 ∧ answer.measurements.total = 9007199254740993 ∧
      (measurementLines answer.measurements).head? = some "  Measurements (9007199254740992 shots):" := by
  constructor
  · refine ⟨{ measurements := .ofList [("0", 18446744073709551615), ("1", 1)] }, ?_⟩
    decide +kernel
  · refine ⟨{ measurements := .ofList [("0", 9007199254740993)] }, ?_⟩
    decide +kernel

end Counts

end QuantumWorkbench
