import Mathlib.Algebra.BigOperators.Group.List.Lemmas
import Mathlib.Algebra.GroupWithZero.Nat
import QuantumWorkbench.Proofs.Json.Record
import QuantumWorkbench.Simulator.Sampling

/-!
# Outcomes and their counts

The outcome of a shot is written bit by bit, and the table of counts is filled shot by shot. What the full table
says does not depend on the order of the shots: each outcome has as many counts as there are shots that came out
so.

## Contents
- `Statevector.sampleFrom_eq`: one turn of the scan that finds the basis state of a shot.
- `reverse_toList_bitText`, `bitText_eq_iff`: the bits in an outcome, and when two basis states have the same outcome.
- `outcomes`: the outcomes of some shots, one by one.
- `lookup_countOutcomes`, `mem_countOutcomes_iff`: the entries of the table.
- `sum_countOutcomes`: the counts of all outcomes together are the number of shots.
- `countOutcomes_const`: shots that all come out alike.
-/

namespace QuantumWorkbench

/-! ## Draws -/

/-- One turn of the scan of the probabilities. -/
theorem Statevector.sampleFrom_eq {n : Nat} (v : Statevector n) (draw before : Float) (i : Fin (basisCount n)) :
    v.sampleFrom draw before i =
      if draw < before + (v.get i).normSq then i.val
      else v.sampleFrom draw (before + (v.get i).normSq) (i + 1) := by
  have within : i.val < v.toArray.size := by
    rw [v.size_toArray]
    exact i.isLt
  rw [sampleFrom, dif_pos within]
  rfl

/-! ## Outcomes -/

/-- The letter of a bit. -/
def bitLetter (bit : Bool) : Char := if bit then '1' else '0'

theorem bitLetter_injective {a b : Bool} (h : bitLetter a = bitLetter b) : a = b := by
  cases a <;> cases b <;> first | rfl | cases h

/-- From its last letter on, an outcome has the bits of the qubits in their order. -/
theorem reverse_toList_bitText (qubits : List Nat) (basis : Nat) :
    (bitText qubits basis).toList.reverse = qubits.map fun q => bitLetter (basis.testBit q) := by
  rw [bitText, String.toList_ofList, List.map_reverse, List.reverse_reverse]
  rfl

/-- **Outcomes tell basis states apart by the bits of the qubits**, and by nothing else. -/
theorem bitText_eq_iff {qubits : List Nat} {a b : Nat} :
    bitText qubits a = bitText qubits b ↔ ∀ q ∈ qubits, a.testBit q = b.testBit q := by
  rw [← String.toList_inj, ← List.reverse_inj, reverse_toList_bitText, reverse_toList_bitText, List.map_inj_left]
  exact ⟨fun same q hq => bitLetter_injective (same q hq), fun same q hq => congrArg bitLetter (same q hq)⟩

/-! ## Counts -/

/-- The outcomes of the shots, in the order of the shots. -/
def outcomes (qubits : List Nat) (shots : Nat) (basis : Nat → Nat) : List String :=
  (List.range shots).map fun k => bitText qubits (basis k)

variable {qubits : List Nat} {shots : Nat} {basis : Nat → Nat}

theorem length_outcomes : (outcomes qubits shots basis).length = shots := by
  rw [outcomes, List.length_map, List.length_range]

theorem outcomes_succ :
    outcomes qubits (shots + 1) basis = outcomes qubits shots basis ++ [bitText qubits (basis shots)] := by
  rw [outcomes, List.range_succ, List.map_append]
  rfl

theorem countOutcomes_succ :
    countOutcomes qubits (shots + 1) basis =
      (countOutcomes qubits shots basis).add (bitText qubits (basis shots)) := by
  rw [countOutcomes, Nat.fold_succ]
  rfl

/-- **The table has an entry for each outcome that occurred**, with the number of its occurrences. -/
theorem lookup_countOutcomes (text : String) :
    (countOutcomes qubits shots basis).entries.lookup text =
      if (outcomes qubits shots basis).count text = 0 then none
      else some (UInt64.ofNat ((outcomes qubits shots basis).count text)) := by
  induction shots with
  | zero => rfl
  | succ shots ih =>
      rw [countOutcomes_succ, outcomes_succ, List.count_append]
      show (Keyed.insert _ _ (countOutcomes qubits shots basis).entries).lookup text = _
      rw [Keyed.lookup_insert]
      by_cases here : text = bitText qubits (basis shots)
      · subst here
        -- An outcome that is new has no entry yet, and counts from zero.
        have before : (countOutcomes qubits shots basis).count (bitText qubits (basis shots)) =
            UInt64.ofNat ((outcomes qubits shots basis).count (bitText qubits (basis shots))) := by
          rw [Counts.count, ih]
          split
          · rename_i new
            rw [new]
            rfl
          · rfl
        rw [if_pos rfl, before, List.count_singleton_self, if_neg (Nat.succ_ne_zero _), UInt64.ofNat_add]
        rfl
      · have other : List.count text [bitText qubits (basis shots)] = 0 :=
          List.count_eq_zero.mpr fun h => here (List.mem_singleton.mp h)
        rw [if_neg here, ih, other, Nat.add_zero]

/-- The table lists no outcome twice. -/
theorem nodup_countOutcomes : ((countOutcomes qubits shots basis).entries.map Prod.fst).Nodup := by
  rw [List.Nodup, List.pairwise_map]
  exact (countOutcomes qubits shots basis).ascending.imp fun lt => String.ne_of_lt lt

theorem mem_countOutcomes {text : String} {n : UInt64} :
    (text, n) ∈ (countOutcomes qubits shots basis).entries ↔
      text ∈ outcomes qubits shots basis ∧ n = UInt64.ofNat ((outcomes qubits shots basis).count text) := by
  have found : (text, n) ∈ (countOutcomes qubits shots basis).entries ↔
      (countOutcomes qubits shots basis).entries.lookup text = some n := by
    constructor
    · exact Keyed.lookup_of_mem nodup_countOutcomes
    · intro h
      obtain ⟨before, after, split, -⟩ := List.lookup_eq_some_iff.mp h
      rw [split]
      exact List.mem_append_right before List.mem_cons_self
  rw [found, lookup_countOutcomes, ← List.count_pos_iff]
  split
  · rename_i new
    exact ⟨nofun, fun h => absurd new (Nat.ne_of_gt h.1)⟩
  · rename_i occurs
    rw [and_iff_right (Nat.pos_of_ne_zero occurs), Option.some_inj, eq_comm]

/-- The count of an outcome is exact, as long as the shots fit a word. -/
theorem toNat_count_outcomes (few : shots < UInt64.size) (text : String) :
    (UInt64.ofNat ((outcomes qubits shots basis).count text)).toNat = (outcomes qubits shots basis).count text := by
  have most : (outcomes qubits shots basis).count text ≤ shots := by
    have bound := List.count_le_length (a := text) (l := outcomes qubits shots basis)
    rwa [length_outcomes] at bound
  exact UInt64.toNat_ofNat_of_lt (Nat.lt_of_le_of_lt most few)

/-- **The entries of the table**, told from the shots: the outcomes that occurred, each with the number of shots
that came out so. -/
theorem mem_countOutcomes_iff (few : shots < UInt64.size) {text : String} {n : UInt64} :
    (text, n) ∈ (countOutcomes qubits shots basis).entries ↔
      (∃ k < shots, bitText qubits (basis k) = text) ∧
      n.toNat = (List.range shots).countP fun k => bitText qubits (basis k) = text := by
  have counted : (outcomes qubits shots basis).count text =
      (List.range shots).countP fun k => bitText qubits (basis k) = text := by
    rw [outcomes, List.count, List.countP_map]
    exact List.countP_congr fun k _ => by simp
  have occurs : text ∈ outcomes qubits shots basis ↔ ∃ k < shots, bitText qubits (basis k) = text := by
    rw [outcomes, List.mem_map]
    exact exists_congr fun k => and_congr_left' List.mem_range
  rw [mem_countOutcomes, ← counted, occurs, ← UInt64.toNat_inj, toNat_count_outcomes few]

/-- **The counts partition the shots.** -/
theorem sum_countOutcomes (few : shots < UInt64.size) :
    ((countOutcomes qubits shots basis).entries.map fun e => e.2.toNat).sum = shots := by
  let texts := outcomes qubits shots basis
  let table := (countOutcomes qubits shots basis).entries
  have listed : (table.map Prod.fst).Perm texts.dedup := by
    refine (List.perm_ext_iff_of_nodup nodup_countOutcomes texts.nodup_dedup).mpr fun text => ?_
    rw [List.mem_dedup, List.mem_map]
    constructor
    · rintro ⟨⟨text, n⟩, member, rfl⟩
      exact (mem_countOutcomes.mp member).1
    · intro occurs
      exact ⟨(text, _), mem_countOutcomes.mpr ⟨occurs, rfl⟩, rfl⟩
  have counted : table.map (fun e => e.2.toNat) = (table.map Prod.fst).map fun text => texts.count text := by
    rw [List.map_map]
    refine List.map_congr_left fun e member => ?_
    obtain ⟨-, exact_count⟩ := mem_countOutcomes.mp member
    rw [exact_count, toNat_count_outcomes few]
    rfl
  calc (table.map fun e => e.2.toNat).sum
      = (texts.dedup.map fun text => texts.count text).sum := by rw [counted, (listed.map _).sum_eq]
    _ = texts.length := List.sum_map_count_dedup_eq_length texts
    _ = shots := length_outcomes

/-- Shots that all come out alike have one entry. -/
theorem countOutcomes_const {text : String} (some_shot : 0 < shots)
    (alike : ∀ k < shots, bitText qubits (basis k) = text) :
    (countOutcomes qubits shots basis).entries = [(text, UInt64.ofNat shots)] := by
  induction shots with
  | zero => exact absurd some_shot (Nat.lt_irrefl 0)
  | succ shots ih =>
      have last := alike shots (Nat.lt_succ_self shots)
      rw [countOutcomes_succ, last]
      show Keyed.insert text ((countOutcomes qubits shots basis).count text + 1)
        (countOutcomes qubits shots basis).entries = _
      cases shots with
      | zero => rfl
      | succ shots =>
          have before := ih (Nat.succ_pos shots) fun k hk => alike k (Nat.lt_succ_of_lt hk)
          have count : (countOutcomes qubits (shots + 1) basis).count text = UInt64.ofNat (shots + 1) := by
            rw [Counts.count, before, List.lookup_cons_self]
            rfl
          rw [before, count, Keyed.insert, if_neg (String.lt_irrefl text), if_pos rfl, UInt64.ofNat_add (shots + 1) 1]
          rfl

end QuantumWorkbench
