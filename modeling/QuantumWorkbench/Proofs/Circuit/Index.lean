import QuantumWorkbench.Circuit.Gate

/-!
# Arithmetic of indices

## Contents
- `Index.toNat_succ`, `Index.add_one_le_iff`: counting on by one, where there is room for it.
- `Index.max_le_iff`, `Index.max_lt_iff`, `Index.lt_min_iff`: the larger and the smaller of two indices.
-/

namespace QuantumWorkbench

/-- Below another index there is room for one more. -/
theorem Index.toNat_succ {i n : Index} (h : i < n) : (i + 1).toNat = i.toNat + 1 := by
  have bound := UInt32.lt_iff_toNat_lt.mp h
  have small := n.toNat_lt
  rw [UInt32.toNat_add, UInt32.toNat_one]
  exact Nat.mod_eq_of_lt (by omega)

theorem Index.succ_le {i n : Index} (h : i < n) : i + 1 ≤ n := by
  rw [UInt32.le_iff_toNat_le, Index.toNat_succ h]
  exact UInt32.lt_iff_toNat_lt.mp h

theorem Index.le_last (i : Index) : i ≤ Index.last := by
  have bound := i.toNat_lt
  have last : Index.last.toNat = 4294967295 := rfl
  rw [UInt32.le_iff_toNat_le]
  omega

/-- Below the largest index there is room for one more. -/
theorem Index.add_one_le_iff {i n : Index} (room : i ≠ Index.last) : i + 1 ≤ n ↔ i < n := by
  constructor
  · intro le
    have below : i < Index.last := UInt32.lt_of_le_of_ne i.le_last room
    rw [UInt32.le_iff_toNat_le, Index.toNat_succ below] at le
    exact UInt32.lt_iff_toNat_lt.mpr le
  · exact Index.succ_le

theorem Index.one_le_iff {n : Index} : 1 ≤ n ↔ n ≠ 0 := by
  rw [UInt32.le_iff_toNat_le, UInt32.toNat_one, ne_eq, ← UInt32.toNat_inj, UInt32.toNat_zero]
  omega

theorem Index.max_le_iff {i j n : Index} : max i j ≤ n ↔ i ≤ n ∧ j ≤ n := by
  show (if i ≤ j then j else i) ≤ n ↔ _
  split
  · rename_i le
    exact ⟨fun h => ⟨UInt32.le_trans le h, h⟩, And.right⟩
  · rename_i gt
    have le : j ≤ i := UInt32.le_of_lt (UInt32.not_le.mp gt)
    exact ⟨fun h => ⟨h, UInt32.le_trans le h⟩, And.left⟩

theorem Index.max_lt_iff {i j n : Index} : max i j < n ↔ i < n ∧ j < n := by
  show (if i ≤ j then j else i) < n ↔ _
  split
  · rename_i le
    exact ⟨fun h => ⟨UInt32.lt_of_le_of_lt le h, h⟩, And.right⟩
  · rename_i gt
    exact ⟨fun h => ⟨h, UInt32.lt_trans (UInt32.not_le.mp gt) h⟩, And.left⟩

theorem Index.lt_min_iff {i j n : Index} : n < min i j ↔ n < i ∧ n < j := by
  show n < (if i ≤ j then i else j) ↔ _
  split
  · rename_i le
    exact ⟨fun h => ⟨h, UInt32.lt_of_lt_of_le h le⟩, And.left⟩
  · rename_i gt
    exact ⟨fun h => ⟨UInt32.lt_trans h (UInt32.not_le.mp gt), h⟩, And.right⟩

end QuantumWorkbench
