import Mathlib

/-!
# Words by way of doubles

A word of 64 bits that is turned into a double and back is rounded to 53 binary digits on the way. It comes back as it
was if no digits are lost. The greatest word also does, since it is rounded up to a number that is no word any more.

## Contents
- `Binary64.mantissa_shift`, `Binary64.shift_of_dvd`, `Binary64.roundedMantissa_le`: digits that are shifted out.
- `Binary64.roundWithAccuracy_eq`: rounding leaves 53 digits, and the number itself if no digits are lost.
- `Binary64.unpack_pack`: a double with 53 digits is packed and unpacked.
- `Binary64.toNat_toUInt64_pack`: the word that a double comes to.
- `toUInt64_toFloat_eq_self_iff`: the words that come back.
-/

namespace QuantumWorkbench

namespace Binary64

open Float.Model UnpackedFloat

/-! ## Rounding -/

theorem mantissa_shift (em : ExtendedMantissa) (s : Nat) : (em >>> s).mantissa = em.mantissa / 2 ^ s := by
  show (s.repeat ExtendedMantissa.shiftRightOne em).mantissa = _
  induction s with
  | zero => exact (Nat.div_one _).symm
  | succ s ih =>
      show (s.repeat ExtendedMantissa.shiftRightOne em).mantissa / 2 = _
      rw [ih, Nat.div_div_eq_div_mul, Nat.pow_succ]

/-- Zeros that are shifted out leave no trace. -/
theorem shift_of_dvd {n s : Nat} (dvd : 2 ^ s ∣ n) :
    (⟨n, false, false⟩ : ExtendedMantissa) >>> s = ⟨n / 2 ^ s, false, false⟩ := by
  show s.repeat ExtendedMantissa.shiftRightOne ⟨n, false, false⟩ = _
  induction s with
  | zero => rw [Nat.pow_zero, Nat.div_one]; rfl
  | succ s ih =>
      have before : 2 ^ s ∣ n := Nat.dvd_trans ⟨2, Nat.pow_succ ..⟩ dvd
      have even : n / 2 ^ s % 2 = 0 := by
        obtain ⟨k, rfl⟩ := dvd
        rw [Nat.pow_succ, Nat.mul_assoc, Nat.mul_div_cancel_left _ (Nat.two_pow_pos s), Nat.mul_mod_right]
      show (s.repeat ExtendedMantissa.shiftRightOne ⟨n, false, false⟩).shiftRightOne = _
      rw [ih before, ExtendedMantissa.shiftRightOne, even, Nat.div_div_eq_div_mul, ← Nat.pow_succ]
      rfl

/-- Rounding goes up by one at most. -/
theorem roundedMantissa_le (em : ExtendedMantissa) :
    em.mantissa ≤ em.roundedMantissa ∧ em.roundedMantissa ≤ em.mantissa + 1 := by
  obtain ⟨m, r, s⟩ := em
  cases r <;> cases s <;>
    simp only [ExtendedMantissa.roundedMantissa, ExtendedMantissa.accuracy, Accuracy.roundToNearestEven] <;> omega

/-- Numbers that are not too small get 53 digits. -/
theorem targetExponent_eq {m : Nat} {e : Int} (big : -1021 ≤ m.log2 + e) :
    Format.binary64.targetExponent (totalExponent m e) = m.log2 + e - 52 := by
  simp only [Format.targetExponent, totalExponent, Format.mantissaBits, Format.minExponent]
  omega

theorem shiftToTargetExponent_eq {m : Nat} {e : Int} (big : -1021 ≤ m.log2 + e) (high : 52 ≤ m.log2) :
    shiftToTargetExponent .binary64 m e .exact =
      ((⟨m, false, false⟩ : ExtendedMantissa) >>> (m.log2 - 52), e + (m.log2 - 52 : Nat)) := by
  have amount : ((m.log2 + e - 52 : Int) - e).toNat = m.log2 - 52 := by omega
  rw [shiftToTargetExponent, targetExponent_eq big, shiftToExponent, amount]
  rfl

/-- **Rounding leaves 53 digits**, and the number itself if no digits are lost. -/
theorem roundWithAccuracy_eq {m : Nat} {e : Int} (big : -1021 ≤ m.log2 + e) (high : 52 ≤ m.log2) (sign : Sign) :
    ∃ m' s pos, roundWithAccuracy .binary64 sign m e .exact = .finite sign m' (e + (s : Nat)) pos ∧ m'.log2 = 52 ∧
      m.log2 - 52 ≤ s ∧ s ≤ m.log2 - 51 ∧ (2 ^ (m.log2 - 52) ∣ m → m' * 2 ^ s = m) := by
  -- The digits in front, and these rounded. They are up to `2 ^ 53`, which takes a second shift.
  let em := (⟨m, false, false⟩ : ExtendedMantissa) >>> (m.log2 - 52)
  let r := em.roundedMantissa
  let e' := e + (m.log2 - 52 : Nat)
  have nonzero : m ≠ 0 := by
    rintro rfl
    rw [Nat.log2_zero] at high
    omega
  have kept : em.mantissa = m / 2 ^ (m.log2 - 52) := mantissa_shift _ _
  have split : 2 ^ m.log2 = 2 ^ 52 * 2 ^ (m.log2 - 52) := by rw [← Nat.pow_add, Nat.add_sub_cancel' high]
  have low : 2 ^ 52 ≤ em.mantissa := by
    rw [kept, Nat.le_div_iff_mul_le (Nat.two_pow_pos _), ← split]
    exact Nat.log2_self_le nonzero
  have top : em.mantissa < 2 ^ 53 := by
    have bound : m < 2 ^ (m.log2 + 1) := (Nat.log2_lt nonzero).mp (Nat.lt_succ_self _)
    rw [kept, Nat.div_lt_iff_lt_mul (Nat.two_pow_pos _)]
    rw [Nat.pow_succ, split] at bound
    omega
  obtain ⟨atLeast, atMost⟩ := roundedMantissa_le em
  have exact : 2 ^ (m.log2 - 52) ∣ m → r * 2 ^ (m.log2 - 52) = m := fun dvd => by
    have whole : em = ⟨m / 2 ^ (m.log2 - 52), false, false⟩ := shift_of_dvd dvd
    show em.roundedMantissa * _ = m
    rw [whole]
    exact Nat.div_mul_cancel dvd
  have rounded : roundWithAccuracy .binary64 sign m e .exact =
      (let (final, e'') := shiftToTargetExponent .binary64 r e' .exact
       if h : final.mantissa = 0 then .zero sign else .finite sign final.mantissa e'' (Nat.pos_of_ne_zero h)) := by
    rw [roundWithAccuracy, shiftToTargetExponent_eq big high]
  by_cases full : r = 2 ^ 53
  · have log : r.log2 = 53 := by rw [full, Nat.log2_two_pow]
    refine ⟨2 ^ 52, m.log2 - 51, by decide, ?_, by rw [Nat.log2_two_pow], by omega, by omega, fun dvd => ?_⟩
    · rw [rounded, shiftToTargetExponent_eq (by omega) (by omega), log, full]
      have next : e' + (53 - 52 : Nat) = e + (m.log2 - 51 : Nat) := by omega
      rw [next]
      rfl
    · have carry : m.log2 - 51 = m.log2 - 52 + 1 := by omega
      calc 2 ^ 52 * 2 ^ (m.log2 - 51) = 2 ^ 53 * 2 ^ (m.log2 - 52) := by rw [carry, Nat.pow_succ]; omega
        _ = m := by rw [← full, exact dvd]
  · have log : r.log2 = 52 := (Nat.log2_eq_iff (by omega)).mpr ⟨by omega, by omega⟩
    refine ⟨r, m.log2 - 52, by omega, ?_, log, by omega, by omega, exact⟩
    rw [rounded, shiftToTargetExponent_eq (by omega) (by omega), log]
    have same : e' + (52 - 52 : Nat) = e' := Int.add_zero e'
    rw [same]
    exact dif_neg (show r ≠ 0 by omega)

/-- A number with fewer digits is filled up with zeros before it is rounded. -/
theorem ofNat_eq {n : Nat} (pos : n ≠ 0) :
    UnpackedFloat.ofNat .binary64 n =
      roundWithAccuracy .binary64 .positive (n <<< (52 - n.log2)) (-(52 - n.log2 : Nat)) .exact := by
  have positive : compare (n : Int) 0 = .gt := Int.compare_eq_gt.mpr (by omega)
  have amount : ((0 : Int) - (n.log2 + 0 - 52)).toNat = 52 - n.log2 := by omega
  rw [UnpackedFloat.ofNat, UnpackedFloat.ofInt, UnpackedFloat.normalize, positive]
  show round .binary64 .positive n 0 = _
  rw [UnpackedFloat.round, targetExponent_eq (by omega), decreaseExponent, amount, Int.zero_sub]

/-! ## Packing -/

/-- **A double with 53 digits is packed and unpacked.** -/
theorem unpack_pack {m : Nat} {e : Int} {pos : 0 < m} (sign : Sign) (high : m.log2 = 52) (low : -1074 ≤ e)
    (top : e ≤ 971) : (Float.Model.pack (.finite sign m e pos)).unpack = .finite sign m e pos := by
  obtain ⟨least, most⟩ := (Nat.log2_eq_iff (Nat.ne_of_gt pos)).mp high
  have biased : (e + (1023 : Nat) + (52 : Nat)).toNat = (e + 1075).toNat := by omega
  have packed : UnpackedFloat.pack .binary64 (.finite sign m e pos) =
      packComponents .binary64 sign (BitVec.ofNat 11 (e + 1075).toNat) (BitVec.ofNat 52 m) := by
    rw [UnpackedFloat.pack]
    show (if 2 ^ 11 ≤ (e + (1023 : Nat) + (52 : Nat)).toNat + 1 then _
      else if m.log2 + 1 = 53 then
        packComponents .binary64 sign (BitVec.ofNat 11 (e + (1023 : Nat) + (52 : Nat)).toNat) (BitVec.ofNat 52 m)
      else _) = _
    rw [biased, if_neg (by omega), if_pos (by omega)]
  have exponent : (BitVec.ofNat 11 (e + 1075).toNat).toNat = (e + 1075).toNat := by
    rw [BitVec.toNat_ofNat]
    omega
  have finite : BitVec.ofNat 11 (e + 1075).toNat ≠ -1#11 := fun h => by
    have value : (e + 1075).toNat = 2047 := exponent.symm.trans (congrArg BitVec.toNat h)
    omega
  have normal : BitVec.ofNat 11 (e + 1075).toNat ≠ 0#11 := fun h => by
    have value : (e + 1075).toNat = 0 := exponent.symm.trans (congrArg BitVec.toNat h)
    omega
  have mantissa : (1#1 ++ BitVec.ofNat 52 m).toNat = m := by
    rw [BitVec.toNat_append, BitVec.toNat_ofNat]
    show 1 <<< 52 ||| m % 2 ^ 52 = m
    rw [Nat.shiftLeft_eq, Nat.or_comm, Nat.one_mul, Nat.or_two_pow_eq_add_of_lt (Nat.mod_lt m (Nat.two_pow_pos 52))]
    -- The digit in front is not packed.
    omega
  show UnpackedFloat.unpack .binary64 (UnpackedFloat.pack .binary64 (.finite sign m e pos)) = _
  rw [packed, UnpackedFloat.unpack]
  simp only [unpackMantissa_packComponents, unpackExponent_packComponents, unpackSign_packComponents,
    Sign.ofBitVec_toBitVec]
  rw [if_neg finite, if_neg normal]
  congr 1
  rw [exponent]
  show ((e + 1075).toNat : Int) - (1023 + 52) = e
  omega

/-! ## Back to words -/

theorem roundToInt_shiftLeft (m s : Nat) : roundToInt .positive m s = (m * 2 ^ s : Nat) := by
  have amount : ((s : Int) - 0).toNat = s := by omega
  rw [roundToInt, decreaseExponent, amount]
  have none : (0 - ((s : Int) - s)).toNat = 0 := by omega
  show Sign.apply .positive ((shiftToExponent (m <<< s) (s - s) .exact 0).1.mantissa) = _
  rw [shiftToExponent, none, Nat.shiftLeft_eq]
  rfl

theorem roundToInt_shiftRight (m s : Nat) : roundToInt .positive m (-s) = (m / 2 ^ s : Nat) := by
  have amount : (-(s : Int) - 0).toNat = 0 := by omega
  have right : (0 - (-(s : Int) - (0 : Nat))).toNat = s := by omega
  rw [roundToInt, decreaseExponent, amount]
  show Sign.apply .positive ((shiftToExponent (m <<< 0) (-s - (0 : Nat)) .exact 0).1.mantissa) = _
  rw [shiftToExponent, right, Nat.shiftLeft_zero]
  show (((⟨m, false, false⟩ : ExtendedMantissa) >>> s).mantissa : Int) = _
  rw [mantissa_shift]

theorem toNat_ofNatClamp (n : Nat) : (UInt64.ofNatClamp n).toNat = min n (2 ^ 64 - 1) := by
  rw [UInt64.ofNatClamp]
  split
  · rename_i small
    show n = _
    have size : UInt64.size = 2 ^ 64 := rfl
    omega
  · rename_i large
    show 2 ^ 64 - 1 = _
    have size : UInt64.size = 2 ^ 64 := rfl
    omega

/-- The word that a double with 53 digits comes to: its whole part, up to the greatest word. -/
theorem toNat_toUInt64_pack {m : Nat} {e : Int} {pos : 0 < m} (high : m.log2 = 52) (low : -1074 ≤ e)
    (top : e ≤ 971) :
    (Float.ofModel (Float.Model.pack (.finite .positive m e pos))).toUInt64.toNat =
      min (roundToInt .positive m e).toNat (2 ^ 64 - 1) := by
  show (Float.Model.pack (.finite .positive m e pos)).unpack.toUInt64.toNat = _
  rw [unpack_pack _ high low top]
  exact toNat_ofNatClamp _

end Binary64

/-! ## There and back -/

open Binary64 Float.Model UnpackedFloat

/-- A word of at most 53 digits comes back. -/
theorem toUInt64_toFloat_of_lt {n : UInt64} (small : n.toNat < 2 ^ 53) : n.toFloat.toUInt64 = n := by
  by_cases zero : n.toNat = 0
  · rw [show n = 0 from UInt64.toNat_inj.mp zero]
    decide +kernel
  · let k := 52 - n.toNat.log2
    have few : n.toNat.log2 ≤ 52 := Nat.lt_succ_iff.mp ((Nat.log2_lt zero).mpr small)
    have lifted : n.toNat <<< k = n.toNat * 2 ^ k := Nat.shiftLeft_eq ..
    have full : 2 ^ 52 ≤ n.toNat * 2 ^ k ∧ n.toNat * 2 ^ k < 2 ^ 53 := by
      obtain ⟨least, most⟩ := (Nat.log2_eq_iff zero).mp rfl
      have split : 2 ^ 52 = 2 ^ n.toNat.log2 * 2 ^ k := by rw [← Nat.pow_add, Nat.add_sub_cancel' few]
      constructor
      · rw [split]
        exact Nat.mul_le_mul_right _ least
      · have top : n.toNat * 2 ^ k < 2 ^ (n.toNat.log2 + 1) * 2 ^ k :=
          Nat.mul_lt_mul_of_pos_right most (Nat.two_pow_pos k)
        rwa [← Nat.pow_add, Nat.add_right_comm, Nat.add_sub_cancel' few] at top
    have log : (n.toNat <<< k).log2 = 52 := by
      rw [lifted]
      exact (Nat.log2_eq_iff (by omega)).mpr full
    obtain ⟨m, s, pos, rounded, high, -, near, exact⟩ :=
      roundWithAccuracy_eq (m := n.toNat <<< k) (e := -(k : Nat)) (by omega) (by omega) .positive
    have same : m * 2 ^ s = n.toNat * 2 ^ k := by
      rw [← lifted]
      apply exact
      rw [log]
      exact Nat.one_dvd _
    have unmoved : s = 0 := by
      have least : 2 ^ 52 ≤ m := ((Nat.log2_eq_iff (Nat.ne_of_gt pos)).mp high).1
      by_contra moved
      have one : s = 1 := by omega
      rw [one] at same
      omega
    subst unmoved
    apply UInt64.toNat_inj.mp
    have exponent : -(k : Int) + (0 : Nat) = -k := Int.add_zero _
    show (Float.ofModel (Float.Model.pack (UnpackedFloat.ofNat .binary64 n.toNat))).toUInt64.toNat = _
    rw [ofNat_eq zero, rounded, toNat_toUInt64_pack high (by omega) (by omega), exponent, roundToInt_shiftRight]
    have back : m / 2 ^ k = n.toNat := by
      rw [← Nat.mul_one m, ← Nat.pow_zero 2, same, Nat.mul_div_cancel _ (Nat.two_pow_pos k)]
    rw [back, Int.toNat_natCast]
    omega

/-- The digits behind the first 53 come back as zeros, and nothing changes if they were zeros before. -/
theorem exists_toUInt64_toFloat {n : UInt64} (large : 2 ^ 53 ≤ n.toNat) :
    ∃ k, n.toFloat.toUInt64.toNat = min (k * 2 ^ (n.toNat.log2 - 52)) (2 ^ 64 - 1) ∧
      (2 ^ (n.toNat.log2 - 52) ∣ n.toNat → k * 2 ^ (n.toNat.log2 - 52) = n.toNat) := by
  have zero : n.toNat ≠ 0 := by omega
  have digits : 53 ≤ n.toNat.log2 := (Nat.le_log2 zero).mpr large
  have most : n.toNat.log2 < 64 := (Nat.log2_lt zero).mpr n.toNat_lt
  have none : 52 - n.toNat.log2 = 0 := by omega
  obtain ⟨m, s, pos, rounded, high, atLeast, near, exact⟩ :=
    roundWithAccuracy_eq (m := n.toNat) (e := -(0 : Nat)) (by omega) (by omega) .positive
  have scaled : m * 2 ^ (s - (n.toNat.log2 - 52)) * 2 ^ (n.toNat.log2 - 52) = m * 2 ^ s := by
    rw [Nat.mul_assoc, ← Nat.pow_add, Nat.sub_add_cancel atLeast]
  refine ⟨m * 2 ^ (s - (n.toNat.log2 - 52)), ?_, fun dvd => scaled.trans (exact dvd)⟩
  have exponent : -((0 : Nat) : Int) + s = s := Int.zero_add _
  show (Float.ofModel (Float.Model.pack (UnpackedFloat.ofNat .binary64 n.toNat))).toUInt64.toNat = _
  rw [ofNat_eq zero, none, Nat.shiftLeft_zero, rounded, toNat_toUInt64_pack high (by omega) (by omega), exponent,
    roundToInt_shiftLeft, Int.toNat_natCast, scaled]

/-- **A word comes back from a double as it was** exactly if the digits behind its first 53 are zeros, or if it is the
greatest word. -/
theorem toUInt64_toFloat_eq_self_iff (n : UInt64) :
    n.toFloat.toUInt64 = n ↔ 2 ^ (n.toNat.log2 - 52) ∣ n.toNat ∨ n.toNat = 2 ^ 64 - 1 := by
  by_cases small : n.toNat < 2 ^ 53
  · have digits : n.toNat.log2 - 52 = 0 := by
      by_cases zero : n.toNat = 0
      · rw [zero, Nat.log2_zero]
      · have few := (Nat.log2_lt zero).mpr small
        omega
    refine iff_of_true (toUInt64_toFloat_of_lt small) (.inl ?_)
    rw [digits]
    exact Nat.one_dvd _
  · obtain ⟨k, value, exact⟩ := exists_toUInt64_toFloat (Nat.not_lt.mp small)
    have bound : n.toNat ≤ 2 ^ 64 - 1 := Nat.le_sub_one_of_lt n.toNat_lt
    constructor
    · intro same
      rw [← UInt64.toNat_inj, value] at same
      by_cases clamped : k * 2 ^ (n.toNat.log2 - 52) ≤ 2 ^ 64 - 1
      · rw [Nat.min_eq_left clamped] at same
        exact .inl ⟨k, same.symm.trans (Nat.mul_comm ..)⟩
      · rw [Nat.min_eq_right (Nat.le_of_not_le clamped)] at same
        exact .inr same.symm
    · rintro (dvd | top)
      · rw [← UInt64.toNat_inj, value, exact dvd, Nat.min_eq_left bound]
      · rw [show n = 18446744073709551615 from UInt64.toNat_inj.mp top]
        decide +kernel

end QuantumWorkbench
