import Mathlib.Algebra.Group.Nat.Defs
import Mathlib.Order.Nat
import Mathlib.Tactic.SplitIfs
import KeyStore.Binary64

/-!
# Rounding integers to binary64 numbers

Rounding keeps the order of integers but not their differences: a greater integer never gets a
lesser place on the number line (`position_ofInt_mono`), and up to 2⁵³ it gets a greater one
(`nearestMagnitude_lt`). Every 64-bit integer rounds to a number (`isNaN_ofInt`).
-/

namespace KeyStore.Binary64

/-! ### Magnitudes -/

theorem divRoundEven_bounds (num den : Nat) :
    num / den ≤ divRoundEven num den ∧ divRoundEven num den ≤ num / den + 1 := by
  have parity : num / den % 2 < 2 := Nat.mod_lt _ Nat.two_pos
  simp only [divRoundEven]
  split_ifs <;> omega

theorem divRoundEven_mono {num other : Nat} (den : Nat) (le : num ≤ other) :
    divRoundEven num den ≤ divRoundEven other den := by
  have quotients : num / den ≤ other / den := Nat.div_le_div_right le
  rcases Nat.lt_or_eq_of_le quotients with lower | same
  · exact (divRoundEven_bounds num den).2.trans
      (Nat.le_trans lower (divRoundEven_bounds other den).1)
  · have remainders : num % den ≤ other % den := by
      have first := Nat.div_add_mod num den
      have second := Nat.div_add_mod other den
      rw [same] at first
      omega
    have parity : other / den % 2 < 2 := Nat.mod_lt _ Nat.two_pos
    simp only [divRoundEven, same]
    split_ifs <;> omega

theorem nearestSignificand_of_small {n : Nat} (small : n.log2 ≤ 52) :
    nearestSignificand n = n * 2 ^ (52 - n.log2) := by
  rw [nearestSignificand, if_pos small, Nat.shiftLeft_eq]

/-- A small integer needs no rounding: its bits are moved to the front of the significand. -/
theorem nearestSignificand_lt {n : Nat} (small : n.log2 ≤ 52) : nearestSignificand n < 2 ^ 53 := by
  have high : 2 ^ 53 = 2 ^ (n.log2 + 1) * 2 ^ (52 - n.log2) := by
    rw [← Nat.pow_add, show n.log2 + 1 + (52 - n.log2) = 53 by omega]
  rw [nearestSignificand_of_small small, high]
  exact Nat.mul_lt_mul_of_pos_right Nat.lt_log2_self (Nat.two_pow_pos _)

/-- A significand has fifty-three bits, or is the next power of two. -/
theorem nearestSignificand_bounds {n : Nat} (positive : n ≠ 0) :
    2 ^ 52 ≤ nearestSignificand n ∧ nearestSignificand n ≤ 2 ^ 53 := by
  have least := Nat.log2_self_le positive
  by_cases small : n.log2 ≤ 52
  · refine ⟨?_, (nearestSignificand_lt small).le⟩
    have low : 2 ^ 52 = 2 ^ n.log2 * 2 ^ (52 - n.log2) := by
      rw [← Nat.pow_add, Nat.add_sub_cancel' small]
    rw [nearestSignificand_of_small small, low]
    exact Nat.mul_le_mul_right _ least
  · rw [nearestSignificand, if_neg small, Nat.one_shiftLeft]
    have bounds := divRoundEven_bounds n (2 ^ (n.log2 - 52))
    have low : 2 ^ 52 ≤ n / 2 ^ (n.log2 - 52) := by
      rw [Nat.le_div_iff_mul_le (Nat.two_pow_pos _), ← Nat.pow_add,
        Nat.add_sub_cancel' (Nat.le_of_not_le small)]
      exact least
    have high : n / 2 ^ (n.log2 - 52) < 2 ^ 53 := by
      rw [Nat.div_lt_iff_lt_mul (Nat.two_pow_pos _), ← Nat.pow_add,
        show 53 + (n.log2 - 52) = n.log2 + 1 by omega]
      exact Nat.lt_log2_self
    exact ⟨low.trans bounds.1, bounds.2.trans high⟩

theorem nearestSignificand_mono {n m : Nat} (le : n ≤ m) (same : n.log2 = m.log2) :
    nearestSignificand n ≤ nearestSignificand m := by
  unfold nearestSignificand
  rw [same]
  split
  · rw [Nat.shiftLeft_eq, Nat.shiftLeft_eq]
    exact Nat.mul_le_mul_right _ le
  · exact divRoundEven_mono _ le

theorem log2_mono {n m : Nat} (positive : n ≠ 0) (le : n ≤ m) : n.log2 ≤ m.log2 := by
  rw [Nat.le_log2 (by omega)]
  exact (Nat.log2_self_le positive).trans le

/-- A greater exponent outweighs what significands can differ by. -/
theorem weighted_le {e f s t : Nat} (lower : e < f) (above : 2 ^ 52 ≤ t) (below : s ≤ 2 ^ 53) :
    (e + 1022) * exponentWeight + s ≤ (f + 1022) * exponentWeight + t := by
  have weight : exponentWeight = 2 ^ 52 := rfl
  have step : (e + 1022 + 1) * exponentWeight ≤ (f + 1022) * exponentWeight :=
    Nat.mul_le_mul_right _ (by omega)
  rw [Nat.succ_mul] at step
  omega

/-- A greater integer does not round to a lesser magnitude. -/
theorem nearestMagnitude_mono {n m : Nat} (le : n ≤ m) :
    nearestMagnitude n ≤ nearestMagnitude m := by
  unfold nearestMagnitude
  by_cases zero : n = 0
  · rw [if_pos zero]
    exact Nat.zero_le _
  · have other : m ≠ 0 := by omega
    rw [if_neg zero, if_neg other]
    rcases Nat.lt_or_eq_of_le (log2_mono zero le) with lower | same
    · exact weighted_le lower (nearestSignificand_bounds other).1 (nearestSignificand_bounds zero).2
    · rw [same]
      exact Nat.add_le_add_left (nearestSignificand_mono le same) _

/-- Up to 2⁵³ every integer has a magnitude of its own. -/
theorem nearestMagnitude_lt {n m : Nat} (lt : n < m) (small : n < 2 ^ 53) :
    nearestMagnitude n < nearestMagnitude m := by
  have other : m ≠ 0 := by omega
  have above := (nearestSignificand_bounds other).1
  unfold nearestMagnitude
  rw [if_neg other]
  by_cases zero : n = 0
  · rw [if_pos zero]
    omega
  · rw [if_neg zero]
    have short : n.log2 ≤ 52 := Nat.le_of_lt_succ ((Nat.log2_lt zero).2 small)
    rcases Nat.lt_or_eq_of_le (log2_mono zero lt.le) with lower | same
    · exact weighted_le lower above (nearestSignificand_lt short)
    · rw [nearestSignificand_of_small short, nearestSignificand_of_small (same ▸ short), same]
      exact Nat.add_lt_add_left (Nat.mul_lt_mul_of_pos_right lt (Nat.two_pow_pos _)) _

theorem far_of_nearestMagnitude_eq {n m : Nat} (apart : n ≠ m)
    (same : nearestMagnitude n = nearestMagnitude m) : 2 ^ 53 ≤ n ∧ 2 ^ 53 ≤ m := by
  have far {less more : Nat} (lt : less < more)
      (collide : nearestMagnitude less = nearestMagnitude more) : 2 ^ 53 ≤ less :=
    Nat.le_of_not_lt fun small => absurd collide (nearestMagnitude_lt lt small).ne
  rcases Nat.lt_or_gt_of_ne apart with lt | gt
  · have first := far lt same
    exact ⟨first, first.trans lt.le⟩
  · have second := far gt same.symm
    exact ⟨second.trans gt.le, second⟩

theorem nearestMagnitude_finite {n : Nat} (bounded : n ≤ 2 ^ 63) :
    nearestMagnitude n < infiniteMagnitude := by
  have top : nearestMagnitude (2 ^ 63) < infiniteMagnitude := by decide +kernel
  exact (nearestMagnitude_mono bounded).trans_lt top

/-! ### Places on the number line -/

theorem nearestMagnitude_natAbs (n : Int64) :
    nearestMagnitude n.toInt.natAbs < infiniteMagnitude := by
  have low := n.le_toInt
  have high := n.toInt_lt
  exact nearestMagnitude_finite (by omega)

theorem infiniteMagnitude_lt : infiniteMagnitude < signWeight := by decide

theorem bits_ofInt (n : Int64) :
    (ofInt n).bits.toNat
      = if n.toInt < 0 then signWeight + nearestMagnitude n.toInt.natAbs
        else nearestMagnitude n.toInt.natAbs := by
  have finite := (nearestMagnitude_natAbs n).trans infiniteMagnitude_lt
  have weight : signWeight + signWeight = 2 ^ 64 := rfl
  rw [ofInt, UInt64.toNat_ofNat']
  split <;> exact Nat.mod_eq_of_lt (by omega)

theorem isNegative_ofInt (n : Int64) : (ofInt n).isNegative = decide (n.toInt < 0) := by
  have finite := (nearestMagnitude_natAbs n).trans infiniteMagnitude_lt
  rw [isNegative, bits_ofInt]
  split <;> simp [*]

theorem magnitude_ofInt (n : Int64) :
    (ofInt n).magnitude = nearestMagnitude n.toInt.natAbs := by
  have finite := (nearestMagnitude_natAbs n).trans infiniteMagnitude_lt
  rw [magnitude, bits_ofInt]
  split
  · rw [Nat.add_mod_left, Nat.mod_eq_of_lt finite]
  · exact Nat.mod_eq_of_lt finite

/-- Every integer rounds to a number. -/
theorem isNaN_ofInt (n : Int64) : (ofInt n).isNaN = false := by
  rw [isNaN, magnitude_ofInt, decide_eq_false_iff_not]
  exact Nat.not_lt_of_gt (nearestMagnitude_natAbs n)

theorem position_ofInt (n : Int64) :
    (ofInt n).position
      = if n.toInt < 0 then -(nearestMagnitude n.toInt.natAbs : Int)
        else nearestMagnitude n.toInt.natAbs := by
  simp only [position, isNegative_ofInt, magnitude_ofInt, decide_eq_true_eq]

/-- Rounding keeps the order of integers. -/
theorem position_ofInt_mono {n m : Int64} (le : n ≤ m) :
    (ofInt n).position ≤ (ofInt m).position := by
  rw [Int64.le_iff_toInt_le] at le
  rw [position_ofInt, position_ofInt]
  split_ifs with negative other other
  · have farther := nearestMagnitude_mono (show m.toInt.natAbs ≤ n.toInt.natAbs by omega)
    omega
  · omega
  · omega
  · have farther := nearestMagnitude_mono (show n.toInt.natAbs ≤ m.toInt.natAbs by omega)
    omega

/-- Integers that round to one number are equal, or 2⁵³ or more away from zero. -/
theorem far_of_position_ofInt_eq {n m : Int64} (apart : n ≠ m)
    (same : (ofInt n).position = (ofInt m).position) :
    2 ^ 53 ≤ n.toInt.natAbs ∧ 2 ^ 53 ≤ m.toInt.natAbs := by
  have different : n.toInt ≠ m.toInt := fun equal => apart (Int64.toInt_inj.1 equal)
  have positive (k : Int64) (negative : k.toInt < 0) : 0 < nearestMagnitude k.toInt.natAbs :=
    nearestMagnitude_lt (show 0 < k.toInt.natAbs by omega) (by decide)
  have first := positive n
  have second := positive m
  rw [position_ofInt, position_ofInt] at same
  apply far_of_nearestMagnitude_eq
  · split_ifs at same <;> omega
  · split_ifs at same <;> omega

end KeyStore.Binary64
