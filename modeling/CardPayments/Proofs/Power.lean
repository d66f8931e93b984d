import CardPayments.Power
import Mathlib.Algebra.Order.Field.Power
import Mathlib.Data.Rat.Cast.Order
import Mathlib.Tactic.Linarith
import Mathlib.Tactic.NormNum
import Mathlib.Tactic.Positivity

/-!
# Powers as scales

The powers of two, five and ten with natural exponents as rational powers with integer exponents, and the size
of a number by the number of its decimal digits.
-/

namespace CardPayments

theorem twoTo_pos (n : Nat) : 0 < twoTo n := Nat.pow_pos (by decide)

theorem tenTo_pos (n : Nat) : 0 < tenTo n := Nat.pow_pos (by decide)

theorem cast_twoTo (n : Nat) : ((twoTo n : Nat) : ℚ) = 2 ^ n := Nat.cast_pow 2 n

theorem cast_fiveTo (n : Nat) : ((fiveTo n : Nat) : ℚ) = 5 ^ n := Nat.cast_pow 5 n

theorem cast_tenTo (n : Nat) : ((tenTo n : Nat) : ℚ) = 10 ^ n := Nat.cast_pow 10 n

/-- A power with an integer exponent as a quotient of powers with natural exponents. -/
theorem zpow_eq_div {a : ℚ} (ha : a ≠ 0) (q : ℤ) : a ^ q = a ^ q.toNat / a ^ (-q).toNat := by
  rw [← zpow_natCast, ← zpow_natCast, ← zpow_sub₀ ha]
  congr 1
  omega

theorem ten_zpow_add (m n : ℤ) : (10 : ℚ) ^ (m + n) = 10 ^ m * 10 ^ n := zpow_add₀ (by norm_num) m n

theorem ten_zpow_le {m n : ℤ} (h : m ≤ n) : (10 : ℚ) ^ m ≤ 10 ^ n := zpow_le_zpow_right₀ (by norm_num) h

theorem cast_mul_twoTo_div (num den : Nat) (q : ℤ) :
    ((num * twoTo q.toNat : Nat) : ℚ) / (den * twoTo (-q).toNat : Nat) = num / den * 2 ^ q := by
  rw [zpow_eq_div two_ne_zero, Nat.cast_mul, Nat.cast_mul, cast_twoTo, cast_twoTo, mul_div_mul_comm]

theorem cast_mul_tenTo_div (n : Nat) (q : ℤ) :
    ((n * tenTo q.toNat : Nat) : ℚ) / (tenTo (-q).toNat : Nat) = n * 10 ^ q := by
  rw [zpow_eq_div (by norm_num), Nat.cast_mul, cast_tenTo, cast_tenTo, mul_div_assoc]

/-- The size of a decimal by the number of its digits. -/
theorem size_bounds {n : Nat} (hn : n ≠ 0) (e : ℤ) :
    (10 : ℚ) ^ (((Nat.toDigits 10 n).length : ℤ) - 1 + e) ≤ n * 10 ^ e ∧
      (n : ℚ) * 10 ^ e < 10 ^ (((Nat.toDigits 10 n).length : ℤ) + e) := by
  have hpos : 0 < (Nat.toDigits 10 n).length := Nat.length_toDigits_pos
  have hscale : (0 : ℚ) < 10 ^ e := by positivity
  have hlow : (10 : ℚ) ^ (((Nat.toDigits 10 n).length : ℤ) - 1) ≤ n := by
    obtain ⟨k, hk⟩ : ∃ k, (Nat.toDigits 10 n).length = k + 1 := ⟨_, (Nat.succ_pred_eq_of_pos hpos).symm⟩
    have hle : 10 ^ k ≤ n := by
      rcases Nat.eq_zero_or_pos k with rfl | hkpos
      · exact Nat.pos_of_ne_zero hn
      · by_contra hlt
        have hshort := (Nat.length_toDigits_le_iff (by decide) hkpos).2 (Nat.lt_of_not_le hlt)
        omega
    rw [hk, Nat.cast_succ, add_sub_cancel_right, zpow_natCast]
    exact_mod_cast hle
  have hhigh : (n : ℚ) < 10 ^ ((Nat.toDigits 10 n).length : ℤ) := by
    rw [zpow_natCast]
    exact_mod_cast (Nat.length_toDigits_le_iff (by decide) hpos).1 le_rfl
  rw [ten_zpow_add, ten_zpow_add]
  exact ⟨mul_le_mul_of_nonneg_right hlow hscale.le, mul_lt_mul_of_pos_right hhigh hscale⟩

end CardPayments
