import CardPayments.Decimal
import CardPayments.Proofs.Binary64.Precise

/-!
# Rounded decimals

When a decimal can be brought to a number of places (`Decimal.isSome_roundTo?_iff`), and which decimals stay
below a power of ten when they are rounded to fifteen significant digits (`Decimal.roundSignificant_spec`): the
least one that does not is halfway to that power from the last number with fifteen digits.
-/

namespace CardPayments

namespace Binary64

/-- A number with fifteen digits before the point is rounded to a whole number and then moved by some places:
which numbers have at most fifteen digits before the point by then. -/
theorem IsNearest.mul_lt_iff {x : ℚ} {r : Nat} {p : ℤ} (h : IsNearest x r) (hlow : 100000000000000 ≤ x)
    (hhigh : x < 1000000000000000) :
    (r : ℚ) * 10 ^ p < 1000000000000000 ↔ x * 10 ^ p < 1000000000000000 - 1 / 2 := by
  have hrlow : (100000000000000 : ℚ) ≤ r := by
    exact_mod_cast h.ge_of_ge (n := 100000000000000) (by exact_mod_cast hlow)
  have hrhigh : (r : ℚ) ≤ 1000000000000000 := by
    exact_mod_cast h.le_of_le (n := 1000000000000000) (by exact_mod_cast hhigh.le)
  rcases lt_trichotomy p 0 with hp | rfl | hp
  · have hscale : (10 : ℚ) ^ p ≤ 10 ^ (-1 : ℤ) := ten_zpow_le (by omega)
    rw [zpow_neg_one] at hscale
    exact iff_of_true (by nlinarith) (by nlinarith)
  · rw [zpow_zero, mul_one, mul_one]
    constructor
    · intro hless
      have hr : r ≤ 999999999999999 := by
        have hnat : r < 1000000000000000 := by exact_mod_cast hless
        omega
      have hcast : (r : ℚ) ≤ 999999999999999 := by exact_mod_cast hr
      have hhalf := h.high
      refine lt_of_le_of_ne (by linarith) fun htie => ?_
      have hlast : (r : ℚ) = 999999999999999 := by linarith
      have heven := h.tie (.inr (by linarith))
      have hodd : r = 999999999999999 := by exact_mod_cast hlast
      omega
    · intro hless
      have hhalf := h.low
      linarith
  · have hscale : (10 : ℚ) ^ (1 : ℤ) ≤ 10 ^ p := ten_zpow_le (by omega)
    rw [zpow_one] at hscale
    exact iff_of_false (not_lt.2 (by nlinarith)) (not_lt.2 (by nlinarith))

end Binary64

namespace Decimal

open Binary64

variable {precision places coefficient : Nat} {exponent : ℤ}

theorem digitCount_bounds (hne : coefficient ≠ 0) (exponent : ℤ) :
    (10 : ℚ) ^ ((digitCount coefficient : ℤ) - 1 + exponent) ≤ coefficient * 10 ^ exponent ∧
      (coefficient : ℚ) * 10 ^ exponent < 10 ^ ((digitCount coefficient : ℤ) + exponent) :=
  size_bounds hne exponent

/-- A decimal without more digits than the precision is brought to a number of places unless digits are
missing before the point. -/
theorem isSome_roundTo?_iff (hprecision : 0 < precision) (hcoefficient : coefficient < 10 ^ precision) :
    (roundTo? precision places coefficient exponent).isSome = true ↔
      (coefficient : ℚ) * 10 ^ exponent < 10 ^ ((precision : ℤ) - places) := by
  by_cases hzero : coefficient = 0
  · rw [roundTo?]
    simp only [hzero, true_or, if_true, Option.isSome_some, Nat.cast_zero, zero_mul, true_iff]
    positivity
  obtain ⟨hlow, hhigh⟩ := digitCount_bounds hzero exponent
  unfold roundTo?
  dsimp only
  set shift : ℤ := exponent + places with hshift
  set digits : ℤ := (digitCount coefficient : ℤ) + shift with hdigits
  have hbelow (h : digits ≤ precision) : (coefficient : ℚ) * 10 ^ exponent < 10 ^ ((precision : ℤ) - places) :=
    hhigh.trans_le (ten_zpow_le (by omega))
  split_ifs with hsmall hlarge hfits
  · exact iff_of_true rfl (hbelow (by omega))
  · have hge : (10 : ℚ) ^ ((precision : ℤ) - places) ≤ 10 ^ ((digitCount coefficient : ℤ) - 1 + exponent) :=
      ten_zpow_le (by omega)
    exact iff_of_false (by decide) (not_lt.2 (hge.trans hlow))
  · exact iff_of_true rfl (hbelow (by omega))
  · have hnearest := isNearest_roundQuotient (coefficient * tenTo shift.toNat) (tenTo_pos (-shift).toNat)
    rw [cast_mul_tenTo_div] at hnearest
    refine absurd ?_ hfits
    rcases le_or_gt 0 shift with hup | hdown
    · -- Nothing is rounded.
      have hwhole : (coefficient : ℚ) * 10 ^ shift = (coefficient * tenTo shift.toNat : Nat) := by
        rw [Nat.cast_mul, cast_tenTo, ← zpow_natCast, Int.toNat_of_nonneg hup]
      have hless : (coefficient * tenTo shift.toNat : Nat) < tenTo precision := by
        have hshifted : (coefficient : ℚ) * 10 ^ shift < 10 ^ (precision : ℤ) := by
          have hscale : (0 : ℚ) < 10 ^ (places : ℤ) := by positivity
          have hscaled := mul_lt_mul_of_pos_right (hbelow (by omega)) hscale
          rwa [mul_assoc, ← ten_zpow_add, ← ten_zpow_add, sub_add_cancel] at hscaled
        rw [hwhole, zpow_natCast] at hshifted
        exact_mod_cast hshifted
      exact (hnearest.le_of_le hwhole.le).trans_lt hless
    · obtain ⟨k, rfl⟩ : ∃ k, precision = k + 1 := ⟨precision - 1, by omega⟩
      have hless : (coefficient : ℚ) * 10 ^ shift ≤ (10 ^ k : Nat) := by
        have hcast : (coefficient : ℚ) ≤ 10 ^ (k + 1 : ℤ) := by exact_mod_cast hcoefficient.le
        calc (coefficient : ℚ) * 10 ^ shift ≤ 10 ^ (k + 1 : ℤ) * 10 ^ (-1 : ℤ) := by
              refine mul_le_mul hcast (ten_zpow_le (by omega)) ?_ ?_ <;> positivity
          _ = 10 ^ (k : ℤ) := by rw [← ten_zpow_add, add_neg_cancel_right]
          _ = (10 ^ k : Nat) := by norm_cast
      exact (hnearest.le_of_le hless).trans_lt (Nat.pow_lt_pow_right (by decide) (Nat.lt_succ_self k))

theorem roundTo?_lt {rounded : Nat} (h : roundTo? precision places coefficient exponent = some rounded) :
    rounded < tenTo precision := by
  unfold roundTo? at h
  dsimp only at h
  split_ifs at h with _ _ hfits
  · rw [← Option.some.inj h]
    exact tenTo_pos precision
  · rw [← Option.some.inj h]
    exact hfits

/-- A decimal that is brought to a number of places becomes the nearest multiple of the last of them. -/
theorem isNearest_roundTo? {rounded : Nat} (h : roundTo? precision places coefficient exponent = some rounded) :
    IsNearest (coefficient * 10 ^ (exponent + places)) rounded := by
  unfold roundTo? at h
  dsimp only at h
  split_ifs at h with hsmall _ _
  · obtain rfl := Option.some.inj h
    have hhalf : (coefficient : ℚ) * 10 ^ (exponent + places) < 1 / 2 := by
      by_cases hzero : coefficient = 0
      · rw [hzero, Nat.cast_zero, zero_mul]
        norm_num
      · -- All digits stand behind the places.
        have hdigits : (digitCount coefficient : ℤ) + (exponent + places) ≤ -1 := by omega
        calc (coefficient : ℚ) * 10 ^ (exponent + places) < 10 ^ ((digitCount coefficient : ℤ) + (exponent + places)) :=
              (digitCount_bounds hzero _).2
          _ ≤ 10 ^ (-1 : ℤ) := ten_zpow_le hdigits
          _ < 1 / 2 := by norm_num
    have hnonneg : (0 : ℚ) ≤ coefficient * 10 ^ (exponent + places) := by positivity
    exact ⟨by rw [Nat.cast_zero]; linarith, by rw [Nat.cast_zero]; linarith, fun _ => rfl⟩
  · rw [← Option.some.inj h, ← cast_mul_tenTo_div]
    exact isNearest_roundQuotient _ (tenTo_pos _)

/-- A decimal is rounded to significant digits by bringing it to a number of places: to as many that it has the
digits that are asked for, or to its own if it has fewer. -/
theorem exists_roundSignificant (hprecision : 0 < precision) (coefficient : Nat) (exponent : ℤ) :
    ∃ (r : Nat) (p : ℤ),
      ((roundSignificant precision coefficient exponent).1 : ℚ) *
          10 ^ (roundSignificant precision coefficient exponent).2 = r * 10 ^ p ∧
        (roundSignificant precision coefficient exponent).1 < 10 ^ precision ∧
        IsNearest (coefficient * 10 ^ (exponent - p)) r ∧
        (coefficient : ℚ) * 10 ^ (exponent - p) < 10 ^ precision ∧
        (p = exponent ∨ 10 ^ ((precision : ℤ) - 1) ≤ (coefficient : ℚ) * 10 ^ (exponent - p)) := by
  unfold roundSignificant
  dsimp only
  set drop := digitCount coefficient - precision with hdrop
  by_cases hshort : drop = 0
  · have hless : coefficient < 10 ^ precision := (Nat.length_toDigits_le_iff (by decide) hprecision).1 (by
      show digitCount coefficient ≤ precision
      omega)
    rw [if_pos hshort]
    refine ⟨coefficient, exponent, rfl, hless, ?_, ?_, .inl rfl⟩
    · rw [sub_self, zpow_zero, mul_one]
      exact isNearest_self coefficient
    · rw [sub_self, zpow_zero, mul_one]
      exact_mod_cast hless
  rw [if_neg hshort]
  have hne : coefficient ≠ 0 := by
    rintro rfl
    have hone : digitCount 0 = 1 := by decide
    omega
  obtain ⟨hlow, hhigh⟩ := digitCount_bounds hne (-(drop : ℤ))
  rw [show (digitCount coefficient : ℤ) - 1 + -drop = (precision : ℤ) - 1 by omega] at hlow
  rw [show (digitCount coefficient : ℤ) + -drop = precision by omega, zpow_natCast] at hhigh
  have hnearest := isNearest_roundQuotient coefficient (tenTo_pos drop)
  have hscaled : (coefficient : ℚ) / tenTo drop = coefficient * 10 ^ (exponent - (exponent + drop)) := by
    rw [cast_tenTo, sub_add_cancel_left, zpow_neg, zpow_natCast, div_eq_mul_inv]
  rw [hscaled] at hnearest
  rw [show -(drop : ℤ) = exponent - (exponent + drop) by omega] at hlow hhigh
  refine ⟨_, exponent + drop, ?_, ?_, hnearest, hhigh, .inr hlow⟩
  · split_ifs with hfits
    · rfl
    · -- What is rounded up to one more digit is a power of ten, and loses a zero.
      obtain ⟨k, rfl⟩ : ∃ k, precision = k + 1 := ⟨precision - 1, by omega⟩
      have hmost := hnearest.le_of_le (n := tenTo (k + 1)) (by rw [cast_tenTo]; exact hhigh.le)
      have hcarry : roundQuotient coefficient (tenTo drop) = tenTo k * 10 := by
        have hpower : tenTo (k + 1) = tenTo k * 10 := pow_succ 10 k
        omega
      rw [hcarry, Nat.mul_div_cancel _ (by decide), ten_zpow_add _ 1]
      push_cast
      ring
  · split_ifs with hfits
    · exact hfits
    · have hmost := hnearest.le_of_le (n := tenTo precision) (by rw [cast_tenTo]; exact hhigh.le)
      have hpos := tenTo_pos precision
      show _ / 10 < tenTo precision
      omega

/-- The least number that becomes a power of ten when it is rounded to fifteen digits. -/
def leastRoundedTo (m : ℤ) : ℚ := 10 ^ m - 10 ^ (m - 15) / 2

/-- A whole number with at most fifteen digits needs no rounding to stay below a power of ten, wherever the point. -/
theorem mul_lt_iff_of_lt {k : ℤ} (h : coefficient < 10 ^ 15) :
    (coefficient : ℚ) * 10 ^ k < 1000000000000000 ↔ (coefficient : ℚ) * 10 ^ k < 1000000000000000 - 1 / 2 := by
  rcases lt_or_ge k 0 with hk | hk
  · have hscale : (10 : ℚ) ^ k ≤ 10 ^ (-1 : ℤ) := ten_zpow_le (by omega)
    have hcast : (coefficient : ℚ) < 10 ^ 15 := by exact_mod_cast h
    rw [zpow_neg_one] at hscale
    have hless : (coefficient : ℚ) * 10 ^ k ≤ coefficient * 10⁻¹ := by gcongr
    exact iff_of_true (by linarith) (by linarith)
  · have hwhole : (coefficient : ℚ) * 10 ^ k = (coefficient * 10 ^ k.toNat : Nat) := by
      rw [Nat.cast_mul, Nat.cast_pow, Nat.cast_ofNat, ← zpow_natCast, Int.toNat_of_nonneg hk]
    rw [hwhole]
    constructor
    · intro hless
      have hnat : coefficient * 10 ^ k.toNat < 1000000000000000 := by exact_mod_cast hless
      have hcast : ((coefficient * 10 ^ k.toNat : Nat) : ℚ) ≤ 999999999999999 := by
        exact_mod_cast Nat.le_of_lt_succ hnat
      linarith
    · intro hless
      linarith

/-- What stays below a power of ten when it is rounded to fifteen digits. -/
theorem roundSignificant_spec (coefficient : Nat) (exponent m : ℤ) :
    (roundSignificant 15 coefficient exponent).1 < 10 ^ 15 ∧
      (((roundSignificant 15 coefficient exponent).1 : ℚ) *
          10 ^ (roundSignificant 15 coefficient exponent).2 < 10 ^ m ↔
        (coefficient : ℚ) * 10 ^ exponent < leastRoundedTo m) := by
  obtain ⟨r, p, hvalue, hdigits, hnearest, hhigh, hlow⟩ :=
    exists_roundSignificant (show 0 < 15 by decide) coefficient exponent
  have hsize : (coefficient : ℚ) * 10 ^ exponent = coefficient * 10 ^ (exponent - p) * 10 ^ p := by
    rw [mul_assoc, ← ten_zpow_add, sub_add_cancel]
  have hpower : (10 : ℚ) ^ m = 1000000000000000 * 10 ^ (m - 15) := by
    have hfifteen : (10 : ℚ) ^ (15 : ℤ) = 1000000000000000 := by norm_num
    rw [← hfifteen, ← ten_zpow_add, add_sub_cancel]
  have hleast : leastRoundedTo m = (1000000000000000 - 1 / 2) * 10 ^ (m - 15) := by
    rw [leastRoundedTo, hpower]
    ring
  -- All is moved by so many places that the power has fifteen zeros.
  have hmove (y z : ℚ) : y * 10 ^ p < z * 10 ^ (m - 15) ↔ y * 10 ^ (p - (m - 15)) < z := by
    have hscale : (0 : ℚ) < 10 ^ (m - 15) := by positivity
    have hsplit : (10 : ℚ) ^ p = 10 ^ (p - (m - 15)) * 10 ^ (m - 15) := by
      rw [← ten_zpow_add, sub_add_cancel]
    rw [hsplit, ← mul_assoc, mul_lt_mul_iff_left₀ hscale]
  refine ⟨hdigits, ?_⟩
  rw [hvalue, hsize, hpower, hleast, hmove, hmove]
  rcases hlow with rfl | hlow
  · -- Nothing is rounded.
    rw [sub_self, zpow_zero, mul_one] at hnearest hhigh ⊢
    have hsame : r = coefficient := hnearest.eq_of_distance_lt (by rw [sub_self, abs_zero]; norm_num)
    rw [hsame]
    exact mul_lt_iff_of_lt (by exact_mod_cast hhigh)
  · exact hnearest.mul_lt_iff (le_trans (by norm_num) hlow) (hhigh.trans_le (by norm_num))

end Decimal

end CardPayments
