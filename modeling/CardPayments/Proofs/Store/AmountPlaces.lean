import CardPayments.Proofs.Store.Amount

/-!
# The same amount in two columns

A log has four places for an amount and a transaction two.  What is read from either is made of the same fifteen
digits, so that an amount which the log shows is shown by the transaction as well, and differs there by what the
two last places leave open (`Amount.read?_places`).  An amount of whole hundredths is the same in both: the
floating-point number through which it may have gone is so near to it that either fifteen digits bring it back,
or they stop before the hundredths (`Amount.exists_hundredths`).
-/

namespace CardPayments

/-- The number that a finite decimal is. -/
def Decimal.toRat : Decimal → ℚ
  | .finite negative coefficient exponent => (if negative then -1 else 1) * (coefficient * 10 ^ exponent)
  | _ => 0

namespace Amount

open Binary64 Decimal

variable {a : Amount} {coefficient : Nat} {exponent : ℤ} {places : Nat} {x : Decimal}

theorem read?_eq_some : a.read? places = some x ↔ ∃ coefficient exponent rounded,
    a.kept? = some (coefficient, exponent) ∧
      roundTo? columnDigits places (roundSignificant significantDigits coefficient exponent).1
        (roundSignificant significantDigits coefficient exponent).2 = some rounded ∧
      x = .finite (a.negative && coefficient ≠ 0) rounded (-places) := by
  unfold read?
  constructor
  · intro h
    obtain ⟨⟨coefficient, exponent⟩, hkept, h⟩ := Option.bind_eq_some_iff.1 h
    obtain ⟨rounded, hrounded, h⟩ := Option.bind_eq_some_iff.1 h
    exact ⟨coefficient, exponent, rounded, hkept, hrounded, (Option.some.inj h).symm⟩
  · rintro ⟨coefficient, exponent, rounded, hkept, hrounded, rfl⟩
    exact Option.bind_eq_some_iff.2 ⟨_, hkept, Option.bind_eq_some_iff.2 ⟨rounded, hrounded, rfl⟩⟩

/-- What is kept of an amount that is zero or not tiny differs from it by a small part. -/
theorem kept?_near (h : a.kept? = some (coefficient, exponent)) (hsize : a.size = 0 ∨ 1 / 100 ≤ a.size) :
    |(coefficient : ℚ) * 10 ^ exponent - a.size| ≤ coefficient * 10 ^ exponent / 2 ^ 53 := by
  unfold kept? at h
  split_ifs at h with hwhole
  · obtain ⟨rfl, rfl⟩ := Prod.mk.inj (Option.some.inj h)
    rw [size, hwhole.1, sub_self, abs_zero]
    positivity
  · obtain ⟨index, hindex⟩ := exists_roundsTo (x := a.size) (by unfold size; positivity)
    rw [nearest_eq a.negative hindex, ofIndex] at h
    split_ifs at h with hfinite
    obtain ⟨rfl, rfl⟩ := Prod.mk.inj (Option.some.inj h)
    rw [cast_exact]
    show |value index - a.size| ≤ value index / 2 ^ 53
    rcases hsize with hzero | hlarge
    · have hnone : index = 0 := hindex.unique (roundsTo_zero (by rw [hzero, middle_zero]; positivity))
      have hvalue : value 0 = 0 := by simp [value, scaled, twoTo_pos]
      rw [hnone, hzero, hvalue]
      norm_num
    · exact hindex.distance_le (hindex.lt_of_hundredth_le hlarge)

/-- Fifteen digits of an amount of whole hundredths are again a number of whole hundredths. -/
theorem exists_hundredths (h : a.kept? = some (coefficient, exponent)) {n : Nat} (hn : a.size = n / 100) :
    ∃ m : Nat, ((roundSignificant significantDigits coefficient exponent).1 : ℚ) *
      10 ^ (roundSignificant significantDigits coefficient exponent).2 = m / 100 := by
  obtain ⟨r, p, hvalue, -, hnearest, hhigh, -⟩ :=
    exists_roundSignificant (show 0 < significantDigits by decide) coefficient exponent
  rw [hvalue]
  rcases le_or_gt (-2) p with hp | hp
  · -- The digits stop at the hundredths or before them.
    refine ⟨r * 10 ^ (p + 2).toNat, ?_⟩
    have hpower : (10 : ℚ) ^ p = 10 ^ (p + 2).toNat / 100 := by
      rw [← zpow_natCast, Int.toNat_of_nonneg (by omega), ten_zpow_add]
      norm_num
    rw [hpower]
    push_cast
    ring
  · -- They go on behind the hundredths, and so they are those of the amount.
    refine ⟨n, ?_⟩
    have hsize : a.size = 0 ∨ 1 / 100 ≤ a.size := by
      rcases Nat.eq_zero_or_pos n with rfl | hpos
      · exact .inl (by rw [hn, Nat.cast_zero, zero_div])
      · have hone : (1 : ℚ) ≤ n := by exact_mod_cast hpos
        exact .inr (by rw [hn]; linarith)
    have hscale : (0 : ℚ) < 10 ^ (-p) := by positivity
    have hwhole : a.size * 10 ^ (-p) = (n * 10 ^ (-2 - p).toNat : Nat) := by
      have hpower : (10 : ℚ) ^ (-p) = 10 ^ (-2 - p).toNat * 100 := by
        rw [← zpow_natCast, Int.toNat_of_nonneg (by omega), show -p = -2 - p + 2 by omega, ten_zpow_add]
        norm_num
      rw [hn, hpower]
      push_cast
      ring
    have hdistance : |(coefficient : ℚ) * 10 ^ (exponent - p) - (n * 10 ^ (-2 - p).toNat : Nat)| < 1 / 2 := by
      have hshift : (coefficient : ℚ) * 10 ^ (exponent - p) = coefficient * 10 ^ exponent * 10 ^ (-p) := by
        rw [mul_assoc, ← ten_zpow_add, sub_eq_add_neg]
      rw [hshift] at hhigh
      rw [hshift, ← hwhole, ← sub_mul, abs_mul, abs_of_pos hscale]
      calc |(coefficient : ℚ) * 10 ^ exponent - a.size| * 10 ^ (-p)
          ≤ coefficient * 10 ^ exponent / 2 ^ 53 * 10 ^ (-p) := by
            gcongr
            exact kept?_near h hsize
        _ = coefficient * 10 ^ exponent * 10 ^ (-p) / 2 ^ 53 := by ring
        _ < 10 ^ 15 / 2 ^ 53 := by
            gcongr
            exact hhigh
        _ < 1 / 2 := by norm_num
    rw [hnearest.eq_of_distance_lt hdistance, ← hwhole, hn, mul_assoc, ← ten_zpow_add, neg_add_cancel, zpow_zero,
      mul_one]

/-- The same sum to the nearest ten-thousandth and to the nearest hundredth. -/
theorem places_near {sum : ℚ} {fine coarse : Nat} (hfine : IsNearest (sum * 10000) fine)
    (hcoarse : IsNearest (sum * 100) coarse) :
    |(fine : ℚ) * (1 / 10000) - coarse * (1 / 100)| ≤ 505 / 100000 ∧
      ((∃ m : Nat, sum = m / 100) → (fine : ℚ) * (1 / 10000) = coarse * (1 / 100)) := by
  constructor
  · obtain ⟨hlow, hhigh⟩ := abs_le.1 hfine.distance_le
    obtain ⟨hlow', hhigh'⟩ := abs_le.1 hcoarse.distance_le
    rw [abs_le]
    constructor <;> linarith
  · rintro ⟨m, rfl⟩
    have hfour : fine = m * 100 := hfine.eq_of_distance_lt (by
      rw [show (m : ℚ) / 100 * 10000 - (m * 100 : Nat) = 0 by push_cast; ring, abs_zero]
      norm_num)
    have htwo : coarse = m := hcoarse.eq_of_distance_lt (by
      rw [show (m : ℚ) / 100 * 100 - m = 0 by ring, abs_zero]
      norm_num)
    rw [hfour, htwo]
    push_cast
    ring

/-- **An amount in two columns**: an amount that is read with four places is read with two as well.  The numbers
differ by half of either last place at most, and not at all if the amount is one of whole hundredths. -/
theorem read?_places (h : a.read? logPlaces = some x) :
    ∃ y, a.read? transactionPlaces = some y ∧ |x.toRat - y.toRat| ≤ 505 / 100000 ∧
      ((∃ n : Nat, a.size = n / 100) → x.toRat = y.toRat) := by
  obtain ⟨coefficient, exponent, fine, hkept, hfine, rfl⟩ := read?_eq_some.1 h
  obtain ⟨-, -, -, hdigits, -⟩ :=
    exists_roundSignificant (show 0 < significantDigits by decide) coefficient exponent
  have hcolumn : (roundSignificant significantDigits coefficient exponent).1 < 10 ^ columnDigits :=
    hdigits.trans (by decide)
  have hsum := (isSome_roundTo?_iff (by decide) hcolumn).1 (Option.isSome_of_eq_some hfine)
  have hfits : ((roundSignificant significantDigits coefficient exponent).1 : ℚ) *
      10 ^ (roundSignificant significantDigits coefficient exponent).2 <
        10 ^ ((columnDigits : ℤ) - transactionPlaces) := hsum.trans_le (ten_zpow_le (by decide))
  obtain ⟨coarse, hcoarse⟩ := Option.isSome_iff_exists.1 ((isSome_roundTo?_iff (by decide) hcolumn).2 hfits)
  refine ⟨_, read?_eq_some.2 ⟨coefficient, exponent, coarse, hkept, hcoarse, rfl⟩, ?_⟩
  have hnear := isNearest_roundTo? hfine
  have hnear' := isNearest_roundTo? hcoarse
  have hplaces : (10 : ℚ) ^ (logPlaces : ℤ) = 10000 ∧ (10 : ℚ) ^ (transactionPlaces : ℤ) = 100 ∧
      (10 : ℚ) ^ (-(logPlaces : ℤ)) = 1 / 10000 ∧ (10 : ℚ) ^ (-(transactionPlaces : ℤ)) = 1 / 100 := by
    norm_num [logPlaces, transactionPlaces]
  obtain ⟨hlog, htransaction, hlog', htransaction'⟩ := hplaces
  rw [ten_zpow_add, ← mul_assoc, hlog] at hnear
  rw [ten_zpow_add, ← mul_assoc, htransaction] at hnear'
  obtain ⟨hdistance, hsame⟩ := places_near hnear hnear'
  unfold Decimal.toRat
  dsimp only
  rw [hlog', htransaction', ← mul_sub]
  refine ⟨?_, ?_⟩
  · have hsign : |(if (a.negative && decide (coefficient ≠ 0)) = true then (-1 : ℚ) else 1)| = 1 := by
      split_ifs <;> norm_num
    rw [abs_mul, hsign, one_mul]
    exact hdistance
  · rintro ⟨n, hn⟩
    rw [hsame (exists_hundredths hkept hn)]

end Amount

end CardPayments
