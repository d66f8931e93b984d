import CardPayments.Proofs.Binary64.Nearest

/-!
# How far rounding moves a number

Rounding to a whole number moves a number by a half at most, and rounding to a floating-point number by a small
part of itself (`RoundsTo.distance_le`), unless the number is tiny.
-/

namespace CardPayments

namespace Binary64

variable {x : ℚ} {r index : Nat}

theorem IsNearest.distance_le (h : IsNearest x r) : |(r : ℚ) - x| ≤ 1 / 2 := by
  have hlow := h.low
  have hhigh := h.high
  rw [abs_le]
  constructor <;> linarith

/-- A whole number is nearest to itself. -/
theorem isNearest_self (n : Nat) : IsNearest n n :=
  ⟨by linarith, by linarith, by rintro (h | h) <;> linarith⟩

/-- A whole number at less than a half is the one that is nearest. -/
theorem IsNearest.eq_of_distance_lt (h : IsNearest x r) {n : Nat} (hn : |x - n| < 1 / 2) : r = n := by
  have hsum : |(r : ℚ) - n| < 1 :=
    calc |(r : ℚ) - n| ≤ |(r : ℚ) - x| + |x - n| := abs_sub_le _ _ _
      _ < 1 := by linarith [h.distance_le]
  have hcast : |(r : ℤ) - n| < 1 := by exact_mod_cast hsum
  have hzero := Int.abs_lt_one_iff.1 hcast
  omega

/-- The next number, unless it is tiny, is greater by a small part. -/
theorem value_succ_sub_le (h : twoTo 52 ≤ index) : value (index + 1) - value index ≤ value index / 2 ^ 52 := by
  obtain ⟨e, r, rfl, hr, hlow⟩ := exists_grid index
  -- On its grid the number counts so many units, and the next one has one more.
  have hrlow : twoTo 52 ≤ r := by
    rcases hlow with rfl | hlow
    · rwa [Nat.zero_mul, Nat.zero_add] at h
    · exact hlow
  have hcast : (2 : ℚ) ^ 52 ≤ r := by
    rw [← cast_twoTo]
    exact_mod_cast hrlow
  have hpower : (0 : ℚ) < 2 ^ ((e : ℤ) - 1074) := by positivity
  have hnext := value_grid (e := e) (Nat.succ_le_of_lt hr) (hlow.imp_right Nat.le_succ_of_le)
  rw [Nat.add_assoc, hnext, value_grid hr.le hlow, le_div_iff₀ (by positivity)]
  push_cast
  nlinarith

/-- Rounding to the nearest floating-point number moves a number by a small part of what it becomes. -/
theorem RoundsTo.distance_le (h : RoundsTo x index) (hindex : twoTo 52 < index) :
    |value index - x| ≤ value index / 2 ^ 53 := by
  obtain ⟨below, rfl⟩ : ∃ below, index = below + 1 := ⟨index - 1, by omega⟩
  -- The sum lies between the two middles, and the gap below is no wider than a part of the number above it.
  have hup := h.high
  have hdown := h.low below rfl
  have hgap := value_succ_sub_le hindex.le
  have hgap' := value_succ_sub_le (Nat.le_of_lt_succ hindex)
  have hless := strictMono_value (Nat.lt_succ_self below)
  unfold middle at hup hdown
  rw [abs_le]
  constructor <;> linarith

/-- A number from a hundredth on is not tiny. -/
theorem RoundsTo.lt_of_hundredth_le (h : RoundsTo x index) (hx : 1 / 100 ≤ x) : twoTo 52 < index := by
  by_contra hle
  -- All that is rounded to a tiny number lies below a middle that is far below a hundredth.
  have hmiddle : middle (twoTo 52) < 1 / 100 := by
    have hgrid := middle_grid (e := 0) (r := twoTo 52) (by decide) (.inl rfl)
    rw [Nat.zero_mul, Nat.zero_add, cast_twoTo, Nat.cast_zero, zero_sub] at hgrid
    have hpower : (2 : ℚ) ^ (-1074 : ℤ) ≤ 2 ^ (-60 : ℤ) := zpow_le_zpow_right₀ one_le_two (by decide)
    rw [hgrid]
    calc ((2 : ℚ) ^ 52 + 1 / 2) * 2 ^ (-1074 : ℤ) ≤ (2 ^ 52 + 1 / 2) * 2 ^ (-60 : ℤ) := by gcongr
      _ < 1 / 100 := by norm_num
  have hmono := strictMono_middle.monotone (Nat.le_of_not_lt hle)
  linarith [h.high]

end Binary64

end CardPayments
