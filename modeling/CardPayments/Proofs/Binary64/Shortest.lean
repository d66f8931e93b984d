import CardPayments.Binary64.Shortest
import CardPayments.Proofs.Binary64.Nearest

/-!
# The shortest decimal of a floating-point number rounds to it

`Binary64.readsBack` compares a decimal with the two middles around a number, exactly and in integers; so a
decimal that it accepts rounds to the number (`roundsTo_of_readsBack`).  The shortest decimal is one of these,
or else the number itself (`roundsTo_shortest`).
-/

namespace CardPayments

namespace Binary64

variable {index digits : Nat} {exponent : Int}

/-! ### Exact comparison -/

/-- Both sides of an exact comparison, multiplied by one positive number. -/
theorem scaled_sides (a : Nat) (i : Int) (n : Nat) (j : Int) :
    ∃ scale : ℚ, 0 < scale ∧
      (a : ℚ) * 10 ^ i * scale = (a * tenTo i.toNat * twoTo (-j).toNat : Nat) ∧
      (n : ℚ) * 2 ^ j * scale = (n * twoTo j.toNat * tenTo (-i).toNat : Nat) := by
  have hten : (10 : ℚ) ^ i * 10 ^ (-i).toNat = 10 ^ i.toNat := by
    rw [zpow_eq_div (by norm_num)]
    exact div_mul_cancel₀ _ (by positivity)
  have htwo : (2 : ℚ) ^ j * 2 ^ (-j).toNat = 2 ^ j.toNat := by
    rw [zpow_eq_div two_ne_zero]
    exact div_mul_cancel₀ _ (by positivity)
  refine ⟨10 ^ (-i).toNat * 2 ^ (-j).toNat, by positivity, ?_, ?_⟩
  · rw [Nat.cast_mul, Nat.cast_mul, cast_tenTo, cast_twoTo, ← hten]
    ring
  · rw [Nat.cast_mul, Nat.cast_mul, cast_tenTo, cast_twoTo, ← htwo]
    ring

theorem compareScaled_eq_lt {a n : Nat} {i j : Int} :
    compareScaled a i n j = .lt ↔ (a : ℚ) * 10 ^ i < n * 2 ^ j := by
  obtain ⟨scale, hscale, hleft, hright⟩ := scaled_sides a i n j
  rw [← mul_lt_mul_iff_left₀ hscale, hleft, hright, Nat.cast_lt]
  exact Nat.compare_eq_lt

theorem compareScaled_eq_eq {a n : Nat} {i j : Int} :
    compareScaled a i n j = .eq ↔ (a : ℚ) * 10 ^ i = n * 2 ^ j := by
  obtain ⟨scale, hscale, hleft, hright⟩ := scaled_sides a i n j
  rw [← mul_left_inj' hscale.ne', hleft, hright, Nat.cast_inj]
  exact Nat.compare_eq_eq

theorem compareScaled_eq_gt {a n : Nat} {i j : Int} :
    compareScaled a i n j = .gt ↔ (n : ℚ) * 2 ^ j < a * 10 ^ i := by
  obtain ⟨scale, hscale, hleft, hright⟩ := scaled_sides a i n j
  rw [← mul_lt_mul_iff_left₀ hscale, hleft, hright, Nat.cast_lt]
  exact Nat.compare_eq_gt

/-! ### The interval of a number -/

/-- The numerator of the middle below a positive number, in quarters of its last place. -/
def lowQuarters (index : Nat) : Nat :=
  if index % twoTo 52 = 0 ∧ twoTo 52 < index then 4 * (scaled index).1 - 1 else 4 * (scaled index).1 - 2

theorem even_iff_scaled (index : Nat) : index % 2 = 0 ↔ (scaled index).1 % 2 = 0 := by
  obtain ⟨e, r, rfl, hr, hlow⟩ := exists_grid index
  have heven : e * twoTo 52 = 2 * (e * twoTo 51) := by
    rw [Nat.mul_left_comm]
    rfl
  rw [scaled_grid hr hlow, heven, Nat.mul_add_mod]

theorem quarter_zpow (q : ℤ) : (2 : ℚ) ^ (q - 2) = 2 ^ q / 4 := by
  rw [zpow_sub₀ two_ne_zero]
  norm_num

/-- The middle above a number. -/
theorem middle_eq (index : Nat) :
    middle index = (4 * (scaled index).1 + 2 : Nat) * 2 ^ ((scaled index).2 - 2) := by
  obtain ⟨e, r, rfl, hr, hlow⟩ := exists_grid index
  rw [middle_grid hr hlow, scaled_grid hr hlow, quarter_zpow]
  generalize (2 : ℚ) ^ ((e : ℤ) - 1074) = power
  push_cast
  ring

/-- The middle below a number. -/
theorem middle_below_eq (h : digits + 1 = index) :
    middle digits = lowQuarters index * 2 ^ ((scaled index).2 - 2) := by
  have htwo : twoTo 52 = 4503599627370496 := rfl
  have htwice : twoTo 53 = 9007199254740992 := rfl
  obtain ⟨e, r, hindex, hr, hlow⟩ := exists_grid index
  have hscaled : scaled index = (r, (e : Int) - 1074) := by
    rw [hindex]
    exact scaled_grid hr hlow
  have hnarrow : (index % twoTo 52 = 0 ∧ twoTo 52 < index) ↔ e ≠ 0 ∧ r = twoTo 52 := by
    rw [htwo] at hindex hlow ⊢
    rw [htwice] at hr
    omega
  have hpos : r ≠ 0 := by
    rw [htwo] at hindex hlow
    omega
  unfold lowQuarters
  rw [hscaled]
  dsimp only
  by_cases hfirst : e ≠ 0 ∧ r = twoTo 52
  · -- The number below is the last one of the finer grid.
    obtain ⟨he, rfl⟩ := hfirst
    obtain ⟨e, rfl⟩ : ∃ k, e = k + 1 := ⟨e - 1, by omega⟩
    have hbelow : digits = e * twoTo 52 + (twoTo 53 - 1) := by
      rw [htwo] at hindex
      rw [htwo, htwice]
      omega
    have hmiddle := middle_grid (e := e) (r := twoTo 53 - 1) (by decide) (.inr (by decide))
    have hexponent : ((e + 1 : Nat) : ℤ) - 1074 = (e : ℤ) - 1074 + 1 := by
      push_cast
      ring
    rw [if_pos (hnarrow.2 ⟨he, rfl⟩), hbelow, hmiddle, hexponent, quarter_zpow, zpow_add_one₀ two_ne_zero]
    generalize (2 : ℚ) ^ ((e : ℤ) - 1074) = power
    norm_num [htwo, htwice]
    ring
  · -- Both numbers are on one grid.
    rw [if_neg (mt hnarrow.1 hfirst)]
    obtain ⟨r, rfl⟩ : ∃ k, r = k + 1 := ⟨r - 1, by omega⟩
    have hbelow : digits = e * twoTo 52 + r := by omega
    have hcast : ((4 * (r + 1) - 2 : Nat) : ℚ) = 4 * r + 2 := by
      rw [show 4 * (r + 1) - 2 = 4 * r + 2 by omega]
      push_cast
      rfl
    rw [hbelow, middle_grid (by omega) (by omega), hcast, quarter_zpow]
    ring

theorem readsBack_iff : readsBack index digits exponent = true ↔
    ((lowQuarters index : ℚ) * 2 ^ ((scaled index).2 - 2) < digits * 10 ^ exponent ∨
      index % 2 = 0 ∧ (digits : ℚ) * 10 ^ exponent = lowQuarters index * 2 ^ ((scaled index).2 - 2)) ∧
    ((digits : ℚ) * 10 ^ exponent < middle index ∨
      index % 2 = 0 ∧ (digits : ℚ) * 10 ^ exponent = middle index) := by
  rw [middle_eq, even_iff_scaled, ← compareScaled_eq_gt, ← compareScaled_eq_eq, ← compareScaled_eq_lt,
    ← compareScaled_eq_eq]
  simp only [readsBack, lowQuarters, Bool.and_eq_true, Bool.or_eq_true, beq_iff_eq]

/-- A decimal that reads back to a positive number rounds to it. -/
theorem roundsTo_of_readsBack (h : readsBack index digits exponent = true) :
    RoundsTo (digits * 10 ^ exponent) index := by
  obtain ⟨hlow, hhigh⟩ := readsBack_iff.1 h
  refine ⟨fun below hbelow => ?_, ?_, fun below hbelow htie => ?_, fun htie => ?_⟩
  · rw [middle_below_eq hbelow]
    rcases hlow with hlow | ⟨-, hlow⟩
    · exact hlow.le
    · exact hlow.ge
  · rcases hhigh with hhigh | ⟨-, hhigh⟩
    · exact hhigh.le
    · exact hhigh.le
  · rw [middle_below_eq hbelow] at htie
    rcases hlow with hlow | ⟨heven, -⟩
    · exact absurd htie hlow.ne
    · exact heven
  · rcases hhigh with hhigh | ⟨heven, -⟩
    · exact absurd htie hhigh.ne
    · exact heven

/-! ### The shortest decimal -/

theorem readsBack_of_onGrid? (h : onGrid? index exponent = some digits) :
    readsBack index digits exponent = true := by
  unfold onGrid? at h
  dsimp only at h
  split at h
  · rw [← Option.some.inj h]
    assumption
  · rw [← Option.some.inj h]
    assumption
  · cases h
  · split at h
    · rw [← Option.some.inj h]
      assumption
    · rw [← Option.some.inj h]
      assumption
    · rw [← Option.some.inj h]
      split_ifs <;> assumption

/-- **The shortest decimal rounds to the number.** -/
theorem roundsTo_shortest (index : Nat) :
    RoundsTo ((shortest index).1 * 10 ^ (shortest index).2) index := by
  unfold shortest
  dsimp only
  cases hfound : (List.range 17).findSome? fun n : Nat =>
      (onGrid? index (decimalScale (scaled index).1 (scaled index).2 - (n + 1))).map fun digits =>
        (digits, decimalScale (scaled index).1 (scaled index).2 - (n + 1)) with
  | none =>
    -- No decimal of seventeen digits reads back, so the number itself is given.
    rw [Option.getD_none, cast_exact]
    exact roundsTo_value index
  | some found =>
    obtain ⟨n, -, hmap⟩ := List.exists_of_findSome?_eq_some hfound
    obtain ⟨digits, hgrid, rfl⟩ := Option.map_eq_some_iff.1 hmap
    exact roundsTo_of_readsBack (readsBack_of_onGrid? hgrid)

end Binary64

end CardPayments
