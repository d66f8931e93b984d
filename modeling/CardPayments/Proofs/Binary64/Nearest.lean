import CardPayments.Binary64
import CardPayments.Proofs.Power
import Mathlib.Tactic.FieldSimp
import Mathlib.Tactic.Ring

/-!
# The nearest floating-point number

The finite numbers of one sign ascend with their indices (`strictMono_value`), and so do the middles between
neighbours.  A number rounds to the one at an index when it lies between the two middles around it, a middle
itself belonging to the even index (`RoundsTo`); this determines the index, and the index is monotone in the
number (`RoundsTo.le`).  `nearest` chooses the index to which a decimal rounds (`nearest_eq`), so that nothing
about it depends on how the decimal is written.
-/

namespace CardPayments

namespace Binary64

/-! ### Numbers and the middles between them -/

/-- The number at an index. -/
def value (index : Nat) : ℚ := (scaled index).1 * 2 ^ (scaled index).2

/-- The middle between the number at an index and the next one. -/
def middle (index : Nat) : ℚ := (value index + value (index + 1)) / 2

variable {e r index : Nat}

/-- An index is a position on the grid of the multiples of a power of two. -/
theorem exists_grid (index : Nat) :
    ∃ e r, index = e * twoTo 52 + r ∧ r < twoTo 53 ∧ (e = 0 ∨ twoTo 52 ≤ r) := by
  have htwo : twoTo 52 = 4503599627370496 := rfl
  have htwice : twoTo 53 = 9007199254740992 := rfl
  rw [htwo, htwice]
  by_cases hsmall : index < 4503599627370496
  · exact ⟨0, index, by omega, by omega, .inl rfl⟩
  · exact ⟨index / 4503599627370496 - 1, 4503599627370496 + index % 4503599627370496, by omega, by omega,
      .inr (by omega)⟩

theorem scaled_grid (hr : r < twoTo 53) (hlow : e = 0 ∨ twoTo 52 ≤ r) :
    scaled (e * twoTo 52 + r) = (r, (e : Int) - 1074) := by
  have htwo : twoTo 52 = 4503599627370496 := rfl
  have htwice : twoTo 53 = 9007199254740992 := rfl
  unfold scaled
  rw [htwo] at hlow ⊢
  rw [htwice] at hr
  ext
  · split_ifs <;> dsimp only <;> omega
  · split_ifs <;> dsimp only <;> omega

/-- The number at a position on a grid; its last position is the first one of the next grid. -/
theorem value_grid (hr : r ≤ twoTo 53) (hlow : e = 0 ∨ twoTo 52 ≤ r) :
    value (e * twoTo 52 + r) = r * 2 ^ ((e : ℤ) - 1074) := by
  rcases Nat.lt_or_eq_of_le hr with hlt | rfl
  · simp only [value, scaled_grid hlt hlow]
  · have hindex : e * twoTo 52 + twoTo 53 = (e + 1) * twoTo 52 + twoTo 52 := by
      show e * 4503599627370496 + 9007199254740992 = (e + 1) * 4503599627370496 + 4503599627370496
      omega
    rw [hindex, value, scaled_grid (by decide) (.inr le_rfl)]
    have hexponent : ((e + 1 : Nat) : ℤ) - 1074 = 1 + ((e : ℤ) - 1074) := by
      push_cast
      ring
    have htwice : ((twoTo 53 : Nat) : ℚ) = (twoTo 52 : Nat) * 2 := by norm_num [twoTo]
    dsimp only
    rw [hexponent, zpow_add₀ two_ne_zero, htwice]
    ring

theorem middle_grid (hr : r < twoTo 53) (hlow : e = 0 ∨ twoTo 52 ≤ r) :
    middle (e * twoTo 52 + r) = (r + 1 / 2) * 2 ^ ((e : ℤ) - 1074) := by
  have hnext : value (e * twoTo 52 + (r + 1)) = (r + 1 : Nat) * 2 ^ ((e : ℤ) - 1074) :=
    value_grid (Nat.succ_le_of_lt hr) (hlow.imp_right Nat.le_succ_of_le)
  rw [middle, Nat.add_assoc, value_grid hr.le hlow, hnext]
  push_cast
  ring

theorem value_lt_middle (index : Nat) : value index < middle index := by
  obtain ⟨e, r, rfl, hr, hlow⟩ := exists_grid index
  have hpower : (0 : ℚ) < 2 ^ ((e : ℤ) - 1074) := by positivity
  rw [value_grid hr.le hlow, middle_grid hr hlow]
  nlinarith

theorem strictMono_value : StrictMono value := by
  refine strictMono_nat_of_lt_succ fun index => ?_
  have h := value_lt_middle index
  unfold middle at h
  linarith

theorem middle_lt_value_succ (index : Nat) : middle index < value (index + 1) := by
  have h := strictMono_value (Nat.lt_succ_self index)
  unfold middle
  linarith

theorem strictMono_middle : StrictMono middle :=
  strictMono_nat_of_lt_succ fun index => (middle_lt_value_succ index).trans (value_lt_middle (index + 1))

/-- A number rounds to the one at an index: it lies between the middles to the neighbours, and on such a
middle only when the index is even. -/
structure RoundsTo (x : ℚ) (index : Nat) : Prop where
  low : ∀ below, below + 1 = index → middle below ≤ x
  high : x ≤ middle index
  lowTie : ∀ below, below + 1 = index → middle below = x → index % 2 = 0
  highTie : x = middle index → index % 2 = 0

variable {x y : ℚ} {i j : Nat}

theorem RoundsTo.le (hx : RoundsTo x i) (hy : RoundsTo y j) (h : x ≤ y) : i ≤ j := by
  by_contra hlt
  obtain ⟨below, rfl⟩ : ∃ below, i = below + 1 := ⟨i - 1, by omega⟩
  have hmiddle : middle j ≤ middle below := strictMono_middle.monotone (by omega)
  have hlow := hx.low below rfl
  have hhigh := hy.high
  have hsame : middle j = middle below := by linarith
  have hindex := strictMono_middle.injective hsame
  have heven := hx.lowTie below rfl (by linarith)
  have hother := hy.highTie (by linarith)
  omega

theorem RoundsTo.unique (hi : RoundsTo x i) (hj : RoundsTo x j) : i = j :=
  Nat.le_antisymm (hi.le hj le_rfl) (hj.le hi le_rfl)

theorem roundsTo_value (index : Nat) : RoundsTo (value index) index := by
  have habove (below : Nat) (h : below + 1 = index) : middle below < value index := by
    rw [← h]
    exact middle_lt_value_succ below
  refine ⟨fun below h => (habove below h).le, (value_lt_middle index).le, fun below h htie => ?_, fun htie => ?_⟩
  · exact absurd htie (habove below h).ne
  · exact absurd htie (value_lt_middle index).ne

theorem value_lt_middle_iff : value i < middle j ↔ i ≤ j := by
  constructor
  · intro h
    by_contra hlt
    have hnext : value (j + 1) ≤ value i := strictMono_value.monotone (by omega)
    exact absurd (middle_lt_value_succ j) (not_lt.2 (hnext.trans h.le))
  · intro h
    exact (value_lt_middle i).trans_le (strictMono_middle.monotone h)

/-- A number is below the middle above an odd index when it rounds to that index or below. -/
theorem RoundsTo.lt_middle_iff (h : RoundsTo x i) (hodd : j % 2 = 1) : x < middle j ↔ i ≤ j := by
  constructor
  · intro hx
    by_contra hlt
    obtain ⟨below, rfl⟩ : ∃ below, i = below + 1 := ⟨i - 1, by omega⟩
    have hmiddle : middle j ≤ middle below := strictMono_middle.monotone (by omega)
    exact absurd hx (not_lt.2 (hmiddle.trans (h.low below rfl)))
  · intro hle
    have hmiddle : middle i ≤ middle j := strictMono_middle.monotone hle
    refine lt_of_le_of_ne (h.high.trans hmiddle) fun hsame => ?_
    have htie : x = middle i := le_antisymm h.high (by rw [hsame]; exact hmiddle)
    have hindex : i = j := strictMono_middle.injective (htie.symm.trans hsame)
    have heven := h.highTie htie
    omega

/-- A number is not above the middle above an even index when it rounds to that index or below. -/
theorem RoundsTo.le_middle_iff (h : RoundsTo x i) (heven : j % 2 = 0) : x ≤ middle j ↔ i ≤ j := by
  constructor
  · intro hx
    by_contra hlt
    obtain ⟨below, rfl⟩ : ∃ below, i = below + 1 := ⟨i - 1, by omega⟩
    have hmiddle : middle j ≤ middle below := strictMono_middle.monotone (by omega)
    have hlow := h.low below rfl
    have hindex := strictMono_middle.injective (le_antisymm hmiddle (hlow.trans hx))
    have htie := h.lowTie below rfl (le_antisymm hlow (by rw [← hindex]; exact hx))
    omega
  · exact fun hle => h.high.trans (strictMono_middle.monotone hle)

/-! ### Rounding a quotient -/

/-- An integer is nearest to a number, and even when another one is as near. -/
structure IsNearest (x : ℚ) (n : Nat) : Prop where
  low : (n : ℚ) - 1 / 2 ≤ x
  high : x ≤ n + 1 / 2
  tie : x = n - 1 / 2 ∨ x = n + 1 / 2 → n % 2 = 0

theorem isNearest_roundQuotient (num : Nat) {den : Nat} (hden : 0 < den) :
    IsNearest (num / den) (roundQuotient num den) := by
  have hpos : (0 : ℚ) < den := by exact_mod_cast hden
  have hsplit : (num : ℚ) / den = (num / den : Nat) + (num % den : Nat) / den := by
    rw [div_eq_iff hpos.ne', add_mul, div_mul_cancel₀ _ hpos.ne']
    exact_mod_cast (Nat.div_add_mod' num den).symm
  have hnonneg : (0 : ℚ) ≤ (num % den : Nat) / den := by positivity
  have hone : ((num % den : Nat) : ℚ) / den < 1 := by
    rw [div_lt_one hpos]
    exact_mod_cast Nat.mod_lt num hden
  have hless : ((num % den : Nat) : ℚ) / den < 1 / 2 ↔ 2 * (num % den) < den := by
    rw [div_lt_div_iff₀ hpos two_pos]
    norm_cast
    omega
  have hhalf : ((num % den : Nat) : ℚ) / den = 1 / 2 ↔ 2 * (num % den) = den := by
    rw [div_eq_div_iff hpos.ne' two_ne_zero]
    norm_cast
    omega
  rw [hsplit]
  unfold roundQuotient
  simp only [← hless, ← hhalf]
  set f : ℚ := (num % den : Nat) / den
  split_ifs with hdown
  · refine ⟨by linarith, ?_, fun htie => ?_⟩
    · rcases hdown with h | ⟨h, -⟩ <;> linarith
    · rcases hdown with h | ⟨-, heven⟩
      · rcases htie with htie | htie <;> linarith
      · exact heven
  · obtain ⟨hnot, hodd⟩ := not_or.1 hdown
    have hcast : ((num / den + 1 : Nat) : ℚ) = (num / den : Nat) + 1 := Nat.cast_succ _
    refine ⟨by linarith, by linarith, fun htie => ?_⟩
    have hf : f = 1 / 2 := by rcases htie with htie | htie <;> linarith
    have hne : num / den % 2 ≠ 0 := fun heven => hodd ⟨hf, heven⟩
    omega

/-! ### The nearest number -/

theorem IsNearest.le_of_le {n : Nat} (h : IsNearest x r) (hx : x ≤ n) : r ≤ n := by
  by_contra hlt
  have hcast : (n : ℚ) + 1 ≤ r := by exact_mod_cast Nat.lt_of_not_le hlt
  have hlow := h.low
  linarith

theorem IsNearest.ge_of_ge {n : Nat} (h : IsNearest x r) (hx : n ≤ x) : n ≤ r := by
  by_contra hlt
  have hcast : (r : ℚ) + 1 ≤ n := by exact_mod_cast Nat.lt_of_not_le hlt
  have hhigh := h.high
  linarith

/-- Rounding on the grid on which a number has a significand of 53 bits is rounding among all numbers. -/
theorem roundsTo_grid (hx : x < twoTo 53) (hlow : e = 0 ∨ (twoTo 52 : ℚ) ≤ x) (h : IsNearest x r) :
    RoundsTo (x * 2 ^ ((e : ℤ) - 1074)) (e * twoTo 52 + r) := by
  have hpower : (0 : ℚ) < 2 ^ ((e : ℤ) - 1074) := by positivity
  have hr : r ≤ twoTo 53 := h.le_of_le hx.le
  have hrlow : e = 0 ∨ twoTo 52 ≤ r := hlow.imp_right h.ge_of_ge
  have hparity : (e * twoTo 52 + r) % 2 = r % 2 := by
    rw [show twoTo 52 = 2 * twoTo 51 from rfl, Nat.mul_left_comm, Nat.mul_add_mod]
  have hvalue := value_grid hr hrlow
  have hbelow (below : Nat) (hindex : below + 1 = e * twoTo 52 + r) :
      middle below ≤ x * 2 ^ ((e : ℤ) - 1074) ∧ (middle below = x * 2 ^ ((e : ℤ) - 1074) → r % 2 = 0) := by
    by_cases hinner : r ≠ 0 ∧ (e = 0 ∨ twoTo 52 < r)
    · obtain ⟨k, rfl⟩ : ∃ k, r = k + 1 := ⟨r - 1, by omega⟩
      have hsame : below = e * twoTo 52 + k := by omega
      have hmiddle := middle_grid (e := e) (r := k) (by omega) (by omega)
      have hnear := h.low
      rw [hsame, hmiddle, mul_le_mul_iff_left₀ hpower, mul_left_inj' hpower.ne']
      push_cast at hnear
      refine ⟨by linarith, fun htie => h.tie (.inl ?_)⟩
      push_cast
      linarith
    · -- The number below is on a finer grid, but the rounded one is not below its own.
      have hleast : e ≠ 0 ∧ r = twoTo 52 := by
        have hpos : 0 < twoTo 52 := by decide
        rcases Nat.eq_zero_or_pos e with rfl | he
        · rw [Nat.zero_mul] at hindex
          omega
        · omega
      have hge : (r : ℚ) ≤ x := by
        rw [hleast.2]
        exact hlow.resolve_left hleast.1
      have hlt := middle_lt_value_succ below
      rw [hindex, hvalue] at hlt
      have hle : (r : ℚ) * 2 ^ ((e : ℤ) - 1074) ≤ x * 2 ^ ((e : ℤ) - 1074) :=
        mul_le_mul_of_nonneg_right hge hpower.le
      exact ⟨by linarith, fun htie => absurd htie (by linarith)⟩
  have habove : x * 2 ^ ((e : ℤ) - 1074) ≤ middle (e * twoTo 52 + r) ∧
      (x * 2 ^ ((e : ℤ) - 1074) = middle (e * twoTo 52 + r) → r % 2 = 0) := by
    rcases Nat.lt_or_eq_of_le hr with hlt | hlast
    · have hnear := h.high
      rw [middle_grid hlt hrlow, mul_le_mul_iff_left₀ hpower, mul_left_inj' hpower.ne']
      exact ⟨hnear, fun htie => h.tie (.inr htie)⟩
    · have hlt := value_lt_middle (e * twoTo 52 + r)
      have hless : x * 2 ^ ((e : ℤ) - 1074) < r * 2 ^ ((e : ℤ) - 1074) := by
        rw [hlast]
        exact mul_lt_mul_of_pos_right hx hpower
      rw [hvalue] at hlt
      exact ⟨by linarith, fun htie => absurd htie (by linarith)⟩
  refine ⟨fun below hindex => (hbelow below hindex).1, habove.1, fun below hindex htie => ?_, fun htie => ?_⟩
  · rw [hparity]
    exact (hbelow below hindex).2 htie
  · rw [hparity]
    exact habove.2 htie

theorem log2_bounds {n : Nat} (hn : 0 < n) : (2 : ℚ) ^ (n.log2 : ℤ) ≤ n ∧ (n : ℚ) < 2 ^ ((n.log2 : ℤ) + 1) := by
  constructor
  · rw [zpow_natCast]
    exact_mod_cast Nat.log2_self_le hn.ne'
  · exact_mod_cast Nat.lt_log2_self (n := n)

variable {num den : Nat}

theorem cast_fraction (num den : Nat) (q : ℤ) :
    ((num * twoTo (-q).toNat : Nat) : ℚ) / (den * twoTo q.toNat : Nat) = num / den * 2 ^ (-q) := by
  have hcast := cast_mul_twoTo_div num den (-q)
  rwa [neg_neg] at hcast

/-- A quotient is rounded on the grid of the multiples of a power of two, if that is its own. -/
theorem roundsTo_fraction (hden : 0 < den) {q : ℤ} (hq : -1074 ≤ q)
    (hhigh : (num / den : ℚ) * 2 ^ (-q) < twoTo 53)
    (hlow : q = -1074 ∨ (twoTo 52 : ℚ) ≤ num / den * 2 ^ (-q)) :
    RoundsTo (num / den) ((q + 1074).toNat * twoTo 52 +
      roundQuotient (num * twoTo (-q).toNat) (den * twoTo q.toNat)) := by
  have hnearest := isNearest_roundQuotient (num * twoTo (-q).toNat) (Nat.mul_pos hden (twoTo_pos q.toNat))
  have hexponent : (((q + 1074).toNat : Nat) : ℤ) - 1074 = q := by omega
  have hcancel : (num / den : ℚ) * 2 ^ (-q) * 2 ^ q = num / den := by
    rw [mul_assoc, ← zpow_add₀ two_ne_zero, neg_add_cancel, zpow_zero, mul_one]
  rw [cast_fraction] at hnearest
  have hgrid := roundsTo_grid (e := (q + 1074).toNat) hhigh (hlow.imp_left (by omega)) hnearest
  rwa [hexponent, hcancel] at hgrid

theorem roundsTo_nearestIndex (hnum : 0 < num) (hden : 0 < den) :
    RoundsTo (num / den) (nearestIndex num den) := by
  have hpos : (0 : ℚ) < den := by exact_mod_cast hden
  obtain ⟨hnumLow, hnumHigh⟩ := log2_bounds hnum
  obtain ⟨hdenLow, hdenHigh⟩ := log2_bounds hden
  set estimate : ℤ := (num.log2 : ℤ) - den.log2 - 53 with hestimate
  have hhigh : (num / den : ℚ) < 2 ^ (estimate + 54) := by
    have hsum : estimate + 54 + den.log2 = (num.log2 : ℤ) + 1 := by omega
    rw [div_lt_iff₀ hpos]
    calc (num : ℚ) < 2 ^ (estimate + 54 + den.log2) := by rwa [hsum]
      _ = 2 ^ (estimate + 54) * 2 ^ (den.log2 : ℤ) := zpow_add₀ two_ne_zero _ _
      _ ≤ 2 ^ (estimate + 54) * den := by gcongr
  have hlow : 2 ^ (estimate + 52) ≤ (num / den : ℚ) := by
    have hsum : estimate + 52 + (den.log2 + 1) = (num.log2 : ℤ) := by omega
    rw [le_div_iff₀ hpos]
    calc (2 : ℚ) ^ (estimate + 52) * den ≤ 2 ^ (estimate + 52) * 2 ^ ((den.log2 : ℤ) + 1) := by gcongr
      _ = 2 ^ (num.log2 : ℤ) := by rw [← zpow_add₀ two_ne_zero, hsum]
      _ ≤ num := hnumLow
  -- On the grid of the estimate the significand has 53 or 54 bits.
  have hshift (k q : ℤ) : (2 : ℚ) ^ (k + q) * 2 ^ (-q) = 2 ^ k := by
    rw [← zpow_add₀ two_ne_zero, add_neg_cancel_right]
  unfold nearestIndex
  dsimp only
  rw [← hestimate]
  set q₀ : ℤ := max estimate (-1074)
  have hdivision : num * twoTo (-q₀).toNat / (den * twoTo q₀.toNat) < twoTo 53 ↔
      (num / den : ℚ) * 2 ^ (-q₀) < twoTo 53 := by
    have hfraction : (0 : ℚ) < (den * twoTo q₀.toNat : Nat) := by
      exact_mod_cast Nat.mul_pos hden (twoTo_pos _)
    rw [Nat.div_lt_iff_lt_mul (Nat.mul_pos hden (twoTo_pos _)), ← cast_fraction, div_lt_iff₀ hfraction]
    norm_cast
  simp only [hdivision]
  split_ifs with hfits
  · refine roundsTo_fraction hden (le_max_right _ _) hfits ?_
    rcases max_choice estimate (-1074) with hmax | hmax
    · have hsame : 52 + q₀ = estimate + 52 := by omega
      right
      calc (twoTo 52 : ℚ) = 2 ^ (52 : ℤ) := cast_twoTo 52
        _ = 2 ^ (estimate + 52) * 2 ^ (-q₀) := by rw [← hsame, hshift]
        _ ≤ num / den * 2 ^ (-q₀) := by gcongr
    · exact .inl hmax
  · have hnext : (num / den : ℚ) * 2 ^ (-(q₀ + 1)) = num / den * 2 ^ (-q₀) / 2 := by
      rw [neg_add, zpow_add₀ two_ne_zero, zpow_neg_one, div_eq_mul_inv _ (2 : ℚ), mul_assoc]
    have hdouble : ((twoTo 53 : Nat) : ℚ) = 2 * (twoTo 52 : Nat) := by
      rw [cast_twoTo, cast_twoTo, pow_succ']
    have hbound : (num / den : ℚ) * 2 ^ (-q₀) < 2 * (twoTo 53 : Nat) := by
      have hle : estimate + 54 ≤ 54 + q₀ := by omega
      calc (num / den : ℚ) * 2 ^ (-q₀) < 2 ^ (estimate + 54) * 2 ^ (-q₀) := by gcongr
        _ ≤ 2 ^ (54 + q₀) * 2 ^ (-q₀) := by gcongr; exact one_le_two
        _ = 2 ^ (54 : ℤ) := hshift 54 q₀
        _ = 2 * (twoTo 53 : Nat) := by rw [cast_twoTo, ← pow_succ']; norm_cast
    refine roundsTo_fraction hden (by omega) ?_ (.inr ?_)
    · rw [hnext]
      linarith
    · rw [hnext]
      linarith

/-! ### The nearest number to a decimal -/

theorem middle_zero : middle 0 = 1 / 2 * 2 ^ (-1074 : ℤ) := by
  have hgrid := middle_grid (e := 0) (r := 0) (by decide) (.inl rfl)
  rw [Nat.zero_mul, Nat.cast_zero, zero_add] at hgrid
  rw [hgrid, Nat.cast_zero, zero_sub, zero_add]

theorem roundsTo_zero (hx : x < middle 0) : RoundsTo x 0 := by
  refine ⟨fun below h => ?_, hx.le, fun below h => ?_, fun htie => absurd htie hx.ne⟩
  · exact absurd h (Nat.succ_ne_zero below)
  · exact absurd h (Nat.succ_ne_zero below)

/-- The middles between finite numbers lie below the first power of two that is none. -/
theorem middle_lt_of_lt (h : index < 0x7FF0000000000000) : middle index < 2 ^ (1024 : ℤ) := by
  have hlimit : value 0x7FF0000000000000 = 2 ^ (1024 : ℤ) := by
    have hgrid := value_grid (e := 2046) (r := twoTo 52) (by decide) (.inr le_rfl)
    rw [cast_twoTo, ← zpow_natCast, ← zpow_add₀ two_ne_zero] at hgrid
    exact hgrid
  rw [← hlimit]
  exact lt_of_lt_of_le (middle_lt_value_succ index) (strictMono_value.monotone h)

theorem exists_roundsTo (hx : 0 ≤ x) : ∃ index, RoundsTo x index := by
  rcases hx.eq_or_lt with rfl | hpos
  · exact ⟨0, roundsTo_zero (by rw [middle_zero]; positivity)⟩
  · have hnum : 0 < x.num.toNat := by
      have hsign := Rat.num_pos.2 hpos
      omega
    have hquotient : (x.num.toNat : ℚ) / x.den = x := by
      have hcast : ((x.num.toNat : Nat) : ℤ) = x.num := Int.toNat_of_nonneg (Rat.num_nonneg.2 hx)
      rw [← Int.cast_natCast, hcast, Rat.num_div_den]
    rw [← hquotient]
    exact ⟨_, roundsTo_nearestIndex hnum x.den_pos⟩

theorem two_zpow_le_ten_zpow : (2 : ℚ) ^ (1024 : ℤ) ≤ 10 ^ (310 : ℤ) := by
  exact_mod_cast (by decide +kernel : 2 ^ 1024 ≤ 10 ^ 310)

theorem ten_zpow_lt_middle_zero : (10 : ℚ) ^ (-330 : ℤ) < middle 0 := by
  have hpowers : (2 : ℚ) ^ (1075 : ℤ) < 10 ^ (330 : ℤ) := by
    exact_mod_cast (by decide +kernel : 2 ^ 1075 < 10 ^ 330)
  have hmiddle : middle 0 = (2 ^ (1075 : ℤ))⁻¹ := by
    rw [middle_zero, one_div, ← zpow_neg_one, ← zpow_add₀ two_ne_zero, ← zpow_neg]
    rfl
  rw [hmiddle, zpow_neg]
  exact inv_strictAnti₀ (by positivity) hpowers

/-- A finite number is a decimal. -/
theorem cast_exact (m : Nat) (q : ℤ) :
    ((m * twoTo q.toNat * fiveTo (-q).toNat : Nat) : ℚ) * 10 ^ min q 0 = m * 2 ^ q := by
  have hten : (10 : ℚ) ^ min q 0 = (5 ^ (-q).toNat * 2 ^ (-q).toNat)⁻¹ := by
    rw [← mul_pow, show min q 0 = -((-q).toNat : ℤ) by omega, zpow_neg, zpow_natCast]
    norm_num
  have hfive : (5 : ℚ) ^ (-q).toNat ≠ 0 := by positivity
  rw [Nat.cast_mul, Nat.cast_mul, cast_twoTo, cast_fiveTo, hten, zpow_eq_div two_ne_zero]
  field_simp

/-- **Decimals are rounded to the nearest**: the number at the index to which a decimal rounds is the one
that is nearest to it, or the infinity if the index is beyond the finite numbers. -/
theorem nearest_eq (negative : Bool) {coefficient : Nat} {exponent : ℤ}
    (h : RoundsTo (coefficient * 10 ^ exponent) index) :
    nearest negative coefficient exponent = ofIndex negative index := by
  unfold nearest
  dsimp only
  split_ifs with hsmall hlarge
  · have hless : (coefficient : ℚ) * 10 ^ exponent < middle 0 := by
      by_cases hzero : coefficient = 0
      · rw [hzero, Nat.cast_zero, zero_mul, middle_zero]
        positivity
      · have hle : ((Nat.toDigits 10 coefficient).length : ℤ) + exponent ≤ -330 := by omega
        have hsize := (size_bounds hzero exponent).2.trans_le (ten_zpow_le hle)
        exact hsize.trans ten_zpow_lt_middle_zero
    rw [h.unique (roundsTo_zero hless)]
  · obtain ⟨hne, -⟩ := not_or.1 hsmall
    have hle : 310 ≤ ((Nat.toDigits 10 coefficient).length : ℤ) - 1 + exponent := by omega
    have hsize := (ten_zpow_le hle).trans (size_bounds hne exponent).1
    have hlimit : ¬index < 0x7FF0000000000000 := by
      intro hlt
      exact absurd (h.high.trans_lt (middle_lt_of_lt hlt)) (not_lt.2 (two_zpow_le_ten_zpow.trans hsize))
    rw [ofIndex, dif_neg hlimit]
  · obtain ⟨hne, -⟩ := not_or.1 hsmall
    have hnearest := roundsTo_nearestIndex (Nat.mul_pos (Nat.pos_of_ne_zero hne) (tenTo_pos exponent.toNat))
      (tenTo_pos (-exponent).toNat)
    rw [cast_mul_tenTo_div] at hnearest
    rw [h.unique hnearest]

end Binary64

end CardPayments
