import CardPayments.Proofs.Binary64.Shortest
import CardPayments.Proofs.Decimal.Reader

/-!
# Written floating-point numbers

The text of a finite floating-point number is a sign and a magnitude whose digits round to the number
(`Binary64.exists_magnitude_indexText`), however they are laid out.  So it is read as a finite decimal
(`Binary64.read_toText`).  That its digits and its exponent are within the bounds of decimals follows from the
size of the numbers of the format alone, with much room: no use is made of how short the text is.
-/

namespace CardPayments

namespace Binary64

open Text Decimal

/-! ### Layout -/

/-- Only a zero stands before the point. -/
def belowOne (digits : Text) (lead : Int) : Magnitude :=
  ⟨[CodePoint.ofChar '0'], some (List.replicate (-lead - 1).toNat (CodePoint.ofChar '0') ++ digits), none⟩

/-- The digits are filled up to the point, and something always stands behind it. -/
def positional (digits : Text) (whole : Nat) : Magnitude :=
  ⟨(digits ++ List.replicate (whole - digits.length) (CodePoint.ofChar '0')).take whole,
    some (if (digits.drop whole).isEmpty then [CodePoint.ofChar '0'] else digits.drop whole), none⟩

/-- One digit stands before the point, and the rest, if there is one, behind it. -/
def scientific (digits : Text) (lead : Int) : Magnitude :=
  ⟨digits.take 1, if (digits.drop 1).isEmpty then none else some (digits.drop 1),
    some (decide (lead < 0), ofNatPadded 2 lead.natAbs)⟩

/-- The number as which digits are laid out. -/
def laidOut (digits : Text) (lead : Int) : Magnitude :=
  if positionalFrom ≤ lead ∧ lead < positionalBelow then
    if lead < 0 then belowOne digits lead else positional digits (lead.toNat + 1)
  else scientific digits lead

theorem text_scientific (digits : Text) (lead : Int) :
    digits.take 1 ++ (if (digits.drop 1).isEmpty then digits.drop 1 else "." ++ digits.drop 1) ++
      (if lead < 0 then "e-" else "e+") ++ Text.ofNatPadded 2 lead.natAbs = (scientific digits lead).text := by
  have hsign : Text.ofString (if lead < 0 then "e-" else "e+") =
      [CodePoint.ofChar 'e', CodePoint.ofChar (if decide (lead < 0) = true then '-' else '+')] := by
    by_cases hneg : lead < 0
    · rw [if_pos hneg, if_pos (decide_eq_true hneg)]
      rfl
    · rw [if_neg hneg, if_neg (by simpa using hneg)]
      rfl
  have hpoint : (if (digits.drop 1).isEmpty then digits.drop 1 else "." ++ digits.drop 1) =
      (scientific digits lead).fractionText := by
    unfold scientific Magnitude.fractionText
    by_cases hempty : (digits.drop 1).isEmpty = true
    · rw [if_pos hempty, if_pos hempty, List.isEmpty_iff.1 hempty]
      rfl
    · rw [if_neg hempty, if_neg hempty]
      rfl
  rw [hsign, hpoint, List.append_assoc]
  rfl

theorem layout_eq (digits : Text) (lead : Int) : layout digits lead = (laidOut digits lead).text := by
  unfold layout laidOut
  dsimp only
  by_cases hpositional : positionalFrom ≤ lead ∧ lead < positionalBelow
  · rw [if_pos hpositional, if_pos hpositional]
    by_cases hneg : lead < 0
    · rw [if_pos hneg, if_pos hneg]
      show [CodePoint.ofChar '0', CodePoint.ofChar '.'] ++ _ ++ _ = [CodePoint.ofChar '0'] ++
        (CodePoint.ofChar '.' :: _) ++ []
      rw [List.append_nil, List.append_assoc]
      rfl
    · rw [if_neg hneg, if_neg hneg]
      show _ ++ [CodePoint.ofChar '.'] ++ _ = _ ++ (CodePoint.ofChar '.' :: _) ++ []
      rw [List.append_nil, List.append_assoc]
      rfl
  · rw [if_neg hpositional, if_neg hpositional]
    exact text_scientific digits lead

/-- A number has these digits, and the first one stands for `10 ^ lead`. -/
structure IsLaidOut (m : Magnitude) (digits : Text) (lead : Int) : Prop where
  isWritten : m.IsWritten
  isReal : m.IsReal
  size_le : m.size ≤ digits.length + lead.natAbs + 2
  value_eq : (m.coefficient : ℚ) * 10 ^ m.scale = number digits * 10 ^ (lead + 1 - digits.length)

section

variable {digits : Text} (hdigits : digits.IsNumeral) (hne : digits ≠ []) {lead : Int}

include hdigits hne

theorem isLaidOut_belowOne (hlead : lead < 0) : IsLaidOut (belowOne digits lead) digits lead := by
  let zeros : Text := List.replicate (-lead - 1).toNat (CodePoint.ofChar '0')
  have hfraction : IsNumeral (zeros ++ digits) := (isNumeral_replicate _).append hdigits
  have hlength : (zeros ++ digits).length = (-lead - 1).toNat + digits.length := by
    rw [List.length_append, List.length_replicate]
  have hcoefficient : (belowOne digits lead).coefficient = number digits := by
    show number (List.replicate 1 (CodePoint.ofChar '0') ++ (zeros ++ digits)) = _
    rw [number_append _ hfraction, number_append _ hdigits, number_replicate, number_replicate]
    omega
  have hscale : (belowOne digits lead).scale = lead + 1 - digits.length := by
    show 0 - ((zeros ++ digits).length : Int) = _
    omega
  refine ⟨⟨isNumeral_replicate 1, List.cons_ne_nil _ _, ?_, nofun⟩, ⟨⟨.inl rfl, ?_⟩, .inl rfl⟩, ?_, ?_⟩
  · rintro _ ⟨⟩
    exact hfraction
  · show some (zeros ++ digits) ≠ some []
    rw [Ne, Option.some_inj]
    exact List.append_ne_nil_of_right_ne_nil zeros hne
  · show ([CodePoint.ofChar '0'] ++ (zeros ++ digits)).length + 0 ≤ _
    rw [List.length_append, List.length_singleton]
    omega
  · rw [hcoefficient, hscale]

variable (hhead : digits.head? ≠ some (CodePoint.ofChar '0'))

include hhead

/-- The digits end before the point or at it. -/
theorem isLaidOut_positional_of_le {whole : Nat} (hwhole : lead = whole - 1) (hle : digits.length ≤ whole) :
    IsLaidOut (positional digits whole) digits lead := by
  let zeros : Text := List.replicate (whole - digits.length) (CodePoint.ofChar '0')
  have hlength : (digits ++ zeros).length = whole := by
    rw [List.length_append, List.length_replicate]
    omega
  have hform : positional digits whole = ⟨digits ++ zeros, some [CodePoint.ofChar '0'], none⟩ := by
    rw [positional, List.drop_eq_nil_of_le hle, List.take_of_length_le hlength.le]
    rfl
  have hlast : IsNumeral (List.replicate 1 (CodePoint.ofChar '0')) := isNumeral_replicate 1
  have hcoefficient : (positional digits whole).coefficient = number digits * 10 ^ (whole - digits.length + 1) := by
    rw [hform]
    show number (digits ++ zeros ++ List.replicate 1 (CodePoint.ofChar '0')) = _
    rw [number_append _ hlast, number_append _ (isNumeral_replicate _), number_replicate, number_replicate,
      List.length_replicate, List.length_replicate, pow_succ]
    ring
  have hscale : (positional digits whole).scale = -1 := by
    rw [hform]
    rfl
  have hstart : digits ++ zeros ≠ [] := List.append_ne_nil_of_left_ne_nil hne zeros
  refine ⟨?_, ?_, ?_, ?_⟩
  · rw [hform]
    refine ⟨hdigits.append (isNumeral_replicate _), hstart, ?_, nofun⟩
    rintro _ ⟨⟩
    exact hlast
  · rw [hform]
    refine ⟨⟨.inr ?_, ?_⟩, .inl rfl⟩
    · show (digits ++ zeros).head? ≠ _
      rwa [List.head?_append_of_ne_nil _ hne]
    · exact fun h => List.cons_ne_nil _ _ (Option.some.inj h)
  · rw [hform]
    show (digits ++ zeros ++ [CodePoint.ofChar '0']).length + 0 ≤ _
    rw [List.length_append, hlength, List.length_singleton]
    omega
  · have hexponent : lead + 1 - digits.length = ((whole - digits.length + 1 : Nat) : ℤ) + -1 := by omega
    rw [hcoefficient, hscale, hexponent, ten_zpow_add, zpow_natCast]
    push_cast
    ring

/-- Some digits stand before the point, and some behind it. -/
theorem isLaidOut_positional_of_lt {whole : Nat} (hpos : whole ≠ 0) (hwhole : lead = whole - 1)
    (hlt : whole < digits.length) : IsLaidOut (positional digits whole) digits lead := by
  have hdrop : (digits.drop whole).length = digits.length - whole := List.length_drop
  have hbehind : digits.drop whole ≠ [] := by
    intro h
    rw [h, List.length_nil] at hdrop
    omega
  have hform : positional digits whole = ⟨digits.take whole, some (digits.drop whole), none⟩ := by
    rw [positional, List.isEmpty_eq_false_iff.2 hbehind, show whole - digits.length = 0 by omega,
      List.replicate_zero, List.append_nil]
    rfl
  have hall : (positional digits whole).digits = digits := by
    rw [hform]
    exact List.take_append_drop whole digits
  have hscale : (positional digits whole).scale = lead + 1 - digits.length := by
    rw [hform]
    show 0 - ((digits.drop whole).length : Int) = _
    omega
  refine ⟨?_, ?_, ?_, ?_⟩
  · rw [hform]
    refine ⟨hdigits.of_subset (List.take_subset _ _), ?_, ?_, nofun⟩
    · rw [Ne, List.take_eq_nil_iff]
      exact not_or.2 ⟨hpos, hne⟩
    · rintro _ ⟨⟩
      exact hdigits.of_subset (List.drop_subset _ _)
  · rw [hform]
    refine ⟨⟨.inr ?_, fun h => hbehind (Option.some.inj h)⟩, .inl rfl⟩
    show (digits.take whole).head? ≠ _
    rwa [List.head?_take, if_neg hpos]
  · rw [Magnitude.size, hall, hform]
    show digits.length + 0 ≤ _
    omega
  · rw [Magnitude.coefficient, hall, hscale]

theorem isLaidOut_scientific : IsLaidOut (scientific digits lead) digits lead := by
  have hpower : (scientific digits lead).power = lead := by
    simp only [Magnitude.power, scientific, Option.map_some, Option.getD_some, valueOfDigits_ofNatPadded,
      decide_eq_true_eq]
    split_ifs with hneg
    · rw [Int.ofNat_natAbs_of_nonpos hneg.le, neg_neg]
    · exact Int.natAbs_of_nonneg (not_lt.1 hneg)
  have hfraction : (scientific digits lead).fraction.getD [] = digits.drop 1 := by
    unfold scientific
    dsimp only
    split_ifs with hempty
    · exact (List.isEmpty_iff.1 hempty).symm
    · rfl
  have hall : (scientific digits lead).digits = digits := by
    rw [Magnitude.digits, hfraction]
    exact List.take_append_drop 1 digits
  have hexponent : ofNatPadded 2 lead.natAbs ≠ [] := by
    intro h
    exact ofNat_ne_nil lead.natAbs (List.append_eq_nil_iff.1 h).2
  have hpos : 0 < digits.length := List.length_pos_iff.2 hne
  refine ⟨⟨hdigits.of_subset (List.take_subset _ _), ?_, ?_, ?_⟩, ⟨⟨.inr ?_, ?_⟩, .inr rfl⟩, ?_, ?_⟩
  · show digits.take 1 ≠ []
    rw [Ne, List.take_eq_nil_iff]
    exact not_or.2 ⟨one_ne_zero, hne⟩
  · intro f hf
    obtain ⟨_, hdrop⟩ := Option.ite_none_left_eq_some.1 hf
    rw [← Option.some.inj hdrop]
    exact hdigits.of_subset (List.drop_subset _ _)
  · rintro _ ⟨⟩
    exact ⟨isNumeral_ofNatPadded _ _, hexponent⟩
  · show (digits.take 1).head? ≠ _
    rwa [List.head?_take, if_neg one_ne_zero]
  · intro hf
    obtain ⟨hempty, hdrop⟩ := Option.ite_none_left_eq_some.1 hf
    rw [Option.some.inj hdrop] at hempty
    exact hempty rfl
  · rw [Magnitude.size, hall, hpower]
    omega
  · have hlength : (digits.drop 1).length = digits.length - 1 := List.length_drop
    have hscale : (scientific digits lead).scale = lead + 1 - digits.length := by
      rw [Magnitude.scale, hpower, hfraction]
      omega
    rw [Magnitude.coefficient, hall, hscale]

/-- Digits are laid out as the number that they denote. -/
theorem isLaidOut_laidOut : IsLaidOut (laidOut digits lead) digits lead := by
  unfold laidOut
  split_ifs with hpositional hneg
  · exact isLaidOut_belowOne hdigits hne hneg
  · have hwhole : lead = (lead.toNat + 1 : Nat) - 1 := by omega
    by_cases hle : digits.length ≤ lead.toNat + 1
    · exact isLaidOut_positional_of_le hdigits hne hhead hwhole hle
    · exact isLaidOut_positional_of_lt hdigits hne hhead (Nat.succ_ne_zero _) hwhole (by omega)
  · exact isLaidOut_scientific hdigits hne hhead

end

/-! ### The size of the digits -/

variable {index m : Nat} {q : Int}

/-- The significand and the exponent of a positive number. -/
structure IsScaled (m : Nat) (q : Int) : Prop where
  pos : 0 < m
  lt : m < 2 ^ 53
  ge : -1074 ≤ q
  le : q ≤ 971

theorem isScaled_scaled (hpos : index ≠ 0) (hlt : index < 0x7FF0000000000000) :
    IsScaled (scaled index).1 (scaled index).2 := by
  have htwo : twoTo 52 = 4503599627370496 := rfl
  unfold scaled
  rw [htwo]
  split_ifs with hsmall
  · constructor <;> dsimp only <;> omega
  · constructor <;> dsimp only <;> omega

theorem natAbs_decimalScale_le (h : IsScaled m q) : (decimalScale m q).natAbs ≤ 400 := by
  have hlog : m.log2 < 53 := (Nat.log2_lt (Nat.ne_of_gt h.pos)).2 h.lt
  have hge := h.ge
  have hle := h.le
  unfold decimalScale
  dsimp only
  set guess : Int := ((m.log2 : Int) + q) * 30103 / 100000 with hguess
  have hguessBound : -330 ≤ guess ∧ guess ≤ 330 := by omega
  cases hfound : [guess - 1, guess, guess + 1, guess + 2].find? fun k => compareScaled 1 k m q == .gt with
  | none =>
    rw [Option.getD_none]
    omega
  | some k =>
    have hk := List.mem_of_find?_eq_some hfound
    simp only [List.mem_cons, List.not_mem_nil, or_false] at hk
    rw [Option.getD_some]
    omega

/-- Zero reads back as no positive number. -/
theorem ne_zero_of_readsBack {digits : Nat} {exponent : Int} (h : IsScaled (scaled index).1 (scaled index).2)
    (hback : readsBack index digits exponent = true) : digits ≠ 0 := by
  rintro rfl
  have hbelow (low : Nat) (hlow : 0 < low) (j : Int) : compareScaled 0 exponent low j = .lt := by
    rw [compareScaled, Nat.zero_mul, Nat.zero_mul, Nat.compare_eq_lt]
    exact Nat.mul_pos (Nat.mul_pos hlow (twoTo_pos _)) (tenTo_pos _)
  have hm := h.pos
  unfold readsBack at hback
  dsimp only at hback
  rw [hbelow _ (by split_ifs <;> omega)] at hback
  simp at hback

/-- A decimal on a grid that reads back is not zero, and not much greater than the number. -/
theorem onGrid?_bounds {digits : Nat} {exponent : Int} (h : IsScaled (scaled index).1 (scaled index).2)
    (hgrid : onGrid? index exponent = some digits) :
    digits ≠ 0 ∧ digits ≤ (scaled index).1 * twoTo (scaled index).2.toNat * tenTo (-exponent).toNat + 1 := by
  unfold onGrid? at hgrid
  dsimp only at hgrid
  set below := (scaled index).1 * twoTo (scaled index).2.toNat * tenTo (-exponent).toNat /
    (twoTo (-(scaled index).2).toNat * tenTo exponent.toNat) with hdef
  have hle : below ≤ (scaled index).1 * twoTo (scaled index).2.toNat * tenTo (-exponent).toNat :=
    Nat.div_le_self _ _
  have hdown (hback : readsBack index below exponent = true) := ne_zero_of_readsBack h hback
  have hnext : below + 1 ≠ 0 := Nat.succ_ne_zero below
  split at hgrid
  · obtain rfl := Option.some.inj hgrid
    exact ⟨hdown (by assumption), by omega⟩
  · obtain rfl := Option.some.inj hgrid
    exact ⟨hnext, by omega⟩
  · cases hgrid
  · next hback _ =>
    have hbelow := hdown hback
    split at hgrid <;> obtain rfl := Option.some.inj hgrid
    · exact ⟨hbelow, by omega⟩
    · exact ⟨hnext, by omega⟩
    · split_ifs <;> exact ⟨by omega, by omega⟩

/-- Products of powers, by the powers of ten that are as long. -/
theorem mul_mul_le {x y z a b c : Nat} (hx : x ≤ 10 ^ a) (hy : y ≤ 10 ^ b) (hz : z ≤ 10 ^ c) :
    x * y * z ≤ 10 ^ (a + b + c) := by
  rw [pow_add, pow_add]
  exact Nat.mul_le_mul (Nat.mul_le_mul hx hy) hz

theorem pow_add_one_lt {a k : Nat} (h : a < k) : 10 ^ a + 1 < 10 ^ k := by
  have hpos : 0 < 10 ^ a := Nat.pow_pos (by decide)
  have hstep : 10 ^ (a + 1) ≤ 10 ^ k := Nat.pow_le_pow_right (by decide) h
  rw [pow_succ] at hstep
  omega

/-- The shortest decimal of a positive number is not zero, and neither its digits nor its exponent are
excessive. -/
theorem shortest_bounds (hpos : index ≠ 0) (hlt : index < 0x7FF0000000000000) :
    (shortest index).1 ≠ 0 ∧ (shortest index).1 < 10 ^ 3000 ∧ (shortest index).2.natAbs ≤ 2000 := by
  have h := isScaled_scaled hpos hlt
  have hge := h.ge
  have hle := h.le
  have hscale := natAbs_decimalScale_le h
  have hm : (scaled index).1 ≤ 10 ^ 53 :=
    h.lt.le.trans (Nat.pow_le_pow_left (by decide) 53)
  have htwo (n : Nat) : twoTo n ≤ 10 ^ n := Nat.pow_le_pow_left (by decide) n
  have hfive (n : Nat) : fiveTo n ≤ 10 ^ n := Nat.pow_le_pow_left (by decide) n
  have hten (n : Nat) : tenTo n ≤ 10 ^ n := Nat.le_refl _
  unfold shortest
  dsimp only
  cases hfound : (List.range 17).findSome? fun n : Nat =>
      (onGrid? index (decimalScale (scaled index).1 (scaled index).2 - (n + 1))).map fun digits =>
        (digits, decimalScale (scaled index).1 (scaled index).2 - (n + 1)) with
  | none =>
    have hproduct := mul_mul_le hm (htwo (scaled index).2.toNat) (hfive (-(scaled index).2).toNat)
    have hlast := pow_add_one_lt (k := 3000) (a := 53 + (scaled index).2.toNat + (-(scaled index).2).toNat) (by omega)
    refine ⟨?_, ?_, ?_⟩
    · exact Nat.ne_of_gt (Nat.mul_pos (Nat.mul_pos h.pos (twoTo_pos _)) (Nat.pow_pos (by decide)))
    · show _ < _
      exact lt_of_le_of_lt hproduct (by omega)
    · show (min (scaled index).2 0).natAbs ≤ 2000
      omega
  | some found =>
    obtain ⟨n, hn, hmap⟩ := List.exists_of_findSome?_eq_some hfound
    obtain ⟨digits, hgrid, rfl⟩ := Option.map_eq_some_iff.1 hmap
    have hrange := List.mem_range.1 hn
    obtain ⟨hne, hdigits⟩ := onGrid?_bounds h hgrid
    have hproduct := mul_mul_le hm (htwo (scaled index).2.toNat)
      (hten (-(decimalScale (scaled index).1 (scaled index).2 - (n + 1))).toNat)
    have hlast := pow_add_one_lt (k := 3000) (a := 53 + (scaled index).2.toNat +
      (-(decimalScale (scaled index).1 (scaled index).2 - (n + 1))).toNat) (by omega)
    refine ⟨hne, ?_, ?_⟩
    · show digits < _
      omega
    · show (decimalScale (scaled index).1 (scaled index).2 - (n + 1)).natAbs ≤ 2000
      omega

/-! ### The text of a number -/

/-- The digits of a number without the zeros at the end. -/
def trimmed (written : Text) : Text := (written.reverse.dropWhile (· = CodePoint.ofChar '0')).reverse

theorem exists_trimmed (written : Text) :
    ∃ k, written = trimmed written ++ List.replicate k (CodePoint.ofChar '0') := by
  let p (c : CodePoint) : Bool := c = CodePoint.ofChar '0'
  have hzero : ∀ c ∈ written.reverse.takeWhile p, c = CodePoint.ofChar '0' := by
    intro c hc
    exact of_decide_eq_true (List.mem_takeWhile_imp (p := p) hc)
  have hzeros := List.eq_replicate_iff.2 ⟨rfl, hzero⟩
  refine ⟨(written.reverse.takeWhile p).length, ?_⟩
  rw [← List.reverse_replicate, ← hzeros, trimmed, ← List.reverse_append]
  show written = (written.reverse.takeWhile p ++ written.reverse.dropWhile p).reverse
  rw [List.takeWhile_append_dropWhile, List.reverse_reverse]

/-- The digits of a positive number are a numeral that begins with no zero, and some zeros behind it. -/
theorem exists_trimmed_ofNat {n : Nat} (hn : n ≠ 0) :
    ∃ k, (ofNat n).length = (trimmed (ofNat n)).length + k ∧ n = number (trimmed (ofNat n)) * 10 ^ k ∧
      IsNumeral (trimmed (ofNat n)) ∧ trimmed (ofNat n) ≠ [] ∧
      (trimmed (ofNat n)).head? ≠ some (CodePoint.ofChar '0') := by
  obtain ⟨k, hk⟩ := exists_trimmed (ofNat n)
  have hnumber : n = number (trimmed (ofNat n)) * 10 ^ k := by
    have hsame := number_ofNat n
    rwa [hk, number_append _ (isNumeral_replicate k), number_replicate, List.length_replicate, Nat.add_zero,
      eq_comm] at hsame
  have hsome : trimmed (ofNat n) ≠ [] := by
    intro hnil
    rw [hnil] at hnumber
    exact hn (hnumber.trans (Nat.zero_mul _))
  refine ⟨k, ?_, hnumber, ?_, hsome, ?_⟩
  · conv_lhs => rw [hk]
    rw [List.length_append, List.length_replicate]
  · refine (isNumeral_ofNat n).of_subset ?_
    intro c hc
    rw [hk]
    exact List.mem_append_left _ hc
  · have hfirst := head?_ofNat hn
    rwa [hk, List.head?_append_of_ne_nil _ hsome] at hfirst

/-- Zero with a point. -/
def zeroMagnitude : Magnitude := ⟨[CodePoint.ofChar '0'], some [CodePoint.ofChar '0'], none⟩

theorem isWritten_zeroMagnitude : zeroMagnitude.IsWritten := by
  refine ⟨isNumeral_replicate 1, List.cons_ne_nil _ _, ?_, nofun⟩
  rintro _ ⟨⟩
  exact isNumeral_replicate 1

theorem roundsTo_zeroMagnitude : RoundsTo (zeroMagnitude.coefficient * 10 ^ zeroMagnitude.scale) 0 := by
  have hcoefficient : zeroMagnitude.coefficient = 0 := number_replicate 2
  rw [hcoefficient, Nat.cast_zero, zero_mul]
  apply roundsTo_zero
  rw [middle_zero]
  positivity

/-- The text of a number is laid out from digits that round to it. -/
theorem exists_magnitude_indexText (hlt : index < 0x7FF0000000000000) :
    ∃ m : Magnitude, m.IsWritten ∧ m.IsReal ∧ m.size ≤ 100000 ∧ indexText index = m.text ∧
      RoundsTo (m.coefficient * 10 ^ m.scale) index := by
  unfold indexText
  split_ifs with hzero
  · rw [hzero]
    have hreal : zeroMagnitude.IsReal := ⟨⟨.inl rfl, by decide⟩, .inl rfl⟩
    exact ⟨zeroMagnitude, isWritten_zeroMagnitude, hreal, by decide, rfl, roundsTo_zeroMagnitude⟩
  · obtain ⟨hne, hdigits, hexponent⟩ := shortest_bounds hzero hlt
    have hrounds := roundsTo_shortest index
    dsimp only
    set d := (shortest index).1
    set e := (shortest index).2
    have hlength : (ofNat d).length ≤ 3000 := length_ofNat_le (by decide) hdigits
    obtain ⟨k, hsum, hnumber, hnumeral, hsome, hhead⟩ := exists_trimmed_ofNat hne
    have hlaid : IsLaidOut _ (trimmed (ofNat d)) (e + (ofNat d).length - 1) :=
      isLaidOut_laidOut hnumeral hsome hhead
    have hsize := hlaid.size_le
    refine ⟨_, hlaid.isWritten, hlaid.isReal, by omega, layout_eq _ _, ?_⟩
    -- The zeros that are left out of the digits are in the exponent.
    have hscale : e + (ofNat d).length - 1 + 1 - (trimmed (ofNat d)).length = (k : ℤ) + e := by omega
    rw [hlaid.value_eq, hscale, ten_zpow_add, zpow_natCast, ← mul_assoc]
    rw [hnumber, Nat.cast_mul, Nat.cast_pow, Nat.cast_ofNat] at hrounds
    exact hrounds

/-- **Floating-point numbers are read as decimals**: the text of a finite number is read as a finite
decimal of the same sign. -/
theorem read_toText (negative : Bool) (index : Fin 0x7FF0000000000000) :
    ∃ coefficient exponent, Decimal.read (finite negative index).toText =
      .ok (.finite negative coefficient exponent) := by
  obtain ⟨m, hm, -, hsize, htext, -⟩ := exists_magnitude_indexText index.isLt
  have hsigned : (finite negative index).toText = signText negative ++ m.text := by
    rw [toText, htext]
    cases negative <;> rfl
  rw [hsigned]
  exact ⟨_, _, Magnitude.read_text hm negative hsize⟩

end Binary64

end CardPayments
