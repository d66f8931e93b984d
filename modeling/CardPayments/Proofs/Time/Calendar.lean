import CardPayments.Time.Calendar
import Mathlib.Algebra.GroupWithZero.Nat
import Mathlib.Data.List.Basic
import Mathlib.Tactic.Common

/-!
# Dates and their numbers

`Date.ofDayNumber` finds a date that exists, and `Date.dayNumber` gives its number back
(`dayNumber_ofDayNumber`).  Splitting off cycles leaves a day of a year in two facts of arithmetic: the
days before the year and the day in it make up the number, and the day is one of the 365 or 366 of the
year.  That the months are found is an induction over their lengths, for lists of any lengths.
-/

namespace CardPayments

namespace Date

/-- The parts are those of a date in the years 1 to 9999. -/
structure IsReal (d : Date) : Prop where
  one_le_year : 1 ≤ d.year
  year_le : d.year ≤ 9999
  one_le_month : 1 ≤ d.month
  month_le : d.month ≤ 12
  one_le_day : 1 ≤ d.day
  day_le : d.day ≤ ((monthLengths d.year)[d.month - 1]?).getD 0

/-! ### Months -/

theorem sum_monthLengths (year : Nat) :
    (monthLengths year).sum = if isLeapYear year = true then 366 else 365 := by
  unfold monthLengths
  cases isLeapYear year <;> rfl

theorem IsReal.day_le_thirtyOne {d : Date} (h : d.IsReal) : d.day ≤ 31 := by
  have hlengths : ∀ leap : Bool,
      ∀ n ∈ [31, if leap then 29 else 28, 31, 30, 31, 30, 31, 31, 30, 31, 30, 31], n ≤ 31 := by decide
  refine Nat.le_trans h.day_le ?_
  cases hlength : (monthLengths d.year)[d.month - 1]? with
  | none => exact Nat.zero_le 31
  | some length => exact hlengths (isLeapYear d.year) length (List.mem_of_getElem? hlength)

/-- Splitting a day of a year gives a month that is there, a day of it, and together the day again. -/
theorem splitMonths_spec (lengths : List Nat) (day : Nat) (h : day < lengths.sum) :
    ∃ length, lengths[(splitMonths lengths day).1]? = some length ∧
      (splitMonths lengths day).2 < length ∧
      (lengths.take (splitMonths lengths day).1).sum + (splitMonths lengths day).2 = day := by
  induction lengths generalizing day with
  | nil => cases h
  | cons length rest ih =>
    rw [List.sum_cons] at h
    rw [splitMonths]
    by_cases hday : day < length
    · rw [if_pos hday]
      exact ⟨length, rfl, hday, Nat.zero_add day⟩
    · rw [if_neg hday]
      have hrest : day - length < rest.sum := by omega
      obtain ⟨found, hfound, hlt, hsum⟩ := ih (day - length) hrest
      refine ⟨found, hfound, hlt, ?_⟩
      show (length :: rest.take _).sum + _ = day
      rw [List.sum_cons, Nat.add_assoc, hsum]
      omega

/-! ### Years -/

/-- The year of a day number and the day in it, counted from zero. -/
def splitYear (n : Nat) : Nat × Nat :=
  let inCycle := n % 146097
  let centuries := min 3 (inCycle / 36524)
  let inCentury := inCycle - centuries * 36524
  let inFour := inCentury % 1461
  let years := min 3 (inFour / 365)
  (400 * (n / 146097) + 100 * centuries + 4 * (inCentury / 1461) + years + 1, inFour - years * 365)

theorem ofDayNumber_eq (n : Nat) :
    ofDayNumber n =
      ⟨(splitYear n).1, (splitMonths (monthLengths (splitYear n).1) (splitYear n).2).1 + 1,
        (splitMonths (monthLengths (splitYear n).1) (splitYear n).2).2 + 1⟩ := by
  unfold ofDayNumber splitYear
  dsimp only

/-- A cycle of four parts, the last of which may be longer by one: what is left of it after the whole
parts is at most a part, and as long as that only after three of them. -/
theorem splitCycle {part left : Nat} (hpart : 0 < part) (h : left ≤ 4 * part) :
    ∃ whole rest, min 3 (left / part) = whole ∧ left - whole * part = rest ∧
      left = whole * part + rest ∧ whole ≤ 3 ∧ rest ≤ part ∧ (rest = part → whole = 3) := by
  have hlow : left / part * part ≤ left := Nat.div_mul_le_self left part
  have hhigh : left < left / part * part + part := Nat.lt_div_mul_add hpart
  by_cases hthree : left / part ≤ 3
  · exact ⟨left / part, left - left / part * part, Nat.min_eq_right hthree, rfl, by omega, hthree,
      by omega, by omega⟩
  · have hfour : 4 * part ≤ left / part * part := Nat.mul_le_mul_right part (by omega)
    exact ⟨3, left - 3 * part, Nat.min_eq_left (by omega), rfl, by omega, Nat.le_refl 3, by omega,
      fun _ => rfl⟩

section Cycles

variable {cycles centuries fours years : Nat}
  (hcenturies : centuries ≤ 3) (hfours : fours ≤ 24) (hyears : years ≤ 3)

include hcenturies hfours hyears

theorem daysBeforeYear_cycles :
    daysBeforeYear (400 * cycles + 100 * centuries + 4 * fours + years + 1) =
      146097 * cycles + 36524 * centuries + 1461 * fours + 365 * years := by
  unfold daysBeforeYear
  dsimp only
  omega

/-- The last year of four has an additional day, except at the end of a century that does not end a
cycle. -/
theorem isLeapYear_cycles :
    isLeapYear (400 * cycles + 100 * centuries + 4 * fours + years + 1) = true ↔
      years = 3 ∧ (fours = 24 → centuries = 3) := by
  unfold isLeapYear
  simp only [Bool.and_eq_true, Bool.or_eq_true, decide_eq_true_eq, ne_eq]
  omega

end Cycles

theorem splitYear_spec (n : Nat) :
    daysBeforeYear (splitYear n).1 + (splitYear n).2 = n ∧
      (splitYear n).2 < (monthLengths (splitYear n).1).sum := by
  have hcycle : n % 146097 ≤ 4 * 36524 := by omega
  obtain ⟨centuries, inCentury, hmin, hsub, hinCycle, hcenturies, hinCentury, hlong⟩ :=
    splitCycle (by decide) hcycle
  have hfour : inCentury % 1461 ≤ 4 * 365 := by omega
  obtain ⟨years, day, hmin', hsub', hinFour, hyears, hday, hlong'⟩ := splitCycle (by decide) hfour
  have hfours : inCentury / 1461 ≤ 24 := by omega
  have hsplit : splitYear n =
      (400 * (n / 146097) + 100 * centuries + 4 * (inCentury / 1461) + years + 1, day) := by
    unfold splitYear
    dsimp only
    rw [hmin, hsub, hmin', hsub']
  rw [hsplit, sum_monthLengths, daysBeforeYear_cycles hcenturies hfours hyears]
  constructor
  · omega
  · -- Day 365 only comes in the last year of four, and then not at the end of an ordinary century.
    have hleap : day = 365 → years = 3 ∧ (inCentury / 1461 = 24 → centuries = 3) := by omega
    rw [← @isLeapYear_cycles (n / 146097) _ _ _ hcenturies hfours hyears] at hleap
    split_ifs with h
    · exact Nat.lt_succ_of_le hday
    · exact Nat.lt_of_le_of_ne hday fun hlast => h (hleap hlast)

/-! ### Dates -/

/-- The date of a number exists. -/
theorem isReal_ofDayNumber {n : Nat} (h : n < dayCount) : (ofDayNumber n).IsReal := by
  obtain ⟨hdays, hday⟩ := splitYear_spec n
  obtain ⟨length, hlength, hlt, _⟩ := splitMonths_spec _ _ hday
  have hmonth : (splitMonths (monthLengths (splitYear n).1) (splitYear n).2).1 < 12 := by
    obtain ⟨hmonth, _⟩ := List.getElem?_eq_some_iff.1 hlength
    exact hmonth
  have hyear : (splitYear n).1 ≤ 9999 := by
    by_contra hbeyond
    have hlate : dayCount ≤ daysBeforeYear (splitYear n).1 := by
      unfold daysBeforeYear dayCount
      dsimp only
      omega
    omega
  rw [ofDayNumber_eq]
  refine ⟨Nat.le_add_left 1 _, hyear, Nat.le_add_left 1 _, hmonth, Nat.le_add_left 1 _, ?_⟩
  show _ ≤ ((monthLengths (splitYear n).1)[_ + 1 - 1]?).getD 0
  rw [Nat.add_sub_cancel, hlength]
  exact hlt

/-- The number of the date of a number is that number. -/
theorem dayNumber_ofDayNumber (n : Nat) : (ofDayNumber n).dayNumber = n := by
  obtain ⟨hdays, hday⟩ := splitYear_spec n
  obtain ⟨_, _, _, hsum⟩ := splitMonths_spec _ _ hday
  rw [ofDayNumber_eq, dayNumber]
  dsimp only
  rw [Nat.add_sub_cancel, Nat.add_sub_cancel, ← List.sum_eq_foldl, Nat.add_assoc, hsum, hdays]

end Date

end CardPayments
