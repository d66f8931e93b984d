import CardPayments.Numeral
import Mathlib.Data.List.Basic
import Mathlib.Tactic.Common
import Mathlib.Tactic.Ring

/-!
# Decimal digits of all scripts

A decimal digit is worth less than ten and is never a blank, whatever its script, and the ASCII digits
are worth what they say.  Two decimal digits are therefore always read as an integer
(`Numeral.readInteger_of_two_digits`).
-/

namespace CardPayments

namespace CodePoint

variable {c : CodePoint} {n : Nat}

theorem decimalDigit?_eq_some (h : c.decimalDigit? = some n) :
    ∃ z ∈ digitZeros, z ≤ c.value ∧ c.value < z + 10 ∧ n = c.value - z := by
  obtain ⟨z, hz, rfl⟩ := Option.map_eq_some_iff.1 h
  have hrange := List.find?_some hz
  rw [Bool.and_eq_true, decide_eq_true_eq, decide_eq_true_eq] at hrange
  exact ⟨z, List.mem_of_find?_eq_some hz, hrange.1, hrange.2, rfl⟩

theorem decimalDigit?_lt (h : c.decimalDigit? = some n) : n < 10 := by
  obtain ⟨z, _, hlow, hhigh, rfl⟩ := decimalDigit?_eq_some h
  omega

/-- No run of ten digits touches a range of blanks. -/
theorem digitZeros_apart : ∀ z ∈ digitZeros, ∀ r ∈ blankRanges, z + 9 < r.1 ∨ r.2 < z := by
  decide +kernel

theorem isBlank_of_isDecimalDigit (h : c.isDecimalDigit = true) : c.isBlank = false := by
  obtain ⟨n, hn⟩ := Option.isSome_iff_exists.1 h
  obtain ⟨z, hz, hlow, hhigh, _⟩ := decimalDigit?_eq_some hn
  by_contra hblank
  rw [Bool.not_eq_false] at hblank
  obtain ⟨r, hr, hrange⟩ := List.any_eq_true.1 hblank
  rw [Bool.and_eq_true, decide_eq_true_eq, decide_eq_true_eq] at hrange
  rcases digitZeros_apart z hz r hr with h | h <;> omega

theorem decimalDigit?_of_asciiDigit? (h : c.asciiDigit? = some n) : c.decimalDigit? = some n := by
  unfold asciiDigit? at h
  split_ifs at h with hrange
  obtain rfl := Option.some.inj h
  let p (z : Nat) : Bool := z ≤ c.value && c.value < z + 10
  have hfirst : p 0x30 = true := by
    rw [Bool.and_eq_true, decide_eq_true_eq, decide_eq_true_eq]
    omega
  -- The run of the ASCII digits is the first one.
  have hfound : digitZeros.find? p = some 0x30 := List.find?_cons_of_pos hfirst
  show (digitZeros.find? p).map (c.value - ·) = some (c.value - 0x30)
  rw [hfound]
  rfl

theorem isDecimalDigit_of_isAsciiDigit (h : c.isAsciiDigit = true) : c.isDecimalDigit = true := by
  obtain ⟨n, hn⟩ := Option.isSome_iff_exists.1 h
  rw [isDecimalDigit, decimalDigit?_of_asciiDigit? hn]
  rfl

/-- A decimal digit is none of the code points that are no digits. -/
theorem ne_of_isDecimalDigit {d : CodePoint} (h : c.isDecimalDigit = true)
    (hd : d.isDecimalDigit = false) : c ≠ d := by
  rintro rfl
  rw [hd] at h
  cases h

end CodePoint

/-- So many digits denote a number below that power of ten. -/
theorem Text.valueOfDigits_lt {digits : List Nat} (h : ∀ d ∈ digits, d < 10) :
    valueOfDigits digits < 10 ^ digits.length := by
  have hstep (n : Nat) : ∀ ds : List Nat, (∀ d ∈ ds, d < 10) →
      ds.foldl (fun n d => 10 * n + d) n < (n + 1) * 10 ^ ds.length := by
    intro ds
    induction ds generalizing n with
    | nil => intro _; simp
    | cons d ds ih =>
      intro hds
      rw [List.forall_mem_cons] at hds
      have hrest := ih (10 * n + d) hds.2
      have hbound : (10 * n + d + 1) * 10 ^ ds.length ≤ (n + 1) * 10 * 10 ^ ds.length :=
        Nat.mul_le_mul_right _ (by omega)
      rw [List.foldl_cons, List.length_cons, pow_succ]
      calc ds.foldl (fun n d => 10 * n + d) (10 * n + d)
          < (10 * n + d + 1) * 10 ^ ds.length := hrest
        _ ≤ (n + 1) * 10 * 10 ^ ds.length := hbound
        _ = (n + 1) * (10 ^ ds.length * 10) := by ring
  have hall := hstep 0 digits h
  rwa [Nat.zero_add, Nat.one_mul] at hall

/-- Two decimal digits are read as what they are worth, whatever their scripts. -/
theorem Numeral.readInteger_pair {c d : CodePoint} {x y : Nat} (hx : c.decimalDigit? = some x)
    (hy : d.decimalDigit? = some y) : readInteger [c, d] = .ok (10 * x + y) := by
  have hc : c.isDecimalDigit = true := Option.isSome_iff_exists.2 ⟨x, hx⟩
  have hd : d.isDecimalDigit = true := Option.isSome_iff_exists.2 ⟨y, hy⟩
  have hmargin : isMargin c = false := by
    rw [isMargin, CodePoint.isBlank_of_isDecimalDigit hc]
    rfl
  have hnoSign : Text.splitSign [c, d] = (false, [c, d]) := by
    rw [Text.splitSign, if_neg (CodePoint.ne_of_isDecimalDigit hc (by decide)),
      if_neg (CodePoint.ne_of_isDecimalDigit hc (by decide))]
  have hbody : isBody c = true ∧ isBody d = true := by simp [isBody, hc, hd]
  have hseparates : separatesDigits [c, d] = true := by
    have hc' : c ≠ CodePoint.ofChar '_' := CodePoint.ne_of_isDecimalDigit hc (by decide)
    have hd' : d ≠ CodePoint.ofChar '_' := CodePoint.ne_of_isDecimalDigit hd (by decide)
    simp [separatesDigits, Text.splitAtEach, hc', hd']
  simp [readInteger, hmargin, hnoSign, hbody, hseparates, hx, hy, digitLimit, signedValue,
    Text.valueOfDigits]

/-- Two decimal digits are read as an integer from 0 to 99. -/
theorem Numeral.readInteger_of_two_digits {t : Text} (hlength : t.length = 2)
    (hdigits : t.all CodePoint.isDecimalDigit = true) :
    ∃ n : Int, readInteger t = .ok n ∧ 0 ≤ n ∧ n < 100 := by
  obtain ⟨c, d, rfl⟩ := List.length_eq_two.1 hlength
  simp only [List.all_cons, List.all_nil, Bool.and_true, Bool.and_eq_true] at hdigits
  obtain ⟨x, hx⟩ := Option.isSome_iff_exists.1 hdigits.1
  obtain ⟨y, hy⟩ := Option.isSome_iff_exists.1 hdigits.2
  have hx10 := CodePoint.decimalDigit?_lt hx
  have hy10 := CodePoint.decimalDigit?_lt hy
  exact ⟨10 * x + y, readInteger_pair hx hy, by omega, by omega⟩

/-- Two ASCII digits are read as what they are worth. -/
theorem Numeral.readInteger_of_two_asciiDigits {t : Text} (hlength : t.length = 2)
    (hdigits : t.all CodePoint.isAsciiDigit = true) :
    readInteger t = .ok (Text.valueOfDigits (t.filterMap CodePoint.asciiDigit?)) := by
  obtain ⟨c, d, rfl⟩ := List.length_eq_two.1 hlength
  simp only [List.all_cons, List.all_nil, Bool.and_true, Bool.and_eq_true] at hdigits
  obtain ⟨x, hx⟩ := Option.isSome_iff_exists.1 hdigits.1
  obtain ⟨y, hy⟩ := Option.isSome_iff_exists.1 hdigits.2
  rw [readInteger_pair (CodePoint.decimalDigit?_of_asciiDigit? hx) (CodePoint.decimalDigit?_of_asciiDigit? hy),
    List.filterMap_cons_some hx, List.filterMap_cons_some hy]
  simp [Text.valueOfDigits]

end CardPayments
