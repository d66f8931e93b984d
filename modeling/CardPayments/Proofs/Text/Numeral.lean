import CardPayments.Time.IsoReader
import Mathlib.Data.Nat.Digits.Defs

/-!
# Numerals of fixed width

What `Text.ofNatPadded` writes for a number that fits the width is read by `DateTime.takeDigits?` as that
number again, whatever follows (`takeDigits?_ofNatPadded`).
-/

namespace CardPayments

/-- A character that is a digit is read as its place among the digits. -/
theorem CodePoint.asciiDigit?_ofChar {c : Char} (h : c.isDigit = true) :
    (ofChar c).asciiDigit? = some (c.toNat - '0'.toNat) := by
  have hrange : 0x30 ≤ (ofChar c).value ∧ (ofChar c).value ≤ 0x39 := by
    simp only [Char.isDigit, Bool.and_eq_true, decide_eq_true_eq] at h
    exact h
  exact if_pos hrange

namespace Text

/-- The characters of a numeral of fixed width. -/
def paddedDigits (width n : Nat) : List Char :=
  List.replicate (width - (Nat.toDigits 10 n).length) '0' ++ Nat.toDigits 10 n

theorem ofNatPadded_eq (width n : Nat) :
    ofNatPadded width n = (paddedDigits width n).map CodePoint.ofChar := by
  simp only [ofNatPadded, ofNat, paddedDigits, List.map_append, List.map_replicate, List.length_map]

theorem isDigit_of_mem_paddedDigits {width n : Nat} {c : Char} (h : c ∈ paddedDigits width n) :
    c.isDigit = true := by
  rcases List.mem_append.1 h with h | h
  · rw [List.eq_of_mem_replicate h]
    rfl
  · exact Nat.isDigit_of_mem_toDigits (by decide) (by decide) h

theorem length_ofNatPadded {width n : Nat} (hwidth : 0 < width) (h : n < 10 ^ width) :
    (ofNatPadded width n).length = width := by
  have hlength : (Nat.toDigits 10 n).length ≤ width :=
    (Nat.length_toDigits_le_iff (by decide) hwidth).2 h
  rw [ofNatPadded_eq, List.length_map, paddedDigits, List.length_append, List.length_replicate]
  omega

/-- Only digits stand in a numeral. -/
theorem isAsciiDigit_of_mem_ofNatPadded {width n : Nat} {c : CodePoint} (h : c ∈ ofNatPadded width n) :
    c.isAsciiDigit = true := by
  rw [ofNatPadded_eq] at h
  obtain ⟨digit, hdigit, rfl⟩ := List.mem_map.1 h
  rw [CodePoint.isAsciiDigit, CodePoint.asciiDigit?_ofChar (isDigit_of_mem_paddedDigits hdigit)]
  rfl

/-- The digits of a numeral are those of its characters. -/
theorem filterMap_ofNatPadded (width n : Nat) :
    (ofNatPadded width n).filterMap CodePoint.asciiDigit? =
      (paddedDigits width n).map fun c => c.toNat - '0'.toNat := by
  have hdigits (cs : List Char) (h : ∀ c ∈ cs, c.isDigit = true) :
      (cs.map CodePoint.ofChar).filterMap CodePoint.asciiDigit? =
        cs.map fun c => c.toNat - '0'.toNat := by
    induction cs with
    | nil => rfl
    | cons c cs ih =>
      rw [List.forall_mem_cons] at h
      rw [List.map_cons, List.filterMap_cons_some (CodePoint.asciiDigit?_ofChar h.1), ih h.2,
        List.map_cons]
  rw [ofNatPadded_eq]
  exact hdigits _ fun c hc => isDigit_of_mem_paddedDigits hc

/-- The digits of a numeral denote its number. -/
theorem valueOfDigits_ofNatPadded (width n : Nat) :
    valueOfDigits ((ofNatPadded width n).filterMap CodePoint.asciiDigit?) = n := by
  have hzeros (k : Nat) : Nat.ofDigitChars 10 (List.replicate k '0') 0 = 0 := by
    induction k with
    | zero => rfl
    | succ k ih => exact ih
  calc valueOfDigits ((ofNatPadded width n).filterMap CodePoint.asciiDigit?)
      = Nat.ofDigitChars 10 (paddedDigits width n) 0 := by
        rw [filterMap_ofNatPadded, valueOfDigits, List.foldl_map]
        rfl
    _ = Nat.ofDigitChars 10 (Nat.toDigits 10 n)
          (Nat.ofDigitChars 10 (List.replicate (width - (Nat.toDigits 10 n).length) '0') 0) :=
        List.foldl_append
    _ = n := by
        rw [hzeros]
        exact Nat.ofDigitChars_toDigits (by decide) (by decide)

end Text

/-- A numeral of fixed width is read as its number, whatever follows. -/
theorem DateTime.takeDigits?_ofNatPadded {width n : Nat} (hwidth : 0 < width) (h : n < 10 ^ width)
    (rest : Text) : takeDigits? width (Text.ofNatPadded width n ++ rest) = some (n, rest) := by
  have hlength : (Text.ofNatPadded width n).length = width := Text.length_ofNatPadded hwidth h
  have htake : (Text.ofNatPadded width n ++ rest).take width = Text.ofNatPadded width n := by
    rw [List.take_append_of_le_length (Nat.le_of_eq hlength.symm), List.take_of_length_le (Nat.le_of_eq hlength)]
  have hdrop : (Text.ofNatPadded width n ++ rest).drop width = rest := List.drop_left' hlength
  have hall : ((Text.ofNatPadded width n).filterMap CodePoint.asciiDigit?).length = width := by
    rw [Text.filterMap_ofNatPadded, List.length_map, ← List.length_map, ← Text.ofNatPadded_eq, hlength]
  unfold takeDigits?
  dsimp only
  rw [htake, hdrop, if_pos hall, Text.valueOfDigits_ofNatPadded]

end CardPayments
