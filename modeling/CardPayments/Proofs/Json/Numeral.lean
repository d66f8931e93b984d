import CardPayments.Proofs.Json.RoundTrip

/-!
# Numerals as documents

A document that is nothing but the digits of a whole number is read as this number, or refused if there are more
digits than are converted (`Json.read_numeral`).  The number is written with the same digits again
(`Text.ofNat_number`).
-/

namespace CardPayments

namespace Text

variable {t : Text}

/-- The digits of a whole number: at least one, and no zero in front of others. -/
structure IsWholeNumeral (t : Text) : Prop where
  digits : t.IsNumeral
  ne_nil : t ≠ []
  plain : t = [CodePoint.ofChar '0'] ∨ t.head? ≠ some (CodePoint.ofChar '0')

theorem number_concat (s : Text) {c : CodePoint} {d : Nat} (hc : c.asciiDigit? = some d) :
    number (s ++ [c]) = number s * 10 + d := by
  have hdigit : Text.IsNumeral [c] := by
    rintro _ hmem
    rw [List.mem_singleton.1 hmem, CodePoint.isAsciiDigit, hc]
    rfl
  have hnumber : number [c] = d := by
    rw [number, List.filterMap_cons_some hc]
    exact (Nat.zero_add d)
  rw [number_append s hdigit, hnumber]
  rfl

/-- A digit is the code point by which its value is written. -/
theorem ofChar_digitChar {c : CodePoint} {d : Nat} (hc : c.asciiDigit? = some d) :
    CodePoint.ofChar (Nat.digitChar d) = c := by
  have hvalue : ∀ d < 10, (CodePoint.ofChar (Nat.digitChar d)).value = 0x30 + d := by decide
  unfold CodePoint.asciiDigit? at hc
  split_ifs at hc with hrange
  obtain rfl := Option.some.inj hc
  refine Json.eq_of_value ?_
  rw [hvalue _ (by omega)]
  omega

/-- **A whole number is written with the digits from which it was read.** -/
theorem ofNat_number (h : t.IsWholeNumeral) : ofNat (number t) = t := by
  obtain ⟨hdigits, hne, hplain⟩ := h
  -- The last digit is the remainder by ten; what stands before it is a whole number again, or nothing.
  induction t using List.reverseRecOn with
  | nil => exact absurd rfl hne
  | append_singleton s c ih =>
    obtain ⟨d, hd⟩ := Option.isSome_iff_exists.1 (hdigits c (by simp))
    have hlt : d < 10 := CodePoint.decimalDigit?_lt (CodePoint.decimalDigit?_of_asciiDigit? hd)
    rw [number_concat s hd, ofNat, Nat.toDigits_eq_if (by decide)]
    by_cases hs : s = []
    · subst hs
      have hzero : number [] = 0 := rfl
      rw [hzero, Nat.zero_mul, Nat.zero_add, if_pos hlt]
      exact congrArg (· :: []) (ofChar_digitChar hd)
    · have hhead : s.head? ≠ some (CodePoint.ofChar '0') := by
        rcases hplain with hzero | hhead
        · exact absurd (congrArg List.length hzero) (by simpa using hs)
        · rwa [List.head?_append_of_ne_nil _ hs] at hhead
      have hwritten := ih (fun c hc => hdigits c (List.mem_append_left _ hc)) hs (.inr hhead)
      have hpos : number s ≠ 0 := by
        intro hzero
        rw [hzero] at hwritten
        rw [← hwritten] at hhead
        exact hhead rfl
      have hdiv : (number s * 10 + d) / 10 = number s := by omega
      have hmod : (number s * 10 + d) % 10 = d := by omega
      rw [if_neg (by omega), hdiv, hmod, List.map_append, List.map_singleton, ofChar_digitChar hd]
      exact congrArg (· ++ [c]) hwritten

end Text

namespace Json

open Text Decimal

variable {t : Text}

/-- A numeral is the magnitude of a number without fraction or exponent. -/
theorem isWritten_whole (h : t.IsWholeNumeral) : (Magnitude.mk t none none).IsWritten :=
  ⟨h.digits, h.ne_nil, nofun, nofun⟩

/-- **A numeral as a document** is read as its number, or refused for the number of its digits. -/
theorem read_numeral (h : t.IsWholeNumeral) :
    Json.read t = if Numeral.digitLimit < t.length then .error (.numeral (.tooLong t.length))
      else .ok (.int (number t)) := by
  have hwritten := isWritten_whole h
  have htext : signText false ++ (Magnitude.mk t none none).text ++ [] = t := by
    show [] ++ (t ++ [] ++ []) ++ [] = t
    simp only [List.append_nil, List.nil_append]
  have hbegins : Begins t := by
    have hbegins := begins_text _ hwritten false
    rwa [← List.append_nil (_ ++ _), htext] at hbegins
  have hvalue : readValue (2 * t.length + 2) t =
      if Numeral.digitLimit < t.length then .error (.numeral (.tooLong t.length)) else .ok (.int (number t), []) := by
    have hread : readValue (2 * t.length + 2) (signText false ++ (Magnitude.mk t none none).text ++ []) =
        readNumber (signText false ++ (Magnitude.mk t none none).text ++ []) := readValue_text hwritten false
    rw [readNumber_text hwritten ⟨h.plain, nofun⟩ false follows_nil, htext] at hread
    exact hread
  rw [Json.read, readDocument_of_begins hbegins, hvalue]
  split_ifs <;> rfl

end Json

end CardPayments
