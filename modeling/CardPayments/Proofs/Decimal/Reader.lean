import CardPayments.Decimal.Reader
import CardPayments.Proofs.Text.DecimalDigit
import CardPayments.Proofs.Text.Numeral
import Mathlib.Data.List.TakeWhile
import Mathlib.Tactic.Ring

/-!
# Written numbers are read as decimals

A number is written as a sign, digits, perhaps a point with more digits, and perhaps an exponent.  A text of
this form (`Decimal.Magnitude`) is read as a finite decimal, as long as it is short and its exponent is small
(`Decimal.Magnitude.read_text`).  Integers have this form (`Decimal.read_ofInt`).
-/

namespace CardPayments

open Text

/-! ### Numerals -/

/-- A text of nothing but ASCII digits. -/
def Text.IsNumeral (t : Text) : Prop := ∀ c ∈ t, c.isAsciiDigit = true

namespace CodePoint

variable {c : CodePoint}

theorem value_of_isAsciiDigit (h : c.isAsciiDigit = true) : 0x30 ≤ c.value ∧ c.value ≤ 0x39 := by
  unfold isAsciiDigit asciiDigit? at h
  split_ifs at h with hrange
  · exact hrange
  · cases h

theorem asciiLower_of_isAsciiDigit (h : c.isAsciiDigit = true) : c.asciiLower = c := by
  have hrange := value_of_isAsciiDigit h
  rw [asciiLower, if_neg]
  omega

end CodePoint

namespace Text

variable {s t : Text}

theorem isNumeral_ofNatPadded (width n : Nat) : (ofNatPadded width n).IsNumeral :=
  fun _ => isAsciiDigit_of_mem_ofNatPadded

theorem ofNat_eq_ofNatPadded (n : Nat) : ofNat n = ofNatPadded 0 n := by
  rw [ofNatPadded, Nat.zero_sub]
  rfl

theorem isNumeral_ofNat (n : Nat) : (ofNat n).IsNumeral := by
  rw [ofNat_eq_ofNatPadded]
  exact isNumeral_ofNatPadded 0 n

theorem ofNat_ne_nil (n : Nat) : ofNat n ≠ [] := by
  intro h
  have hnil := List.map_eq_nil_iff.1 h
  exact Nat.toDigits_ne_nil hnil

theorem length_ofNat_le {n k : Nat} (hk : 0 < k) (h : n < 10 ^ k) : (ofNat n).length ≤ k := by
  rw [ofNat, List.length_map]
  exact (Nat.length_toDigits_le_iff (by decide) hk).2 h

theorem IsNumeral.append (hs : s.IsNumeral) (ht : t.IsNumeral) : IsNumeral (s ++ t) :=
  List.forall_mem_append.2 ⟨hs, ht⟩

theorem IsNumeral.of_subset (ht : t.IsNumeral) (h : s ⊆ t) : s.IsNumeral := fun c hc => ht c (h hc)

theorem isNumeral_replicate (n : Nat) : IsNumeral (List.replicate n (CodePoint.ofChar '0')) := by
  intro c hc
  rw [List.eq_of_mem_replicate hc]
  rfl

/-- In a text without such code points there is nothing to remove from the ends. -/
theorem trimBy_of_forall {p : CodePoint → Bool} (h : ∀ c ∈ t, p c = false) : t.trimBy p = t := by
  have hkeep (s : Text) (hs : ∀ c ∈ s, p c = false) : s.dropWhile p = s := by
    cases s with
    | nil => rfl
    | cons c s => rw [List.dropWhile_cons_of_neg (by simp [hs c List.mem_cons_self])]
  rw [trimBy, hkeep t h, hkeep t.reverse fun c hc => h c (List.mem_reverse.1 hc), List.reverse_reverse]

/-- The number that the digits of a text denote. -/
def number (t : Text) : Nat := valueOfDigits (t.filterMap CodePoint.asciiDigit?)

theorem number_ofNat (n : Nat) : number (ofNat n) = n := by
  rw [ofNat_eq_ofNatPadded]
  exact valueOfDigits_ofNatPadded 0 n

theorem IsNumeral.length_filterMap (h : t.IsNumeral) : (t.filterMap CodePoint.asciiDigit?).length = t.length := by
  rw [List.filterMap_length_eq_length]
  exact h

theorem valueOfDigits_append (ds es : List Nat) :
    valueOfDigits (ds ++ es) = valueOfDigits ds * 10 ^ es.length + valueOfDigits es := by
  have hstep (n : Nat) : es.foldl (fun n d => 10 * n + d) n = n * 10 ^ es.length + valueOfDigits es := by
    unfold valueOfDigits
    induction es generalizing n with
    | nil => simp
    | cons e es ih =>
      rw [List.foldl_cons, List.foldl_cons, ih, ih (10 * 0 + e), List.length_cons, pow_succ]
      ring
  rw [valueOfDigits, List.foldl_append]
  exact hstep _

theorem number_append (s : Text) (ht : t.IsNumeral) : number (s ++ t) = number s * 10 ^ t.length + number t := by
  rw [number, List.filterMap_append, valueOfDigits_append, ht.length_filterMap]
  rfl

theorem number_replicate (n : Nat) : number (List.replicate n (CodePoint.ofChar '0')) = 0 := by
  induction n with
  | zero => rfl
  | succ n ih => exact ih

theorem number_lt (t : Text) : number t < 10 ^ t.length := by
  have hlength : (t.filterMap CodePoint.asciiDigit?).length ≤ t.length := List.length_filterMap_le _ _
  refine lt_of_lt_of_le (valueOfDigits_lt fun d hd => ?_) (Nat.pow_le_pow_right (by decide) hlength)
  obtain ⟨c, -, hc⟩ := List.mem_filterMap.1 hd
  exact CodePoint.decimalDigit?_lt (CodePoint.decimalDigit?_of_asciiDigit? hc)

/-- A number but zero is not written with a zero in front. -/
theorem head?_ofNat {n : Nat} (hn : n ≠ 0) : (ofNat n).head? ≠ some (CodePoint.ofChar '0') := by
  intro h
  obtain ⟨rest, hrest⟩ := List.head?_eq_some_iff.1 h
  have hvalue : n = number rest := by
    rw [← number_ofNat n, hrest]
    rfl
  have hlt := number_lt rest
  rw [← hvalue] at hlt
  rcases Nat.eq_zero_or_pos rest.length with hnil | hpos
  · rw [hnil, pow_zero] at hlt
    omega
  · have hlength := length_ofNat_le hpos hlt
    rw [hrest, List.length_cons] at hlength
    omega

end Text

namespace Decimal

/-- The values of the digits of a numeral. -/
theorem digitValues?_of_isNumeral {t : Text} (h : t.IsNumeral) :
    digitValues? t = some (t.filterMap CodePoint.asciiDigit?) := by
  induction t with
  | nil => rfl
  | cons c t ih =>
    unfold Text.IsNumeral at h
    rw [List.forall_mem_cons] at h
    obtain ⟨n, hn⟩ := Option.isSome_iff_exists.1 h.1
    have hvalues := ih h.2
    unfold digitValues? at hvalues ⊢
    rw [List.filterMap_cons_some hn, List.mapM_cons, CodePoint.decimalDigit?_of_asciiDigit? hn, hvalues]
    rfl

/-! ### Magnitudes -/

/-- A number as it is written behind its sign. -/
structure Magnitude where
  /-- The digits before the point. -/
  whole : Text
  /-- The digits behind the point, if there is one. -/
  fraction : Option Text
  /-- The sign and the digits of the exponent, if there is one. -/
  exponent : Option (Bool × Text)

namespace Magnitude

/-- The point and the digits behind it. -/
def fractionText (m : Magnitude) : Text := (m.fraction.map fun f => CodePoint.ofChar '.' :: f).getD []

/-- The letter, the sign and the digits of the exponent. -/
def exponentText (m : Magnitude) : Text :=
  (m.exponent.map fun e =>
    CodePoint.ofChar 'e' :: CodePoint.ofChar (if e.1 then '-' else '+') :: e.2).getD []

/-- The number as it is written. -/
def text (m : Magnitude) : Text := m.whole ++ m.fractionText ++ m.exponentText

/-- The digits before the point and behind it. -/
def digits (m : Magnitude) : Text := m.whole ++ m.fraction.getD []

/-- The number that the digits denote. -/
def coefficient (m : Magnitude) : Nat := number m.digits

/-- The exponent that is written. -/
def power (m : Magnitude) : Int :=
  (m.exponent.map fun e =>
    let n := valueOfDigits (e.2.filterMap CodePoint.asciiDigit?)
    if e.1 then -(n : Int) else n).getD 0

/-- The exponent of the last digit. -/
def scale (m : Magnitude) : Int := m.power - (m.fraction.getD []).length

/-- The number of digits, and the exponent on top of it. -/
def size (m : Magnitude) : Nat := m.digits.length + m.power.natAbs

/-- The digits are digits, and there are some wherever there have to be. -/
structure IsWritten (m : Magnitude) : Prop where
  whole : m.whole.IsNumeral
  whole_ne_nil : m.whole ≠ []
  fraction : ∀ f, m.fraction = some f → f.IsNumeral
  exponent : ∀ e, m.exponent = some e → e.2.IsNumeral ∧ e.2 ≠ []

/-- Digits stand behind a point, and the first digit is no zero unless it is the only one before the point. -/
structure IsPlain (m : Magnitude) : Prop where
  whole : m.whole = [CodePoint.ofChar '0'] ∨ m.whole.head? ≠ some (CodePoint.ofChar '0')
  fraction : m.fraction ≠ some []

/-- The number has a fraction or an exponent. -/
structure IsReal (m : Magnitude) : Prop extends m.IsPlain where
  isSome : m.fraction.isSome = true ∨ m.exponent.isSome = true

variable {m : Magnitude}

theorem not_isLetter {c : CodePoint} (h : c.isAsciiDigit = true ∨ c = CodePoint.ofChar '.') :
    (!decide (c.asciiLower = CodePoint.ofChar 'e')) = true := by
  rw [Bool.not_eq_true', decide_eq_false_iff_not]
  rcases h with h | rfl
  · rw [CodePoint.asciiLower_of_isAsciiDigit h]
    rintro rfl
    exact absurd h (by decide)
  · decide

theorem mem_mantissa (h : m.IsWritten) {c : CodePoint} (hc : c ∈ m.whole ++ m.fractionText) :
    c.isAsciiDigit = true ∨ c = CodePoint.ofChar '.' := by
  rcases List.mem_append.1 hc with hc | hc
  · exact .inl (h.whole c hc)
  · unfold fractionText at hc
    cases hf : m.fraction with
    | none =>
      rw [hf] at hc
      cases hc
    | some f =>
      rw [hf] at hc
      rcases List.mem_cons.1 hc with rfl | hc
      · exact .inr rfl
      · exact .inl (h.fraction f hf c hc)

theorem splitExponent?_text (h : m.IsWritten) :
    splitExponent? m.text = some (m.whole ++ m.fractionText, m.power) := by
  let p (c : CodePoint) : Bool := !decide (c.asciiLower = CodePoint.ofChar 'e')
  have hmantissa : ∀ c ∈ m.whole ++ m.fractionText, p c = true := fun c hc => not_isLetter (mem_mantissa h hc)
  unfold splitExponent?
  dsimp only
  cases he : m.exponent with
  | none =>
    have htext : m.text = m.whole ++ m.fractionText := by
      rw [text, exponentText, he]
      exact List.append_nil _
    have hpower : m.power = 0 := by
      rw [power, he]
      rfl
    rw [htext, hpower, List.dropWhile_eq_nil_iff.2 hmantissa, List.takeWhile_eq_self_iff.2 hmantissa]
  | some e =>
    obtain ⟨hdigits, hne⟩ := h.exponent e he
    have hvalues := digitValues?_of_isNumeral hdigits
    have htext : m.text = (m.whole ++ m.fractionText) ++
        CodePoint.ofChar 'e' :: CodePoint.ofChar (if e.1 then '-' else '+') :: e.2 := by
      rw [text, exponentText, he]
      rfl
    have hsign : splitSign (CodePoint.ofChar (if e.1 then '-' else '+') :: e.2) = (e.1, e.2) := by
      cases e.1 <;> rfl
    have hread : readExponent? (CodePoint.ofChar (if e.1 then '-' else '+') :: e.2) = some m.power := by
      have hvalue : e.2.filterMap CodePoint.asciiDigit? ≠ [] := by
        rw [← List.length_pos_iff, hdigits.length_filterMap]
        exact List.length_pos_iff.2 hne
      unfold readExponent?
      rw [hsign]
      dsimp only
      rw [hvalues, power, he]
      cases hds : e.2.filterMap CodePoint.asciiDigit? with
      | nil => exact absurd hds hvalue
      | cons d ds => simp only [Option.map_some, Option.getD_some, hds]
    rw [htext, List.takeWhile_append_of_pos hmantissa, List.dropWhile_append_of_pos hmantissa]
    have hletter : ¬p (CodePoint.ofChar 'e') = true := by decide
    rw [List.takeWhile_cons_of_neg hletter, List.dropWhile_cons_of_neg hletter, List.append_nil]
    show (readExponent? _).map _ = _
    rw [hread]
    rfl

theorem isNumeral_fraction (h : m.IsWritten) : IsNumeral (m.fraction.getD []) := by
  cases hf : m.fraction with
  | none => exact List.forall_mem_nil _
  | some f => exact h.fraction f hf

theorem digits_ne_nil (h : m.IsWritten) : m.digits ≠ [] := List.append_ne_nil_of_left_ne_nil h.whole_ne_nil _

/-- The digits of a number are read, and counted behind the point. -/
theorem readMagnitude?_text (h : m.IsWritten) : readMagnitude? m.text = some (m.coefficient, m.scale) := by
  let p (c : CodePoint) : Bool := !decide (c = CodePoint.ofChar '.')
  have hwhole : ∀ c ∈ m.whole, p c = true := by
    intro c hc
    rw [Bool.not_eq_true', decide_eq_false_iff_not]
    rintro rfl
    exact absurd (h.whole _ hc) (by decide)
  have hfraction := isNumeral_fraction h
  have hwholeValues := digitValues?_of_isNumeral h.whole
  have hfractionValues := digitValues?_of_isNumeral hfraction
  have htake : (m.whole ++ m.fractionText).takeWhile p = m.whole := by
    rw [List.takeWhile_append_of_pos hwhole, fractionText]
    cases m.fraction with
    | none => exact List.append_nil _
    | some f => rw [Option.map_some, Option.getD_some, List.takeWhile_cons_of_neg (by decide), List.append_nil]
  have hdrop : ((m.whole ++ m.fractionText).dropWhile p).drop 1 = m.fraction.getD [] := by
    rw [List.dropWhile_append_of_pos hwhole, fractionText]
    cases m.fraction with
    | none => rfl
    | some f =>
      rw [Option.map_some, Option.getD_some, List.dropWhile_cons_of_neg (by decide)]
      rfl
  have hne : m.whole.filterMap CodePoint.asciiDigit? ≠ [] := by
    rw [← List.length_pos_iff, h.whole.length_filterMap]
    exact List.length_pos_iff.2 h.whole_ne_nil
  simp only [readMagnitude?, splitExponent?_text h, Option.bind_eq_bind, Option.bind_some]
  rw [htake, hdrop, hwholeValues, hfractionValues]
  simp only [Option.bind_some, List.isEmpty_eq_false_iff.2 hne, Bool.false_and, Bool.false_eq_true, if_false,
    hfraction.length_filterMap]
  rw [coefficient, number, digits, List.filterMap_append]
  rfl

/-! ### Signed numbers -/

theorem mem_text (h : m.IsWritten) {c : CodePoint} (hc : c ∈ m.text) :
    c.isAsciiDigit = true ∨ c ∈ ([".", "e", "+", "-"] : List String).flatMap Text.ofString := by
  rcases List.mem_append.1 hc with hc | hc
  · refine (mem_mantissa h hc).imp_right ?_
    rintro rfl
    decide
  · unfold exponentText at hc
    cases he : m.exponent with
    | none =>
      rw [he] at hc
      cases hc
    | some e =>
      rw [he] at hc
      rcases List.mem_cons.1 hc with rfl | hc
      · exact .inr (by decide)
      · rcases List.mem_cons.1 hc with rfl | hc
        · refine .inr ?_
          cases e.1 <;> decide
        · exact .inl ((h.exponent e he).1 c hc)

/-- A number begins with a digit. -/
theorem exists_cons (h : m.IsWritten) : ∃ c rest, m.text = c :: rest ∧ c.isAsciiDigit = true := by
  obtain ⟨c, rest, hwhole⟩ := List.exists_cons_of_ne_nil h.whole_ne_nil
  refine ⟨c, rest ++ m.fractionText ++ m.exponentText, ?_, h.whole c (hwhole ▸ List.mem_cons_self)⟩
  rw [text, hwhole]
  rfl

/-- Nothing that begins with a digit is the name of a decimal that is not finite. -/
theorem readSpecial?_text (h : m.IsWritten) (negative : Bool) : readSpecial? negative m.text = none := by
  obtain ⟨c, rest, htext, hc⟩ := exists_cons h
  have hhead {d : CodePoint} (hd : d.isAsciiDigit = false) : d ≠ c := by
    rintro rfl
    rw [hd] at hc
    cases hc
  have hi : ¬(CodePoint.ofChar 'i' = c) := hhead (by decide)
  have hn : ¬(CodePoint.ofChar 'n' = c) := hhead (by decide)
  have hs : ¬(CodePoint.ofChar 's' = c) := hhead (by decide)
  have hlower : m.text.map CodePoint.asciiLower = c :: rest.map CodePoint.asciiLower := by
    rw [htext, List.map_cons, CodePoint.asciiLower_of_isAsciiDigit hc]
  have hnan : dropStart? "nan" (c :: rest.map CodePoint.asciiLower) = none := if_neg hn
  have hsnan : dropStart? "snan" (c :: rest.map CodePoint.asciiLower) = none := if_neg hs
  have hinf : ¬(c :: rest.map CodePoint.asciiLower = ("inf" : Text) ∨
      c :: rest.map CodePoint.asciiLower = ("infinity" : Text)) := by
    rintro (heq | heq) <;> exact hi (List.cons.inj heq).1.symm
  unfold readSpecial?
  dsimp only
  rw [hlower, if_neg hinf, hnan, hsnan]

/-- **Written numbers are read**: a number with a sign is read as the decimal of its digits and their scale,
as long as it is short and its exponent is small. -/
theorem read_text (h : m.IsWritten) (negative : Bool) (hsize : m.size ≤ 100000) :
    Decimal.read (signText negative ++ m.text) = .ok (.finite negative m.coefficient m.scale) := by
  obtain ⟨c, rest, htext, hc⟩ := exists_cons h
  have hchars : ∀ d ∈ signText negative ++ m.text, d.isBlank = false ∧ d ≠ CodePoint.ofChar '_' := by
    have hothers : ∀ d ∈ ([".", "e", "+", "-"] : List String).flatMap Text.ofString,
        d.isBlank = false ∧ d ≠ CodePoint.ofChar '_' := by decide
    intro d hd
    rcases List.mem_append.1 hd with hd | hd
    · refine hothers d ?_
      cases negative with
      | false => cases hd
      | true =>
        obtain rfl := List.mem_singleton.1 hd
        decide
    · rcases mem_text h hd with hdigit | hother
      · refine ⟨CodePoint.isBlank_of_isDecimalDigit (CodePoint.isDecimalDigit_of_isAsciiDigit hdigit), ?_⟩
        rintro rfl
        exact absurd hdigit (by decide)
      · exact hothers d hother
  have htrim : (signText negative ++ m.text).trim = signText negative ++ m.text :=
    trimBy_of_forall fun d hd => (hchars d hd).1
  have hfilter : (signText negative ++ m.text).filter (· ≠ CodePoint.ofChar '_') =
      signText negative ++ m.text := by
    rw [List.filter_eq_self]
    intro d hd
    rw [decide_eq_true_eq]
    exact (hchars d hd).2
  have hsign : splitSign (signText negative ++ m.text) = (negative, m.text) := by
    cases negative with
    | true => rfl
    | false =>
      have hdigit {d : CodePoint} (hd : d.isAsciiDigit = false) : ¬c = d := by
        rintro rfl
        rw [hd] at hc
        cases hc
      show splitSign m.text = (false, m.text)
      rw [htext, splitSign, if_neg (hdigit (by decide)), if_neg (hdigit (by decide))]
  -- The coefficient has no more digits than were written.
  have hcount : digitCount m.coefficient ≤ m.digits.length :=
    (Nat.length_toDigits_le_iff (by decide) (List.length_pos_iff.2 (digits_ne_nil h))).2
      (number_lt m.digits)
  have hfraction : (m.fraction.getD []).length ≤ m.digits.length := by
    rw [digits, List.length_append]
    omega
  unfold Decimal.read
  rw [htrim, hfilter, hsign]
  dsimp only
  rw [readSpecial?_text h]
  dsimp only
  rw [readMagnitude?_text h]
  unfold size at hsize
  unfold bounded scale leastExponent greatestLead
  dsimp only
  rw [if_pos]
  constructor <;> omega

end Magnitude

/-! ### Whole numbers -/

/-- A natural number as it is written. -/
def Magnitude.ofNat (n : Nat) : Magnitude := ⟨Text.ofNat n, none, none⟩

theorem isWritten_ofNat (n : Nat) : (Magnitude.ofNat n).IsWritten :=
  ⟨isNumeral_ofNat n, ofNat_ne_nil n, nofun, nofun⟩

theorem ofInt_eq (n : Int) : ofInt n = signText (decide (n < 0)) ++ (Magnitude.ofNat n.natAbs).text := by
  have htext : (Magnitude.ofNat n.natAbs).text = Text.ofNat n.natAbs := by
    show Text.ofNat n.natAbs ++ [] ++ [] = _
    rw [List.append_nil, List.append_nil]
  rw [ofInt, htext, signText]
  by_cases hneg : n < 0
  · rw [if_pos hneg, if_pos (decide_eq_true hneg)]
  · rw [if_neg hneg, if_neg (by simpa using hneg)]
    rfl

/-- An integer that is not too long is read as a finite decimal. -/
theorem read_ofInt {n : Int} {k : Nat} (hk : k ≤ 100000) (h : n.natAbs < 10 ^ k) :
    ∃ negative coefficient exponent,
      Decimal.read (ofInt n) = .ok (.finite negative coefficient exponent) := by
  have hlength : (Text.ofNat n.natAbs).length ≤ max k 1 :=
    length_ofNat_le (by omega) (lt_of_lt_of_le h (Nat.pow_le_pow_right (by decide) (Nat.le_max_left k 1)))
  rw [ofInt_eq]
  refine ⟨_, _, _, Magnitude.read_text (isWritten_ofNat _) _ ?_⟩
  show (Text.ofNat n.natAbs ++ []).length + 0 ≤ 100000
  rw [List.append_nil]
  omega

end Decimal

end CardPayments
