import CardPayments.Json.Reader
import CardPayments.Json.Writer
import CardPayments.Proofs.Binary64.Written

/-!
# Written numbers are read again

A whole number of at most `Numeral.digitLimit` digits and a finite floating-point number are read as what they
were written from (`Json.readNumber_ofInt`, `Json.readNumber_writeFloat`), whatever follows them that can
follow a value (`Json.Follows`).
-/

namespace CardPayments

namespace Json

open Text Decimal

/-- The code points that can follow a value: those that end it inside a list or an object. -/
def enders : Text := ",]\x7d"

/-- Nothing follows, or something that ends a value. -/
def Follows (t : Text) : Prop := ∀ c, t.head? = some c → c ∈ enders

variable {s t rest : Text}

theorem follows_nil : Follows [] := nofun

theorem follows_cons {c : CodePoint} (h : c ∈ enders) : Follows (c :: t) := by
  rintro _ ⟨⟩
  exact h

/-- What follows a value is no part of a number. -/
theorem Follows.ends (h : Follows t) {c : CodePoint} (hc : t.head? = some c) :
    c.isAsciiDigit = false ∧ c ≠ CodePoint.ofChar '.' ∧ c.asciiLower ≠ CodePoint.ofChar 'e' := by
  have hall : ∀ c ∈ enders, c.isAsciiDigit = false ∧ c ≠ CodePoint.ofChar '.' ∧
      c.asciiLower ≠ CodePoint.ofChar 'e' := by decide
  exact hall c (h c hc)

/-! ### The parts of a number -/

theorem splitDigits_append (hs : s.IsNumeral) (ht : ∀ c, t.head? = some c → c.isAsciiDigit = false) :
    splitDigits (s ++ t) = (s, t) := by
  have hstop : t.takeWhile CodePoint.isAsciiDigit = [] ∧ t.dropWhile CodePoint.isAsciiDigit = t := by
    cases t with
    | nil => exact ⟨rfl, rfl⟩
    | cons c t =>
      have hc : ¬c.isAsciiDigit = true := by
        rw [ht c rfl]
        decide
      exact ⟨List.takeWhile_cons_of_neg hc, List.dropWhile_cons_of_neg hc⟩
  rw [splitDigits, List.takeWhile_append_of_pos hs, List.dropWhile_append_of_pos hs, hstop.1, hstop.2,
    List.append_nil]

variable {m : Magnitude}

theorem splitWhole_append (h : m.IsWritten) (hplain : m.IsPlain)
    (ht : ∀ c, t.head? = some c → c.isAsciiDigit = false) : splitWhole (m.whole ++ t) = (m.whole, t) := by
  rcases hplain.whole with hzero | hhead
  · rw [hzero]
    rfl
  · obtain ⟨c, digits, hwhole⟩ := List.exists_cons_of_ne_nil h.whole_ne_nil
    have hc : c ≠ CodePoint.ofChar '0' := by
      rintro rfl
      rw [hwhole] at hhead
      exact hhead rfl
    have hsplit := splitDigits_append h.whole ht
    rw [hwhole] at hsplit ⊢
    rw [List.cons_append, splitWhole, if_neg hc]
    exact hsplit

theorem splitFraction_append (h : m.IsWritten) (hplain : m.IsPlain)
    (ht : ∀ c, t.head? = some c → c.isAsciiDigit = false ∧ c ≠ CodePoint.ofChar '.') :
    splitFraction (m.fractionText ++ t) = (m.fraction.getD [], t) := by
  unfold Magnitude.fractionText
  cases hf : m.fraction with
  | none =>
    show splitFraction t = ([], t)
    cases t with
    | nil => rfl
    | cons c t =>
      unfold splitFraction
      dsimp only
      rw [if_neg fun hpoint => (ht c rfl).2 hpoint.1]
  | some digits =>
    have hne : digits ≠ [] := by
      rintro rfl
      exact hplain.fraction hf
    have hsplit := splitDigits_append (h.fraction digits hf) fun c hc => (ht c hc).1
    show splitFraction (CodePoint.ofChar '.' :: (digits ++ t)) = (digits, t)
    unfold splitFraction
    dsimp only
    rw [hsplit]
    dsimp only
    rw [if_pos ⟨rfl, by rw [List.isEmpty_eq_false_iff.2 hne]; rfl⟩]

theorem splitExponent_append (h : m.IsWritten) (ht : Follows t) :
    ∃ exponent, splitExponent (m.exponentText ++ t) = (exponent, t) ∧ exponent.getD 0 = m.power ∧
      exponent.isNone = m.exponent.isNone := by
  unfold Magnitude.exponentText Magnitude.power
  cases he : m.exponent with
  | none =>
    refine ⟨none, ?_, rfl, rfl⟩
    show splitExponent t = (none, t)
    cases t with
    | nil => rfl
    | cons c t =>
      unfold splitExponent
      dsimp only
      rw [if_neg fun hletter => (ht.ends rfl).2.2 hletter.1]
  | some e =>
    obtain ⟨hdigits, hne⟩ := h.exponent e he
    have hsign : splitSign (CodePoint.ofChar (if e.1 then '-' else '+') :: (e.2 ++ t)) = (e.1, e.2 ++ t) := by
      cases e.1 <;> rfl
    refine ⟨some (if e.1 then -(number e.2 : Int) else number e.2), ?_, rfl, rfl⟩
    show splitExponent (CodePoint.ofChar 'e' :: CodePoint.ofChar (if e.1 then '-' else '+') :: (e.2 ++ t)) = _
    unfold splitExponent
    dsimp only
    rw [hsign]
    dsimp only
    rw [splitDigits_append hdigits fun c hc => (ht.ends hc).1]
    dsimp only
    rw [if_pos ⟨rfl, by rw [List.isEmpty_eq_false_iff.2 hne]; rfl⟩]
    rfl

/-- What stands behind the digits of a number is none of them. -/
theorem head?_exponentText (m : Magnitude) (ht : Follows t) {c : CodePoint}
    (hc : (m.exponentText ++ t).head? = some c) : c.isAsciiDigit = false ∧ c ≠ CodePoint.ofChar '.' := by
  unfold Magnitude.exponentText at hc
  cases he : m.exponent with
  | none =>
    rw [he] at hc
    exact ⟨(ht.ends hc).1, (ht.ends hc).2.1⟩
  | some e =>
    rw [he] at hc
    obtain rfl := Option.some.inj hc
    decide

theorem head?_fractionText (m : Magnitude) (ht : Follows t) {c : CodePoint}
    (hc : (m.fractionText ++ (m.exponentText ++ t)).head? = some c) : c.isAsciiDigit = false := by
  unfold Magnitude.fractionText at hc
  cases hf : m.fraction with
  | none =>
    rw [hf] at hc
    exact (head?_exponentText m ht hc).1
  | some f =>
    rw [hf] at hc
    obtain rfl := Option.some.inj hc
    decide

/-! ### Numbers -/

/-- Reads a number behind its sign; `size` is how much is left of the document with it. -/
def readUnsigned (size : Nat) (negative : Bool) (unsigned : Text) : Except Stop (Value × Text) :=
  let (whole, afterWhole) := splitWhole unsigned
  if whole.isEmpty then .error (.malformed .expectingValue size)
  else
    let (fraction, afterFraction) := splitFraction afterWhole
    let (exponent, left) := splitExponent afterFraction
    if fraction.isEmpty && exponent.isNone then
      if Numeral.digitLimit < whole.length then .error (.numeral (.tooLong whole.length))
      else .ok (.int (Numeral.signedValue negative (whole.filterMap CodePoint.asciiDigit?)), left)
    else .ok (.float (.nearest negative (number (whole ++ fraction)) (exponent.getD 0 - fraction.length)), left)

theorem readNumber_minus (u : Text) :
    readNumber (CodePoint.ofChar '-' :: u) = readUnsigned (u.length + 1) true u := by
  unfold readNumber
  dsimp only
  rw [if_pos rfl]
  rfl

theorem readNumber_of_head? {u : Text} (hu : u.head? ≠ some (CodePoint.ofChar '-')) :
    readNumber u = readUnsigned u.length false u := by
  cases u with
  | nil => rfl
  | cons c rest =>
    have hc : c ≠ CodePoint.ofChar '-' := by
      rintro rfl
      exact hu rfl
    unfold readNumber
    dsimp only
    rw [if_neg hc]
    rfl

/-- A number is read by its parts. -/
theorem readUnsigned_parts {u whole afterWhole fraction afterFraction left : Text} {exponent : Option Int}
    (size : Nat) (negative : Bool) (hne : whole ≠ []) (hwhole : splitWhole u = (whole, afterWhole))
    (hfraction : splitFraction afterWhole = (fraction, afterFraction))
    (hexponent : splitExponent afterFraction = (exponent, left)) :
    readUnsigned size negative u =
      if fraction.isEmpty && exponent.isNone then
        if Numeral.digitLimit < whole.length then .error (.numeral (.tooLong whole.length))
        else .ok (.int (Numeral.signedValue negative (whole.filterMap CodePoint.asciiDigit?)), left)
      else .ok (.float (.nearest negative (number (whole ++ fraction)) (exponent.getD 0 - fraction.length)), left) := by
  have hempty : ¬whole.isEmpty = true := by
    rw [List.isEmpty_eq_false_iff.2 hne]
    decide
  unfold readUnsigned
  rw [hwhole]
  dsimp only
  rw [if_neg hempty, hfraction]
  dsimp only
  rw [hexponent]

/-- A number is a whole number if it has neither a fraction nor an exponent. -/
theorem readNumber_text (h : m.IsWritten) (hplain : m.IsPlain) (negative : Bool) (ht : Follows t) :
    readNumber (signText negative ++ m.text ++ t) =
      if m.fraction.isNone && m.exponent.isNone then
        if Numeral.digitLimit < m.whole.length then .error (.numeral (.tooLong m.whole.length))
        else .ok (.int (Numeral.signedValue negative (m.whole.filterMap CodePoint.asciiDigit?)), t)
      else .ok (.float (Binary64.nearest negative m.coefficient m.scale), t) := by
  obtain ⟨exponent, hexponent, hpower, hsame⟩ := splitExponent_append h ht
  have hfraction := splitFraction_append h hplain fun c hc => head?_exponentText m ht hc
  have hwhole := splitWhole_append h hplain fun c hc => head?_fractionText m ht hc
  have hminus : (m.whole ++ (m.fractionText ++ (m.exponentText ++ t))).head? ≠ some (CodePoint.ofChar '-') := by
    intro hc
    rw [List.head?_append_of_ne_nil _ h.whole_ne_nil] at hc
    exact absurd (h.whole _ (List.mem_of_mem_head? hc)) (by decide)
  have hnone : (m.fraction.getD []).isEmpty = m.fraction.isNone := by
    have hne := hplain.fraction
    cases hf : m.fraction with
    | none => rfl
    | some f =>
      refine List.isEmpty_eq_false_iff.2 ?_
      rintro rfl
      exact hne hf
  have hsplit : signText negative ++ m.text ++ t =
      signText negative ++ (m.whole ++ (m.fractionText ++ (m.exponentText ++ t))) := by
    simp only [Magnitude.text, List.append_assoc]
  have hread (size : Nat) := readUnsigned_parts size negative h.whole_ne_nil hwhole hfraction hexponent
  rw [hnone, hpower, hsame] at hread
  rw [hsplit]
  cases negative with
  | true => exact (readNumber_minus _).trans (hread _)
  | false => exact (readNumber_of_head? hminus).trans (hread _)

/-- **Whole numbers are read again**, if they have no more digits than are converted. -/
theorem readNumber_ofInt {n : Int} (hn : (Text.ofNat n.natAbs).length ≤ Numeral.digitLimit) (ht : Follows t) :
    readNumber (ofInt n ++ t) = .ok (.int n, t) := by
  have hplain : (Magnitude.ofNat n.natAbs).IsPlain := by
    refine ⟨?_, nofun⟩
    by_cases hzero : n.natAbs = 0
    · left
      rw [hzero]
      rfl
    · exact .inr (head?_ofNat hzero)
  have hvalue : Numeral.signedValue (decide (n < 0))
      ((Text.ofNat n.natAbs).filterMap CodePoint.asciiDigit?) = n := by
    have hnumber : valueOfDigits ((Text.ofNat n.natAbs).filterMap CodePoint.asciiDigit?) = n.natAbs :=
      number_ofNat _
    rw [Numeral.signedValue, hnumber]
    simp only [decide_eq_true_eq]
    split_ifs with hneg
    · rw [Int.ofNat_natAbs_of_nonpos hneg.le, neg_neg]
    · exact Int.natAbs_of_nonneg (not_lt.1 hneg)
  rw [ofInt_eq, readNumber_text (isWritten_ofNat _) hplain _ ht]
  show (if Numeral.digitLimit < (Text.ofNat n.natAbs).length then _ else _) = _
  rw [if_neg (not_lt.2 hn)]
  show Except.ok (Value.int (Numeral.signedValue _ ((Text.ofNat n.natAbs).filterMap _)), t) = _
  rw [hvalue]

/-- A finite floating-point number is written as a sign and a magnitude that rounds to it. -/
theorem exists_magnitude_writeFloat (negative : Bool) (index : Fin 0x7FF0000000000000) :
    ∃ m : Magnitude, m.IsWritten ∧ m.IsReal ∧ writeFloat (.finite negative index) = signText negative ++ m.text ∧
      Binary64.nearest negative m.coefficient m.scale = .finite negative index := by
  obtain ⟨m, hm, hreal, -, htext, hrounds⟩ := Binary64.exists_magnitude_indexText index.isLt
  have hwritten : writeFloat (.finite negative index) = signText negative ++ Binary64.indexText index := by
    cases negative <;> rfl
  refine ⟨m, hm, hreal, ?_, ?_⟩
  · rw [hwritten, htext]
  · rw [Binary64.nearest_eq negative hrounds, Binary64.ofIndex, dif_pos index.isLt]

/-- **Floating-point numbers are read again**: the text of a finite number is read as this number. -/
theorem readNumber_writeFloat (negative : Bool) (index : Fin 0x7FF0000000000000) (ht : Follows t) :
    readNumber (writeFloat (.finite negative index) ++ t) = .ok (.float (.finite negative index), t) := by
  obtain ⟨m, hm, hreal, htext, hnearest⟩ := exists_magnitude_writeFloat negative index
  have hsome : (m.fraction.isNone && m.exponent.isNone) = false := by
    rcases hreal.isSome with h | h
    · rw [Option.isNone_eq_false_iff.2 h, Bool.false_and]
    · rw [Option.isNone_eq_false_iff.2 h, Bool.and_false]
  rw [htext, readNumber_text hm hreal.toIsPlain negative ht, hsome, hnearest]
  rfl

end Json

end CardPayments
