import CardPayments.Card.Mask
import CardPayments.Payment.Form
import CardPayments.Proofs.Failure
import CardPayments.Proofs.Text.DecimalDigit
import CardPayments.Proofs.Text.Storable
import Mathlib.Data.List.Basic

/-!
# What an accepted request looks like

A field of an accepted request was read from the body, and a text that was read from a field is without
faults, unless it is the empty text of an optional one (`FormField.faults_of_readFrom`).  In particular there are
no blanks in the number of a card that was accepted, so that the whole of it is masked
(`PaymentRequest.compact_cardNumber`), and all that a payment makes of an accepted request it can make of it
(`PaymentRequest.isUsable_of_ofBody`).
-/

namespace CardPayments

namespace FormField

variable {f : FormField} {given : List (Text × Json.Value)} {v : Json.Value} {s t : Text}

/-- What a field makes of a trimmed text. -/
def readTrimmed (f : FormField) (t : Text) : Except (List FieldFault) Text :=
  if t.isEmpty then if f.isOptional then .ok [] else .error [.blank]
  else
    match f.faults t with
    | [] => .ok t
    | faults => .error faults

/-- Of a value that is there, only the trimmed text is read that it stands for. -/
theorem read_of_ne_null (hv : v ≠ .null) : f.read (some v) =
    match textOf? v with
    | none => .error [f.kindFault]
    | some s => f.readTrimmed s.trim := by
  cases v with
  | null => exact absurd rfl hv
  | _ => rfl

theorem read_of_textOf? (h : textOf? v = some s) : f.read (some v) = f.readTrimmed s.trim := by
  have hv : v ≠ .null := by
    rintro rfl
    cases h
  rw [read_of_ne_null hv, h]

/-- A text is accepted as it is. -/
theorem eq_of_readTrimmed (h : f.readTrimmed s = .ok t) : t = s := by
  unfold readTrimmed at h
  split_ifs at h with hempty
  · rw [List.isEmpty_iff.1 hempty]
    exact (Except.ok.inj h).symm
  · split at h
    · exact (Except.ok.inj h).symm
    · cases h

/-- A text is read from a field that is missing and optional, or from a value that stands for a text. -/
theorem readFrom_cases (h : f.readFrom given = .ok t) :
    f.isOptional = true ∧ t = [] ∨ ∃ s, f.readTrimmed (Text.trim s) = .ok t := by
  unfold readFrom at h
  cases hv : Json.Value.lookup? f.name given with
  | none =>
    rw [hv] at h
    unfold read at h
    split_ifs at h with hf
    exact .inl ⟨hf, (Except.ok.inj h).symm⟩
  | some v =>
    rw [hv] at h
    have hne : v ≠ .null := by
      rintro rfl
      cases h
    rw [read_of_ne_null hne] at h
    split at h
    · cases h
    · exact .inr ⟨_, h⟩

/-- A text that is read from a required field is not empty and without faults. -/
theorem faults_of_readFrom (h : f.readFrom given = .ok t) (hf : f.isOptional = false) :
    t ≠ [] ∧ f.faults t = [] := by
  rcases readFrom_cases h with ⟨hoptional, -⟩ | ⟨s, hs⟩
  · rw [hf] at hoptional
    cases hoptional
  · obtain rfl := eq_of_readTrimmed hs
    unfold readTrimmed at hs
    split_ifs at hs with hempty hoptional
    · rw [hf] at hoptional
      cases hoptional
    · split at hs
      · next hfaults => exact ⟨fun hnil => hempty (List.isEmpty_iff.2 hnil), hfaults⟩
      · cases hs

/-- A text without faults is admitted by its field. -/
theorem admits_of_faults (h : f.faults t = []) : f.admits t = true := by
  unfold faults at h
  by_contra hadmits
  simp [hadmits] at h

/-- A text without faults can be stored. -/
theorem isStorable_of_faults (h : f.faults t = []) : t.IsStorable := by
  have hnone : t.find? CodePoint.isSurrogate = none := by
    unfold faults at h
    cases hfound : t.find? CodePoint.isSurrogate with
    | none => rfl
    | some unit => simp [hfound] at h
  intro c hc
  simpa using List.find?_eq_none.1 hnone c hc

end FormField

namespace PaymentRequest

variable {v : Json.Value} {r : PaymentRequest}

/-- The fields of a request that a body stands for were read from the fields of an object. -/
theorem readFrom_of_ofBody (h : ofBody v = .ok r) : ∃ given, v = .object given ∧
    PaymentForm.name.readFrom given = .ok r.name ∧
    PaymentForm.email.readFrom given = .ok r.email ∧
    PaymentForm.deviceSession.readFrom given = .ok r.deviceSession ∧
    PaymentForm.cardNumber.readFrom given = .ok r.cardNumber ∧
    PaymentForm.expirationYear.readFrom given = .ok r.expirationYear ∧
    PaymentForm.expirationMonth.readFrom given = .ok r.expirationMonth ∧
    PaymentForm.check.readFrom given = .ok r.check ∧
    PaymentForm.orderId.readFrom given = .ok r.orderId := by
  cases v with
  | object given =>
    rw [ofBody] at h
    split at h
    · next request hfields =>
      obtain rfl := Except.ok.inj h
      unfold ofFields at hfields
      obtain ⟨name, hname, hfields⟩ := bind_eq_ok.1 hfields
      obtain ⟨email, hemail, hfields⟩ := bind_eq_ok.1 hfields
      obtain ⟨session, hsession, hfields⟩ := bind_eq_ok.1 hfields
      obtain ⟨number, hnumber, hfields⟩ := bind_eq_ok.1 hfields
      obtain ⟨year, hyear, hfields⟩ := bind_eq_ok.1 hfields
      obtain ⟨month, hmonth, hfields⟩ := bind_eq_ok.1 hfields
      obtain ⟨check, hcheck, hfields⟩ := bind_eq_ok.1 hfields
      obtain ⟨order, horder, hfields⟩ := bind_eq_ok.1 hfields
      obtain rfl := pure_eq_ok.1 hfields
      exact ⟨given, rfl, hname, hemail, hsession, hnumber, hyear, hmonth, hcheck, horder⟩
    · cases h
  | _ => cases h

/-- The number of the card of an accepted request consists of 12 to 19 decimal digits. -/
theorem isDigits_cardNumber (h : ofBody v = .ok r) :
    PaymentForm.isDigits 12 19 r.cardNumber = true := by
  obtain ⟨given, _, _, _, _, hnumber, _⟩ := readFrom_of_ofBody h
  exact FormField.admits_of_faults (FormField.faults_of_readFrom hnumber rfl).2

/-- What a payment needs of its request: texts that can be stored, and an expiry in numbers. -/
structure IsUsable (r : PaymentRequest) : Prop where
  name : r.name.IsStorable
  email : r.email.IsStorable
  cardNumber : r.cardNumber.IsStorable
  year : ∃ n : Int, Numeral.readInteger r.expirationYear = .ok n ∧ 0 ≤ n ∧ n < 100
  month : ∃ n : Int, Numeral.readInteger r.expirationMonth = .ok n ∧ 0 ≤ n ∧ n < 100
  orderId : r.orderId.IsStorable

/-- An accepted request is usable, whatever the script of its digits. -/
theorem isUsable_of_ofBody (h : ofBody v = .ok r) : r.IsUsable := by
  obtain ⟨given, _, hname, hemail, _, hnumber, hyear, hmonth, _, horder⟩ := readFrom_of_ofBody h
  have hstorable {f : FormField} {t : Text} (ht : f.readFrom given = .ok t) (hf : f.isOptional = false) :
      t.IsStorable := FormField.isStorable_of_faults (FormField.faults_of_readFrom ht hf).2
  have hyearDigits : PaymentForm.isDigits 2 2 r.expirationYear = true :=
    FormField.admits_of_faults (FormField.faults_of_readFrom hyear rfl).2
  have hmonthForm : PaymentForm.isMonth r.expirationMonth = true :=
    FormField.admits_of_faults (FormField.faults_of_readFrom hmonth rfl).2
  refine ⟨hstorable hname rfl, hstorable hemail rfl, hstorable hnumber rfl, ?_, ?_, hstorable horder rfl⟩
  · simp only [PaymentForm.isDigits, Bool.and_eq_true, decide_eq_true_eq] at hyearDigits
    exact Numeral.readInteger_of_two_digits (by omega) hyearDigits.2
  · simp only [PaymentForm.isMonth, Bool.and_eq_true, decide_eq_true_eq] at hmonthForm
    refine Numeral.readInteger_of_two_digits hmonthForm.1.1.1 (List.all_eq_true.2 fun c hc => ?_)
    exact CodePoint.isDecimalDigit_of_isAsciiDigit (List.all_eq_true.1 hmonthForm.1.1.2 c hc)

/-- There are no blanks in the number of the card of an accepted request. -/
theorem compact_cardNumber (h : ofBody v = .ok r) : Card.compact r.cardNumber = r.cardNumber := by
  have hdigits := isDigits_cardNumber h
  rw [PaymentForm.isDigits, Bool.and_eq_true] at hdigits
  have hblank : (CodePoint.ofChar ' ').isDecimalDigit = false := by decide
  unfold Card.compact
  rw [List.filter_eq_self]
  intro c hc
  have hc := List.all_eq_true.1 hdigits.2 c hc
  rw [decide_eq_true_eq]
  rintro rfl
  rw [hblank] at hc
  cases hc

end PaymentRequest

end CardPayments
