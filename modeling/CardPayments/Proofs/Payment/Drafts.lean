import CardPayments.Proofs.Card.Mask
import CardPayments.Proofs.Payment.Rows

/-!
# When the rows of a charge are taken

The transaction for the token has passed when the log of the charge is offered, and the log has passed
when the transaction for the charge is.  What they have in common is therefore not in question any more
(`Attempt.IsStorable`), and what is left to ask is only about the answer that describes the charge
(`logWrite_isFit_iff`, `chargeWrite_isFit_iff`).
-/

namespace CardPayments

/-! ### Labels and codes -/

@[simp] theorem MethodKind.isStorable_label (k : MethodKind) : k.label.IsStorable := by
  cases k
  decide

@[simp] theorem TransactionKind.isStorable_label (k : TransactionKind) : k.label.IsStorable := by
  cases k <;> decide

@[simp] theorem TransactionState.isStorable_label (k : TransactionState) : k.label.IsStorable := by
  cases k <;> decide

/-- The code of an outcome always fits its column. -/
theorem PaymentStatus.fits_codeOf (status : Option Text) : Offer.fits (codeOf status) = true := by
  have hmembers : ∀ m ∈ Choices.paymentStatus.members, Offer.fits m.code = true := by decide
  unfold codeOf
  cases hcode : status.bind Choices.paymentStatus.codeOfLabel? with
  | none => rfl
  | some code =>
    obtain ⟨label, _, hlabel⟩ := Option.bind_eq_some_iff.1 hcode
    obtain ⟨m, hm, rfl⟩ := Option.map_eq_some_iff.1 hlabel
    exact hmembers m (List.mem_of_find?_eq_some hm)

/-! ### What is noted about a charge -/

/-- A message has a beginning that can be noted: it does not count as present, or is a text or a list. -/
def Json.Value.IsSliceable (v : Json.Value) : Prop :=
  v.isTruthy = true → (∃ t, v = .text t) ∨ ∃ items, v = .list items

/-- Notes are cut exactly when they have a beginning, and if they can be stored, so can what is left. -/
theorem cutNotes_isOk {notes : Json.Value} (hnotes : notes.display.IsStorable) :
    (∃ cut, cutNotes notes = .ok cut ∧ cut.display.IsStorable) ↔ notes.IsSliceable := by
  unfold cutNotes Json.Value.IsSliceable
  split_ifs with h
  · cases notes with
    | text t => exact iff_of_true ⟨_, rfl, hnotes.take notesLimit⟩ fun _ => .inl ⟨t, rfl⟩
    | list items =>
      exact iff_of_true ⟨_, rfl, Json.Value.isStorable_display.2 nofun⟩ fun _ => .inr ⟨items, rfl⟩
    | _ => simp [Json.Value.beginning, h]
  · exact iff_of_true ⟨notes, rfl, hnotes⟩ fun hpresent => absurd hpresent h

/-- What has to be so about a charge for its transaction to be taken, beyond what its log needs. -/
structure Provider.Charge.IsBookable (c : Provider.Charge) : Prop where
  /-- The status can be stored. -/
  status : c.status.display.IsStorable
  /-- The date, if there is one, is an instant of the calendar. -/
  date : ∀ x, c.creationDate = some x → (Offer.toUniversal x).isOk = true
  /-- The address can be stored. -/
  url : c.confirmationUrl.display.IsStorable
  /-- The message can be stored. -/
  message : c.errorMessage.display.IsStorable
  /-- The message has a beginning. -/
  notes : c.errorMessage.IsSliceable

namespace PaymentService

namespace Attempt

open Store Write

variable {a : Attempt} {s : Store} {payer : Payer} {card : Provider.Card} {charge : Provider.Charge}
  {k : Tokenized} {m : Logged}

/-! ### What the rows have in common -/

variable (a payer) in
/-- What the two transactions of an attempt have in common can be stored. -/
structure IsStorable : Prop where
  id : Offer.fits payer.id = true
  now : (Offer.toUniversal a.now).isOk = true
  payerName : payer.name.display.IsStorable
  order : a.request.orderId.IsStorable
  name : a.request.name.IsStorable
  year : Offer.fits a.expireYear = true
  month : Offer.fits a.expireMonth = true
  number : (Card.maskNumber a.request.cardNumber).IsStorable

@[simp] theorem name_ne_null : payer.name ≠ .null := Json.Value.orEmpty_ne_null

theorem statusOf_ne_null : statusOf charge ≠ .null := by
  unfold statusOf
  split_ifs with h
  · intro hnull
    rw [hnull] at h
    exact absurd h (by decide)
  · exact nofun

theorem isStorable_statusOf :
    (statusOf charge).display.IsStorable ↔ charge.status.display.IsStorable := by
  unfold statusOf
  split_ifs with h
  · rfl
  · exact iff_of_true (Text.isStorable_ofString _) (Json.Value.isStorable_display_of_not_isTruthy h)

theorem isFinite_amount :
    (charge.amount.getD chargeAmount).isFinite = true ↔
      ∀ x, charge.amount = some x → x.isFinite = true := by
  cases charge.amount with
  | none => exact iff_of_true rfl nofun
  | some x => simp

/-- When the transaction for the token is taken, what it shares with that for the charge can be stored. -/
theorem isStorable_of_tokenDraft (h : AreSound (a.tokenDraft payer card).fields) : a.IsStorable payer := by
  simp only [AreSound, TransactionDraft.fields, AuditDraft.fields, tokenDraft, transactionDraft,
    List.cons_append, List.nil_append, List.forall_mem_cons, keyOffer, Field.isSound_integer,
    Field.isSound_instant, Field.isSound_reference, Field.isSound_text, Offer.hasStorableText_value,
    Json.Value.isStorable_display_text] at h
  obtain ⟨hid, hnow, _, _, _, ⟨hpayer, _⟩, _, _, _, ⟨horder, _⟩, _, _, _, _, ⟨hname, _⟩, hyear,
    hmonth, ⟨hnumber, _⟩, _⟩ := h
  exact ⟨hid, hnow, hpayer, horder, hname, hyear, hmonth, hnumber⟩

theorem areSound_logDraft (h : a.IsStorable payer) {method : Nat} {status : Option Text} :
    AreSound (a.logDraft payer method charge (PaymentStatus.codeOf status)).fields ↔
      Offer.fits method = true ∧ a.service.provider.name.IsStorable ∧
        charge.id.display.IsStorable ∧ ∀ x, charge.amount = some x → x.isFinite = true := by
  have hkind : Offer.fits PayinKind.charge.choice.code = true := rfl
  have hamount : chargeAmount.isFinite = true := rfl
  have hcurrency : currencyCode.IsStorable := Text.isStorable_ofString _
  -- The columns one by one: all but four of them are fixed or shared with the token.
  simp only [AreSound, LogDraft.fields, AuditDraft.fields, logDraft, List.cons_append,
    List.nil_append, List.forall_mem_cons, keyOffer]
  simp [h.id, h.now, h.order, h.name.take, PaymentStatus.fits_codeOf, hkind, hamount, hcurrency,
    Card.isStorable_lastFour h.number]

theorem areSound_chargeDraft (h : a.IsStorable payer) (hid : charge.id ≠ .null) {status : Option Text} :
    AreSound (a.chargeDraft payer charge status).fields ↔
      charge.id.display.IsStorable ∧ charge.status.display.IsStorable ∧
        (∀ x, charge.creationDate = some x → (Offer.toUniversal x).isOk = true) ∧
        (∀ x, charge.amount = some x → x.isFinite = true) ∧
        charge.confirmationUrl.display.IsStorable ∧ charge.errorMessage.display.IsStorable := by
  have hcurrency : currencyCode.IsStorable := Text.isStorable_ofString _
  simp only [AreSound, TransactionDraft.fields, AuditDraft.fields, chargeDraft, transactionDraft,
    List.cons_append, List.nil_append, List.forall_mem_cons, keyOffer]
  simp [h.id, h.now, h.order, h.payerName, h.name, h.year, h.month, h.number, hid, hcurrency,
    statusOf_ne_null, isStorable_statusOf, isFinite_amount]

/-! ### What a stage has come through -/

theorem Stage.IsReached.of_logged (h : (Stage.logged m).IsReached a s) :
    (Stage.tokenized m.toTokenized).IsReached a s ∧
      (a.logWrite m).IsFit (s.after (a.written (.tokenized m.toTokenized))) := by
  obtain ⟨hagrees, htakes⟩ := h
  rw [written_logged, takes_concat] at htakes
  exact ⟨⟨hagrees, htakes.1⟩, htakes.2⟩

theorem Stage.IsReached.of_charged (h : (Stage.charged m).IsReached a s) :
    (Stage.logged m).IsReached a s ∧ (a.chargeWrite m).IsFit (s.after (a.written (.logged m))) := by
  obtain ⟨hagrees, htakes⟩ := h
  rw [written_charged, takes_concat] at htakes
  exact ⟨⟨hagrees, htakes.1⟩, htakes.2⟩

theorem Stage.IsReached.of_tokenized (h : (Stage.tokenized k).IsReached a s) :
    (a.tokenWrite k).IsFit (s.after (a.written (.owned k.toKnown))) := by
  have htakes := h.takes
  rw [written_tokenized, takes_concat] at htakes
  exact htakes.2

theorem Stage.IsReached.isStorable (h : (Stage.tokenized k).IsReached a s) : a.IsStorable k.payer :=
  isStorable_of_tokenDraft h.of_tokenized.1

/-- The payment method is there from the first step on. -/
theorem Stage.IsReached.has_method (h : (Stage.tokenized k).IsReached a s) :
    (s.after (a.written (.tokenized k))).methods.has k.method = true := by
  have hagrees : k.toKnown.Agrees a s := h.agrees
  rw [hagrees.method]
  -- It is added by the first group, and no later one takes it away.
  exact has_methods_after (s := s.after [a.methodWrite k.token]) (Table.has_insert.2 (.inr rfl))

/-- The customer is there when the transaction for the token is taken, and stays. -/
theorem Stage.IsReached.has_customer (h : (Stage.logged m).IsReached a s) :
    (s.after (a.written (.logged m))).customers.has m.payer.id = true := by
  have hthere : (s.after (a.written (.owned m.toKnown))).customers.has m.payer.id = true :=
    h.of_logged.1.of_tokenized.2.2
  rw [written_logged, written_tokenized, after_append, after_append, after_singleton, after_singleton]
  exact has_customers_effect (has_customers_effect hthere)

/-! ### When the log and the transaction for the charge are taken -/

/-- Once the token is written, the log of a charge is taken when the amount is finite, the identifier and
the name of the provider are texts that can be stored, the key of the payment method fits, and both
documents are standard. -/
theorem logWrite_isFit_iff {reply : Provider.Reply} {status : Option Text}
    (h : (Stage.tokenized k).IsReached a s) :
    (a.logWrite ⟨k, reply, charge, status⟩).IsFit (s.after (a.written (.tokenized k))) ↔
      (Offer.fits k.method = true ∧ a.service.provider.name.IsStorable ∧
        charge.id.display.IsStorable ∧ ∀ x, charge.amount = some x → x.isFinite = true) ∧
        (a.chargePayload k).isStandard = true ∧ charge.raw.isStandard = true := by
  have hstamp : AreSound ((a.logDraft k.payer k.method charge
      (PaymentStatus.codeOf status)).detailsStamp a.now).fields := by
    simp only [AreSound, LogDraft.detailsStamp, logDraft, AuditDraft.fields, List.forall_mem_cons,
      keyOffer]
    simp [h.isStorable.id, h.isStorable.now]
  rw [logWrite, IsFit, areSound_logDraft h.isStorable]
  constructor
  · rintro ⟨hdraft, _, hrequest, hanswer, _⟩
    exact ⟨hdraft, hrequest, hanswer⟩
  · rintro ⟨hdraft, hrequest, hanswer⟩
    exact ⟨hdraft, hstamp, hrequest, hanswer, h.has_method⟩

/-- Once the log is written, the transaction for the charge is taken when the charge is bookable. -/
theorem chargeWrite_isFit_iff (h : (Stage.logged m).IsReached a s) (hid : m.charge.id ≠ .null) :
    (a.chargeWrite m).IsFit (s.after (a.written (.logged m))) ↔ m.charge.IsBookable := by
  have hstorable : a.IsStorable m.payer := h.of_logged.1.isStorable
  -- The identifier and the amount have passed with the log.
  obtain ⟨⟨_, _, hidStorable, hamount⟩, _⟩ := (logWrite_isFit_iff h.of_logged.1).1 h.of_logged.2
  have hhistory {cut : Json.Value} (hstatus : m.charge.status.display.IsStorable) :
      AreSound ((a.chargeDraft m.payer m.charge m.status).firstHistory cut a.now).fields ↔
        cut.display.IsStorable := by
    simp only [AreSound, TransactionDraft.firstHistory, HistoryDraft.fields, chargeDraft,
      transactionDraft, AuditDraft.fields, List.cons_append, List.nil_append, List.forall_mem_cons,
      keyOffer]
    simp [hstorable.id, hstorable.now, statusOf_ne_null, isStorable_statusOf, hstatus]
  rw [chargeWrite, IsFit, areSound_chargeDraft hstorable hid]
  constructor
  · rintro ⟨⟨_, hstatus, hdate, _, hurl, hmessage⟩, ⟨cut, hcut, hsound⟩, _⟩
    exact ⟨hstatus, hdate, hurl, hmessage, (cutNotes_isOk hmessage).1 ⟨cut, hcut, (hhistory hstatus).1 hsound⟩⟩
  · rintro ⟨hstatus, hdate, hurl, hmessage, hsliceable⟩
    obtain ⟨cut, hcut, hsound⟩ := (cutNotes_isOk hmessage).2 hsliceable
    exact ⟨⟨hidStorable, hstatus, hdate, hamount, hurl, hmessage⟩,
      ⟨cut, hcut, (hhistory hstatus).2 hsound⟩, h.has_customer⟩

end Attempt

end PaymentService

end CardPayments
