import CardPayments.Proofs.Payment.Charge
import CardPayments.Proofs.Payment.Customer
import CardPayments.Proofs.Time.Zone

/-!
# What a client is told agrees with what is stored

The answer to a payment and its rows are made from the same charge along different ways: what is shown of
a value is what its column holds (`Shown.text_eq_ofColumn`), a missing date of the charge is shown as the
time of the payment and stored as none, and times are shown in the local zone and stored in universal
time.  `PaymentService.process_answer` says that the two agree for every payment that has a result.
-/

namespace CardPayments

open Json

namespace Shown

/-- What is shown of a column of texts; an empty one is null. -/
def ofColumn : Option Text → Value
  | none => .null
  | some t => .text t

/-- What is shown of a value is what a column of texts holds of it. -/
theorem text_eq_ofColumn (v : Value) : Shown.text v = ofColumn (Offer.value v).text := by
  cases v <;> rfl

/-- What is shown of a value that is not null is what a required column holds of it. -/
theorem text_eq_requiredText {v : Value} (h : v ≠ .null) :
    Shown.text v = .text (Offer.value v).requiredText := by
  rw [text_eq_ofColumn, Offer.text_value h, Offer.requiredText_value h]
  rfl

end Shown

/-- The value of a field, if the value is an object with such a field. -/
def Json.Value.field? (name : Text) : Value → Option Value
  | .object fields => Value.lookup? name fields
  | _ => none

/-- The instant of a transaction; that of the payment if the transaction has none. -/
def TransactionRow.instantOr (r : TransactionRow) (now : DateTime) : Int :=
  match r.transactionDate with
  | some t => t.ticks
  | none => Zone.instantOf now

/-- An answer that was given at a time says what the transaction of a charge, its history, its log and its
customer say. -/
structure SaysOf (now : DateTime) (answer : Value) (r : TransactionRow) (h : HistoryRow) (l : LogRow)
    (c : CustomerRow) : Prop where
  id : answer.field? "id" = some (.text r.transactionId)
  log_id : l.apiNo1 = some r.transactionId
  order : answer.field? "order_id" = some (Shown.ofColumn r.orderId)
  log_order : l.referenceNo = r.orderId
  customer : answer.field? "customer_id" = some (.text r.transactionCustomerId)
  customer_id : c.apiCustomerId = r.transactionCustomerId
  status : answer.field? "status" = some (.text r.transactionStatus)
  history_status : h.status = r.transactionStatus
  url : answer.field? "three_d_secure_url" = some (Shown.ofColumn r.redirectUrl)
  message : answer.field? "error_message" = some (Shown.ofColumn r.message)
  /-- The instant is shown with its offset, and is that of the transaction. -/
  instant : ∃ text t offset, answer.field? "created_at" = some (.text text) ∧
    DateTime.read text = .ok (some (.aware t offset)) ∧
    Zone.instantOf (.aware t offset) = r.instantOr now

namespace PaymentService

namespace Attempt

open Store Provider.Account

variable {a : Attempt} {s : Store} {m : Logged} {answer : Value}

/-- The fields of an answer. -/
theorem field?_of_toJson {r : PaymentResult} (h : r.toJson = .ok answer) :
    answer.field? "id" = some (Shown.text r.id) ∧
      answer.field? "order_id" = some (Shown.text r.orderId) ∧
      answer.field? "customer_id" = some (Shown.text r.customerId) ∧
      answer.field? "status" = some (Shown.text r.status) ∧
      answer.field? "three_d_secure_url" = some (Shown.text r.confirmationUrl) ∧
      answer.field? "error_message" = some (Shown.text r.errorMessage) ∧
      ∃ shown, answer.field? "created_at" = some shown ∧ Shown.time r.createdAt = .ok shown := by
  unfold PaymentResult.toJson at h
  obtain ⟨amount, _, h⟩ := bind_eq_ok.1 h
  obtain ⟨createdAt, htime, h⟩ := bind_eq_ok.1 h
  obtain rfl := pure_eq_ok.1 h
  exact ⟨rfl, rfl, rfl, rfl, rfl, rfl, createdAt, rfl, htime⟩

variable (a s m) in
/-- The row of the transaction for the charge. -/
def chargeRow : TransactionRow :=
  (a.chargeDraft m.payer m.charge m.status).row (s.after (a.written (.logged m))).transactions.next

variable (a s m) in
/-- The first entry of the history of the transaction for the charge. -/
def chargeHistory : HistoryRow :=
  ((a.chargeDraft m.payer m.charge m.status).firstHistory
    ((cutNotes m.charge.errorMessage).toOption.getD .null) a.now).row (a.chargeRow s m).id
    (s.after (a.written (.logged m))).histories.next

variable (a s m) in
/-- The row of the log of the charge. -/
def logRow : LogRow :=
  (a.logDraft m.payer m.method m.charge (PaymentStatus.codeOf m.status)).row s.logs.next

/-- All transactions, states and logs that a whole payment leaves. -/
theorem since_whole :
    let t := s.after (a.written (.charged m))
    t.transactions.since s.transactions = [a.tokenRow s m.toTokenized, a.chargeRow s m] ∧
      t.histories.since s.histories = [a.tokenHistory s m.toTokenized, a.chargeHistory s m] ∧
      t.logs.since s.logs = [a.logRow s m] := by
  intro t
  have ht : t = (a.chargeWrite m).effect (s.after (a.written (.logged m))) := by
    show s.after (a.written (.charged m)) = _
    rw [written_charged, after_append]
    rfl
  obtain ⟨hold, hold', hlogs, _⟩ := tables_logged (a := a) (s := s) (m := m)
  obtain ⟨htoken, htoken', _⟩ := tables_tokenized (a := a) (s := s) (l := m.toTokenized)
  obtain ⟨hsince, hsince'⟩ := since_logged (a := a) (s := s) (m := m)
  refine ⟨?_, ?_, ?_⟩
  · rw [ht, chargeWrite, Write.effect, Table.since_insert, hsince]
    · rfl
    · rw [hold, htoken]
      exact (List.prefix_append _ _).length_le
  · rw [ht, chargeWrite, Write.effect, Table.since_insert, hsince']
    · rfl
    · rw [hold', htoken']
      exact (List.prefix_append _ _).length_le
  · rw [ht, chargeWrite, Write.effect, hlogs]
    exact Table.since_insert_self

/-- The transaction for the token has another key than that for the charge. -/
theorem filter_histories :
    [a.tokenHistory s m.toTokenized, a.chargeHistory s m].filter
      (fun h => h.transactionId = (a.chargeRow s m).id) = [a.chargeHistory s m] := by
  have hnext : (a.chargeRow s m).id = s.transactions.next + 1 := by
    obtain ⟨hlogged, _⟩ := tables_logged (a := a) (s := s) (m := m)
    obtain ⟨htoken, _⟩ := tables_tokenized (a := a) (s := s) (l := m.toTokenized)
    show (s.after (a.written (.logged m))).transactions.next = _
    rw [hlogged, htoken]
    rfl
  have hother : (a.tokenHistory s m.toTokenized).transactionId ≠ (a.chargeRow s m).id := by
    rw [hnext]
    exact Nat.ne_of_lt (Nat.lt_succ_self _)
  rw [List.filter_cons_of_neg (by simpa using hother)]
  exact List.filter_cons_of_pos (by exact decide_eq_true rfl)

/-- The instant of the transaction is that at which the charge was made, by the provider's date or else by
the time of the payment. -/
theorem instantOr_chargeRow (h : ∀ x, m.charge.creationDate = some x → (Offer.toUniversal x).isOk = true) :
    (a.chargeRow s m).instantOr a.now = Zone.instantOf (m.charge.creationDate.getD a.now) := by
  have hdate : (a.chargeRow s m).transactionDate = (Offer.ofTime? m.charge.creationDate).instant := rfl
  cases hcreated : m.charge.creationDate with
  | none =>
    rw [hcreated] at hdate
    unfold TransactionRow.instantOr
    rw [hdate]
    rfl
  | some x =>
    obtain ⟨t, ht⟩ := isOk_iff.1 (h x hcreated)
    have hinstant : (Offer.time x).instant = some t := by
      show ((Offer.toUniversal x).map some).toOption.join = some t
      rw [ht]
      rfl
    rw [hcreated, Offer.ofTime?, hinstant] at hdate
    unfold TransactionRow.instantOr
    rw [hdate]
    exact Offer.toUniversal_eq_ok ht

/-- The answer of a whole payment says what its rows say. -/
theorem saysOf_charged (hg : (Stage.charged m).IsReached a s) (hheard : m.Heard a) {c : CustomerRow}
    (hc : c.apiCustomerId = m.payer.name.display) (h : (a.result m.payer m.charge).toJson = .ok answer) :
    SaysOf a.now answer (a.chargeRow s m) (a.chargeHistory s m) (a.logRow s m) c := by
  obtain ⟨hid, horder, hcustomer, hstatus, hurl, hmessage, shown, htime, hshown⟩ := field?_of_toJson h
  have hnull : m.charge.id ≠ .null := id_ne_null_of_chargeOf hheard.charge
  obtain ⟨hlogged, hfit⟩ := hg.of_charged
  have hbookable : m.charge.IsBookable := (chargeWrite_isFit_iff hlogged hnull).1 hfit
  constructor
  · rw [hid]
    exact congrArg some (Shown.text_eq_requiredText hnull)
  · show (Offer.value m.charge.id).text = some (Offer.value m.charge.id).requiredText
    rw [Offer.text_value hnull, Offer.requiredText_value hnull]
  · rw [horder]
    rfl
  · rfl
  · rw [hcustomer]
    exact congrArg some (Shown.text_eq_requiredText name_ne_null)
  · rw [hc]
    exact (Offer.requiredText_value name_ne_null).symm
  · rw [hstatus]
    exact congrArg some (Shown.text_eq_requiredText statusOf_ne_null)
  · rfl
  · rw [hurl]
    exact congrArg some (Shown.text_eq_ofColumn _)
  · rw [hmessage]
    exact congrArg some (Shown.text_eq_ofColumn _)
  · obtain ⟨text, t, offset, rfl, hread, hinstant⟩ := Shown.time_eq_ok hshown
    refine ⟨text, t, offset, htime, hread, ?_⟩
    rw [hinstant, instantOr_chargeRow hbookable.date]
    rfl

end Attempt

variable (s : PaymentService) (now : DateTime) (request : PaymentRequest) (d : Desk)

/-- **The answer to a payment**: when a payment has a result and the result can be sent, the store has
gained one transaction for the charge with one entry of its history, and one log, the transaction has its
customer, and the answer says what they say. -/
theorem process_answer (hd : d.methodVanishes = false) (hcustomers : d.store.customers.IsKeyed)
    {result : PaymentResult} (hresult : (d.run (s.process now request)).1 = .ok result) {answer : Value}
    (hanswer : result.toJson = .ok answer) :
    ∃ r h l c,
      ((d.run (s.process now request)).2.store.transactions.since d.store.transactions).filter
        (fun r => r.transactionType = TransactionKind.charge.label) = [r] ∧
      ((d.run (s.process now request)).2.store.histories.since d.store.histories).filter
        (fun h => h.transactionId = r.id) = [h] ∧
      (d.run (s.process now request)).2.store.logs.since d.store.logs = [l] ∧
      (d.run (s.process now request)).2.store.customers.find? r.customerId = some c ∧
      SaysOf now answer r h l c := by
  rcases s.process_course now request d hd with
    ⟨e, _, _, hr, _⟩ | ⟨a, g, before, last, ha, hsteps, hhalts, _, hreached, _, _, hfinal⟩
  · rw [hresult] at hr
    cases hr
  · rw [hresult] at hhalts
    obtain ⟨m, rfl⟩ := hhalts.ok_iff.1 ⟨result, rfl⟩
    obtain ⟨year, month, rfl⟩ := eq_of_attempt ha
    cases hhalts with
    | paid =>
      have hheard := hsteps.heard trivial
      have hagrees : m.toKnown.Agrees _ d.store := hreached.agrees
      obtain ⟨c, hc, _, _, hname⟩ := hagrees.exists_row hcustomers (g := .charged m) rfl
      obtain ⟨htransactions, hhistories, hlogs⟩ := Attempt.since_whole
        (a := ⟨s, now, request, s.deviceSessionFor request, year, month⟩) (s := d.store) (m := m)
      rw [hfinal]
      refine ⟨_, _, _, c, ?_, ?_, hlogs, hc, Attempt.saysOf_charged hreached hheard hname hanswer⟩
      · rw [htransactions]
        rfl
      · rw [hhistories]
        exact Attempt.filter_histories

/-- A charge whose identifier is a number, and which was made at a local time of the zone. -/
def trialLocalCharge : Text :=
  "\x7b\"id\": 17, \"status\": \"completed\", \"amount\": 100, " ++
    "\"creation_date\": \"2026-02-03T04:05:06\", \"error_message\": \"\"\x7d"

/-- The answer to the trial payment of such a charge says what its rows say. -/
theorem trial_answer :
    (trialDesk trialLocalCharge).methodVanishes = false ∧
      (trialDesk trialLocalCharge).store.customers.IsKeyed ∧
      ∃ result answer r h l c, (trialOutcome trialLocalCharge).1 = .ok result ∧
        result.toJson = .ok answer ∧ r ∈ (trialOutcome trialLocalCharge).2.store.transactions.rows ∧
        SaysOf trialTime answer r h l c := by
  have hkeyed : (trialDesk trialLocalCharge).store.customers.IsKeyed := Table.isKeyed_of_rows_eq_nil rfl
  have hok : ((trialOutcome trialLocalCharge).1 >>= PaymentResult.toJson).isOk = true := by decide +kernel
  rw [trialOutcome] at hok ⊢
  obtain ⟨answer, hok⟩ := isOk_iff.1 hok
  obtain ⟨result, hresult, hanswer⟩ := bind_eq_ok.1 hok
  obtain ⟨r, h, l, c, hr, _, _, _, hsays⟩ := process_answer trialService trialTime Session.trialRequest
    (trialDesk trialLocalCharge) rfl hkeyed hresult hanswer
  have hmem : r ∈ [r] := List.mem_singleton_self r
  rw [← hr] at hmem
  exact ⟨rfl, hkeyed, result, answer, r, h, l, c, hresult, hanswer,
    List.mem_of_mem_drop (List.mem_of_mem_filter hmem), hsays⟩

end PaymentService

end CardPayments
