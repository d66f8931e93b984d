import CardPayments.Proofs.Json.RoundTrip
import CardPayments.Proofs.Payment.Answer
import CardPayments.Proofs.Payment.Charge

/-!
# The outcome of a charge

Three things are made of the status that the provider gives a charge, each on its own: the code in the log,
the truth value in the transaction, and the word that is stored and shown.  `PaymentService.process_outcome`
says that they are one verdict, for a status of any kind and in any letters: no status is the same as the
empty one, and what is no text at all ends the payment before anything is written of the charge.
-/

namespace CardPayments

open Json Provider Provider.Account

/-! ### Codes -/

namespace PaymentStatus

variable {status : Option Text} {t : Text}

/-- The code of a status depends on its letters in lower case alone. -/
theorem codeOf_some : codeOf (some t) =
    if Text.lower t = "completed" then success.choice.code
    else if Text.lower t = "charge_pending" then pending.choice.code
    else if Text.lower t = "failed" then failed.choice.code
    else unknown.choice.code := by
  have hsuccess : Text.lower success.choice.label = "completed" := by decide +kernel
  have hpending : Text.lower pending.choice.label = "charge_pending" := by decide +kernel
  have hfailed : Text.lower failed.choice.label = "failed" := by decide +kernel
  rw [codeOf, Option.bind_some, Choices.codeOfLabel?, Choices.paymentStatus]
  simp only [List.map_cons, List.map_nil, List.find?_cons, hsuccess, hpending, hfailed,
    List.find?_nil, @eq_comm Text _ (Text.lower t)]
  split_ifs with h₁ h₂ h₃
  · rw [decide_eq_true h₁]
    rfl
  · rw [decide_eq_false h₁, decide_eq_true h₂]
    rfl
  · rw [decide_eq_false h₁, decide_eq_false h₂, decide_eq_true h₃]
    rfl
  · -- The last of the labels has the code that also stands for all that is not recognised.
    rw [decide_eq_false h₁, decide_eq_false h₂, decide_eq_false h₃]
    cases decide (Text.lower t = Text.lower unknown.choice.label) <;> rfl

/-- A status stands for success exactly when, in lower case, it is the word for it. -/
theorem codeOf_eq_success_iff :
    codeOf status = success.choice.code ↔ ∃ t, status = some t ∧ Text.lower t = "completed" := by
  cases status with
  | none => exact iff_of_false (by decide) (by simp)
  | some t =>
    rw [codeOf_some]
    split_ifs with h
    · simp [h]
    all_goals simp [h, choice]

theorem codeOf_empty : codeOf (some []) = unknown.choice.code := by decide +kernel

theorem codeOf_unknown : codeOf (some unknown.label) = unknown.choice.code := by decide +kernel

end PaymentStatus

/-! ### One verdict -/

/-- What is written and shown of a charge is one and the same verdict on the status that the provider gave it. -/
structure IsOneVerdict (status : Value) (l : LogRow) (r : TransactionRow) (shown : Value) : Prop where
  /-- The status is null or a text. -/
  kind : status = .null ∨ ∃ t, status = .text t
  /-- The log has the code of the status that is stored. -/
  code : l.result = some (PaymentStatus.codeOf (some r.transactionStatus))
  /-- The transaction has succeeded exactly when the code is that for success. -/
  success : r.isSuccess = true ↔ l.result = some PaymentStatus.success.choice.code
  /-- This is so exactly when the status, in lower case, is one word. -/
  word : l.result = some PaymentStatus.success.choice.code ↔
    ∃ t, status = .text t ∧ Text.lower t = "completed"
  /-- A status that is not empty is stored and shown in its own letters. -/
  kept : ∀ t, status = .text t → t ≠ [] → r.transactionStatus = t ∧ shown = .text t
  /-- A status that is missing, null or empty is stored and shown as unknown, and has the code for this. -/
  unknown : status = .null ∨ status = .text [] →
    r.transactionStatus = "unknown" ∧ shown = .text "unknown" ∧
      l.result = some PaymentStatus.unknown.choice.code

namespace PaymentService

/-- What a payment that made some calls tells of the outcome of its charge, in the store behind the one that it
found and in its own outcome. -/
structure TellsOutcome (s : PaymentService) (before after : Store) (xs : List Exchange)
    (outcome : Except Failure PaymentResult) : Prop where
  /-- Where there is a log and a transaction for the charge there is a result, and the three are one verdict on
  the status in the object with which the provider answered the charge. -/
  verdict : ∀ l ∈ after.logs.since before.logs, ∀ r ∈ after.transactions.since before.transactions,
    r.transactionType = TransactionKind.charge.label →
      ∃ fields result, (∃ x ∈ xs, s.Posts "charges" x) ∧
        (∀ x ∈ xs, s.Posts "charges" x → answerOf x.reply = .ok (.object fields)) ∧
        outcome = .ok result ∧ IsOneVerdict (field fields "status") l r result.status
  /-- When the status is neither null nor a text, the payment fails, and there is neither of them. -/
  unread : ∀ x ∈ xs, s.Posts "charges" x → ∀ fields, answerOf x.reply = .ok (.object fields) →
    ¬(field fields "status" = .null ∨ ∃ t, field fields "status" = .text t) →
      (∃ e, outcome = .error e) ∧ after.logs = before.logs ∧ before.LacksTransaction .charge after

namespace Attempt

open Store

variable {a : Attempt} {s : Store} {g : Stage} {m : Logged} {x : Exchange} {charge : Charge}
  {status : Option Text} {fields : List (Text × Value)}

theorem statusText_eq_ok {v : Value} : statusText v = .ok status ↔
    (v = .null ∧ status = none) ∨ ∃ t, v = .text t ∧ status = some t := by
  cases v <;> simp [statusText, eq_comm]

theorem statusOf_of_text {t : Text} (h : charge.status = .text t) (ht : t ≠ []) : statusOf charge = .text t := by
  have htruthy : (Value.text t).isTruthy = true := by simpa [Value.isTruthy] using ht
  rw [statusOf, h, if_pos htruthy]

theorem statusOf_of_empty (h : charge.status = .null ∨ charge.status = .text []) :
    statusOf charge = .text "unknown" := by
  rcases h with h | h <;> rw [statusOf, h] <;> rfl

/-- The status that is stored has the same code as that which was read. -/
theorem codeOf_statusOf (h : statusText charge.status = .ok status) :
    PaymentStatus.codeOf (some (statusOf charge).display) = PaymentStatus.codeOf status := by
  rcases statusText_eq_ok.1 h with ⟨hnull, rfl⟩ | ⟨t, ht, rfl⟩
  · rw [statusOf_of_empty (.inl hnull)]
    exact PaymentStatus.codeOf_unknown
  · by_cases hempty : t = []
    · subst hempty
      rw [statusOf_of_empty (.inr ht), PaymentStatus.codeOf_empty]
      exact PaymentStatus.codeOf_unknown
    · rw [statusOf_of_text ht hempty]
      rfl

/-- The log, the transaction and the result of a charge whose status could be read. -/
theorem isOneVerdict_rows (hstatus : statusText m.charge.status = .ok m.status) :
    IsOneVerdict m.charge.status (a.logRow s m) (a.chargeRow s m) (a.result m.payer m.charge).status := by
  have hresult : (a.logRow s m).result = some (PaymentStatus.codeOf m.status) := rfl
  have hstored : (a.chargeRow s m).transactionStatus = (statusOf m.charge).display :=
    Offer.requiredText_value statusOf_ne_null
  have hsuccess : (a.chargeRow s m).isSuccess =
      m.status.any fun t => Text.lower t = PaymentStatus.success.label := rfl
  have hcode : (a.logRow s m).result = some PaymentStatus.success.choice.code ↔
      ∃ t, m.status = some t ∧ Text.lower t = "completed" := by
    rw [hresult, Option.some_inj, PaymentStatus.codeOf_eq_success_iff]
  constructor
  · exact statusText_isOk.1 ⟨_, hstatus⟩
  · rw [hresult, hstored, codeOf_statusOf hstatus]
  · rw [hcode, hsuccess, Option.any_eq_true]
    simp only [decide_eq_true_eq]
    rfl
  · rw [hcode]
    rcases statusText_eq_ok.1 hstatus with ⟨hnull, hnone⟩ | ⟨t, ht, hsome⟩
    · simp [hnull, hnone]
    · simp [ht, hsome]
  · intro t ht hne
    rw [hstored]
    have hkept : statusOf m.charge = .text t := statusOf_of_text ht hne
    exact ⟨congrArg Value.display hkept, hkept⟩
  · intro hempty
    have hunknown : statusOf m.charge = .text "unknown" := statusOf_of_empty hempty
    refine ⟨?_, hunknown, ?_⟩
    · rw [hstored, hunknown]
      rfl
    · rw [hresult, ← codeOf_statusOf hstatus, hunknown]
      exact congrArg some PaymentStatus.codeOf_unknown

/-- A charge is described by an object, which its status and its amount come from. -/
theorem fields_of_chargeOf {reply : Reply} (h : chargeOf reply = .ok charge) :
    ∃ fields, answerOf reply = .ok (.object fields) ∧ charge.status = field fields "status" ∧
      readAmount (field fields "amount") = .ok charge.amount := by
  obtain ⟨answer, hanswer, hpayload⟩ := bind_eq_ok.1 h
  obtain ⟨fields, _, _, _, rfl, hamount, _, _, rfl⟩ := Charge.ofPayload_eq_ok.1 hpayload
  exact ⟨fields, hanswer, rfl, hamount⟩

theorem status_of_chargeOf {reply : Reply} (hcharge : chargeOf reply = .ok charge)
    (hanswer : answerOf reply = .ok (.object fields)) : charge.status = field fields "status" := by
  obtain ⟨fields', hanswer', hstatus, -⟩ := fields_of_chargeOf hcharge
  obtain rfl := Value.object.inj (Except.ok.inj (hanswer.symm.trans hanswer'))
  exact hstatus

/-- A transaction for a charge is only there at the last stage. -/
theorem exists_charged_of_mem_since {r : TransactionRow}
    (hr : r ∈ (s.after (a.written g)).transactions.since s.transactions)
    (hkind : r.transactionType = TransactionKind.charge.label) : ∃ m, g = .charged m := by
  obtain ⟨h, hh, hid⟩ := exists_history hr
  exact gainsTransaction_charge_iff.1 ⟨r, hr, hkind, h, hh, hid⟩

/-- A transaction for a charge and a log are those of the last stage. -/
theorem charged_of_gained {l : LogRow} {r : TransactionRow}
    (hl : l ∈ (s.after (a.written g)).logs.since s.logs)
    (hr : r ∈ (s.after (a.written g)).transactions.since s.transactions)
    (hkind : r.transactionType = TransactionKind.charge.label) :
    ∃ m, g = .charged m ∧ l = a.logRow s m ∧ r = a.chargeRow s m := by
  obtain ⟨m, rfl⟩ := exists_charged_of_mem_since hr hkind
  obtain ⟨htransactions, -, hlogs⟩ := since_whole (a := a) (s := s) (m := m)
  rw [hlogs] at hl
  rw [htransactions] at hr
  refine ⟨m, rfl, List.mem_singleton.1 hl, ?_⟩
  rcases List.mem_cons.1 hr with rfl | hr
  · exact absurd (show TransactionKind.tokenization.label = TransactionKind.charge.label from hkind) (by decide)
  · exact List.mem_singleton.1 hr

/-- A charge whose status is neither null nor a text ends the payment, and nothing is written of it. -/
theorem Stage.of_unreadable_status {last : List Deed} {result : Except Failure PaymentResult} {t : Store}
    (hheard : g.Heard a) (hhalts : a.Halts g last result) (ht : t.Undergoes last t)
    (hx : x ∈ g.exchanges a s ++ t.exchanges last) (hposts : a.service.Posts "charges" x)
    (hanswer : answerOf x.reply = .ok (.object fields))
    (hkind : ¬(field fields "status" = .null ∨ ∃ t, field fields "status" = .text t)) :
    ∃ l, g = .tokenized l := by
  rcases List.mem_append.1 hx with hx | hx
  · -- With the charge on the way its log is written, and for this the status was read.
    obtain ⟨m, hm, -, hreply⟩ := Stage.charge_exchange hx hposts
    obtain ⟨-, hcharge, hstatus⟩ := hheard.logged hm
    rw [← hreply] at hcharge
    rw [status_of_chargeOf hcharge hanswer] at hstatus
    exact absurd (statusText_isOk.1 ⟨_, hstatus⟩) hkind
  · obtain ⟨l, hl, -⟩ := hhalts.charge_exchange ht hx hposts
    exact ⟨l, hl⟩

/-- What is told of the outcome by the stage at which a payment ends. -/
theorem Stage.tellsOutcome {last : List Deed} {outcome : Except Failure PaymentResult} (hheard : g.Heard a)
    (hhalts : a.Halts g last outcome) (ht : (s.after (a.written g)).Undergoes last (s.after (a.written g))) :
    a.service.TellsOutcome s (s.after (a.written g))
      (g.exchanges a s ++ (s.after (a.written g)).exchanges last) outcome := by
  refine ⟨fun l hl r hr hkind => ?_, fun x hx hposts fields hanswer hkind => ?_⟩
  · obtain ⟨m, rfl, rfl, rfl⟩ := charged_of_gained hl hr hkind
    obtain ⟨-, hcharge, hstatus⟩ := hheard.logged rfl
    obtain ⟨fields, hanswer, hstatusOf, -⟩ := fields_of_chargeOf hcharge
    -- At this stage a payment does not halt but with a result.
    cases hhalts with
    | paid =>
      rw [Store.exchanges, List.append_nil]
      have hx := (Stage.mem_exchanges (g := .charged m) (a := a) (s := s)).2 (.inr (.inr ⟨m, rfl, rfl⟩))
      refine ⟨fields, _, ⟨_, hx, rfl⟩, fun x hx hposts => ?_, rfl, ?_⟩
      · obtain ⟨m', hm, -, hreply⟩ := Stage.charge_exchange hx hposts
        obtain rfl := Option.some.inj hm
        rw [hreply, hanswer]
      · rw [← hstatusOf]
        exact isOneVerdict_rows hstatus
  · obtain ⟨l, rfl⟩ := Stage.of_unreadable_status hheard hhalts ht hx hposts hanswer hkind
    refine ⟨?_, (logs_of_not_logged rfl).1, lacksTransaction_of_not_gains ?_⟩
    · cases outcome with
      | error e => exact ⟨e, rfl⟩
      | ok result =>
        obtain ⟨m, hm⟩ := hhalts.ok_iff.1 ⟨result, rfl⟩
        cases hm
    · rw [gainsTransaction_charge_iff]
      rintro ⟨m, hm⟩
      cases hm

end Attempt

variable (s : PaymentService) (now : DateTime) (request : PaymentRequest) (d : Desk)

/-- **One verdict on the outcome**: when a payment leaves a log and a transaction for its charge, it has a
result, and the three are one verdict on the status in the object with which the provider answered the charge.
When the status of an accepted charge is neither null nor a text, the payment fails, and neither is written. -/
theorem process_outcome (hd : d.methodVanishes = false) :
    s.TellsOutcome d.store (d.run (s.process now request)).2.store (d.exchanges (s.process now request))
      (d.run (s.process now request)).1 := by
  rcases s.process_halts now request d hd with
    ⟨e, -, hcalls, -, hfinal⟩ | ⟨a, g, last, rfl, rfl, -, hheard, hhalts, hlast, hfinal, hcalls⟩
  · rw [hcalls, hfinal]
    refine ⟨fun l hl => ?_, fun x hx => ?_⟩
    · rw [Table.since_self] at hl
      cases hl
    · cases hx
  · rw [hcalls, hfinal]
    exact Attempt.Stage.tellsOutcome hheard hhalts hlast

/-- A charge with its status in capitals. -/
def trialCapitalCharge : Text := "\x7b\"id\": \"ch_1\", \"status\": \"COMPLETED\", \"amount\": 100\x7d"

/-- A status in capitals is a success in all three places, and a number is nowhere written. -/
theorem trial_outcomes :
    (∃ l r fields result, l ∈ (trialOutcome trialCapitalCharge).2.store.logs.rows ∧
      r ∈ (trialOutcome trialCapitalCharge).2.store.transactions.rows ∧
      (trialOutcome trialCapitalCharge).1 = .ok result ∧
      IsOneVerdict (field fields "status") l r result.status ∧ r.isSuccess = true) ∧
    (trialDesk trialCapitalCharge).methodVanishes = false ∧
    (trialDesk trialNumberedCharge).methodVanishes = false ∧
    ∃ e, (trialOutcome trialNumberedCharge).1 = .error e ∧
      (trialOutcome trialNumberedCharge).2.store.logs = (trialDesk trialNumberedCharge).store.logs := by
  have hgains : (∃ l ∈ (trialOutcome trialCapitalCharge).2.store.logs.since
        (trialDesk trialCapitalCharge).store.logs, l.result = some 1) ∧
      ∃ r ∈ (trialOutcome trialCapitalCharge).2.store.transactions.since
        (trialDesk trialCapitalCharge).store.transactions,
        r.transactionType = TransactionKind.charge.label := by
    decide +kernel
  have hcall : ∃ x ∈ trialExchanges trialNumberedCharge, trialService.Posts "charges" x ∧
      x.reply = .answered 200 trialNumberedCharge := by
    decide +kernel
  have hread : answerOf (.answered 200 trialNumberedCharge) =
      .ok (.object [("id", "ch_1"), ("status", .int 7), ("amount", .int 100)]) := by
    have hwritable : (Value.object [("id", "ch_1"), ("status", .int 7), ("amount", .int 100)]).IsWritable :=
      .cons (.text _) (.cons (.int 7 (by decide)) (.cons (.int 100 (by decide)) .nil))
    exact answerOf_of_read (.inl rfl) (read_of_toText hwritable (by decide +kernel) rfl)
  rw [trialOutcome] at hgains ⊢
  rw [trialOutcome, trialExchanges] at *
  obtain ⟨⟨l, hl, hsuccess⟩, r, hr, hkind⟩ := hgains
  obtain ⟨x, hx, hposts, hreply⟩ := hcall
  rw [← hreply] at hread
  obtain ⟨fields, result, -, -, hresult, hverdict⟩ := (process_outcome trialService trialTime Session.trialRequest
    (trialDesk trialCapitalCharge) rfl).verdict l hl r hr hkind
  obtain ⟨⟨e, he⟩, hlogs, -⟩ := (process_outcome trialService trialTime Session.trialRequest
    (trialDesk trialNumberedCharge) rfl).unread x hx hposts _ hread (by rintro (h | ⟨t, h⟩) <;> cases h)
  exact ⟨⟨l, r, fields, result, List.mem_of_mem_drop hl, List.mem_of_mem_drop hr, hresult, hverdict,
    hverdict.success.2 hsuccess⟩, rfl, rfl, e, he, hlogs⟩

end PaymentService

end CardPayments
