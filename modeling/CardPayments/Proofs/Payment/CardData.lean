import CardPayments.Proofs.Payment.Expiry
import CardPayments.Proofs.Payment.Moments
import CardPayments.Proofs.Payment.Owners
import CardPayments.Proofs.Payment.Secrecy

/-!
# The card of an accepted request

The fields of a card may come as texts or as numbers, with blanks around them, and in digits of any script.
What was accepted of them is nevertheless of one form (`PaymentRequest.hasCardData_of_ofBody`), and it
fixes all that is ever stored of the card: the mask of the number is as long as the number, and the last four
code points of the log, which are taken from the number as it is, are those of the mask, which is made without
blanks (`PaymentService.accepted_card_masked`).
-/

namespace CardPayments

/-- The card of a request has a number of 12 to 19 decimal digits and a check value of 3 or 4, and it expires
in a month of the calendar. -/
structure PaymentRequest.HasCardData (r : PaymentRequest) (year month : Int) : Prop where
  number : 12 ≤ r.cardNumber.length ∧ r.cardNumber.length ≤ 19
  numberDigits : ∀ c ∈ r.cardNumber, c.isDecimalDigit = true
  check : r.check.length = 3 ∨ r.check.length = 4
  checkDigits : ∀ c ∈ r.check, c.isDecimalDigit = true
  year : Numeral.readInteger r.expirationYear = .ok year ∧ 0 ≤ year ∧ year ≤ 99
  month : Numeral.readInteger r.expirationMonth = .ok month ∧ 1 ≤ month ∧ month ≤ 12

/-- What a store has gained of the card of a request are masks and the expiry. -/
structure Store.GainsMasked (s : Store) (r : PaymentRequest) (year month : Int) (t : Store) : Prop where
  /-- A transaction has an asterisk for all but the last four digits of the number, and for every digit of
  the check value. -/
  transactions : ∀ x ∈ t.transactions.since s.transactions,
    x.cardNumber = Card.stars (r.cardNumber.length - 4) ++ Card.lastFour r.cardNumber ∧
      x.cardCheck = Card.stars r.check.length ∧ x.expireYear = year ∧ x.expireMonth = month
  /-- A log comes with a transaction, and has the last four code points of the masked number there. -/
  logs : ∀ l ∈ t.logs.since s.logs, (∃ x, x ∈ t.transactions.since s.transactions) ∧
    ∀ x ∈ t.transactions.since s.transactions, l.lastFour = some (Card.lastFour x.cardNumber)

/-! ### Accepted requests -/

namespace PaymentForm

variable {t : Text}

theorem of_isDigits {least most : Nat} (h : isDigits least most t = true) :
    (least ≤ t.length ∧ t.length ≤ most) ∧ ∀ c ∈ t, c.isDecimalDigit = true := by
  rw [isDigits, Bool.and_eq_true, Bool.and_eq_true, decide_eq_true_eq, decide_eq_true_eq] at h
  exact ⟨h.1, List.all_eq_true.1 h.2⟩

/-- What is admitted as a month is read as one of the calendar. -/
theorem exists_month_of_isMonth (h : isMonth t = true) :
    ∃ month : Int, Numeral.readInteger t = .ok month ∧ 1 ≤ month ∧ month ≤ 12 := by
  simp only [isMonth, Bool.and_eq_true, decide_eq_true_eq] at h
  obtain ⟨⟨⟨hlength, hdigits⟩, hlow⟩, hhigh⟩ := h
  refine ⟨_, Numeral.readInteger_of_two_asciiDigits hlength hdigits, ?_, ?_⟩
  · exact_mod_cast hlow
  · exact_mod_cast hhigh

end PaymentForm

namespace PaymentRequest

variable {v : Json.Value} {r : PaymentRequest}

/-- An accepted request has the data of a card, in whatever kinds of values they came. -/
theorem hasCardData_of_ofBody (h : ofBody v = .ok r) : ∃ year month, r.HasCardData year month := by
  obtain ⟨_, -, -, -, -, -, -, hmonth, hcheck, -⟩ := readFrom_of_ofBody h
  obtain ⟨hnumber, hnumberDigits⟩ := PaymentForm.of_isDigits (isDigits_cardNumber h)
  obtain ⟨hlength, hcheckDigits⟩ :=
    PaymentForm.of_isDigits (FormField.admits_of_faults (FormField.faults_of_readFrom hcheck rfl).2)
  obtain ⟨year, hyear, hyear0, hyear100⟩ := (isUsable_of_ofBody h).year
  obtain ⟨month, hmonth, hmonth1, hmonth12⟩ :=
    PaymentForm.exists_month_of_isMonth (FormField.admits_of_faults (FormField.faults_of_readFrom hmonth rfl).2)
  exact ⟨year, month, hnumber, hnumberDigits, by omega, hcheckDigits, ⟨hyear, hyear0, by omega⟩,
    hmonth, hmonth1, hmonth12⟩

end PaymentRequest

namespace PaymentService

namespace Attempt

open Store

variable {a : Attempt} {s : Store} {g : Stage} {year month : Int}

/-- Nothing but the mask of an accepted card and its expiry is in the transactions and the logs of a stage. -/
theorem gainsMasked_after (hcard : a.request.HasCardData year month)
    (hcompact : Card.compact a.request.cardNumber = a.request.cardNumber)
    (hexpiry : a.expireYear = year ∧ a.expireMonth = month) :
    s.GainsMasked a.request year month (s.after (a.written g)) := by
  have hmask : Card.maskNumber a.request.cardNumber =
      Card.stars (a.request.cardNumber.length - 4) ++ Card.lastFour a.request.cardNumber := by
    rw [Card.maskNumber, hcompact]
  have hcheck : Card.maskCheck a.request.check = Card.stars a.request.check.length := by
    have hlength := hcard.check
    rw [Card.maskCheck, Nat.min_eq_left (by omega)]
  have htransactions : ∀ x ∈ (s.after (a.written g)).transactions.since s.transactions,
      x.cardNumber = Card.stars (a.request.cardNumber.length - 4) ++ Card.lastFour a.request.cardNumber ∧
        x.cardCheck = Card.stars a.request.check.length ∧ x.expireYear = year ∧ x.expireMonth = month := by
    intro x hx
    rw [← hmask, ← hcheck, ← hexpiry.1, ← hexpiry.2]
    -- Both transactions have what they say of the card from the draft that they share.
    obtain ⟨l, -, rfl | ⟨m, -, rfl⟩⟩ := transaction_cases hx
    · exact ⟨rfl, rfl, rfl, rfl⟩
    · exact ⟨rfl, rfl, rfl, rfl⟩
  refine ⟨htransactions, fun l hl => ?_⟩
  cases hm : g.logged? with
  | none =>
    rw [(logs_of_not_logged hm).1, Table.since_self] at hl
    cases hl
  | some m =>
    rw [(logs_of_logged hm).1, Table.since_insert_self] at hl
    obtain rfl := List.mem_singleton.1 hl
    have hgains : s.GainsTransaction .tokenization (s.after (a.written g)) := by
      rw [gainsTransaction_tokenization_iff, tokenized?_of_logged? hm]
      rfl
    obtain ⟨x, hx, -⟩ := hgains
    refine ⟨⟨x, hx⟩, fun x hx => ?_⟩
    rw [(htransactions x hx).1, Card.lastFour_masked]
    rfl

end Attempt

variable (s : PaymentService) (now : DateTime) (d : Desk)

/-- **The card of an accepted request**: it has a number of 12 to 19 decimal digits, a check value of 3 or 4,
and expires in a month of the calendar; and at every moment of a payment of the request, the end of it
included, the transactions and the log that were written have its masks, its expiry and its last four digits. -/
theorem accepted_card_masked (hd : d.methodVanishes = false) {body : Json.Value} {request : PaymentRequest}
    (hbody : PaymentRequest.ofBody body = .ok request) :
    ∃ year month, request.HasCardData year month ∧
      d.store.GainsMasked request year month (d.run (s.process now request)).2.store ∧
      ∀ ds u, Desk.Passes (s.process now request) d ds u → d.store.GainsMasked request year month u := by
  obtain ⟨year, month, hcard⟩ := PaymentRequest.hasCardData_of_ofBody hbody
  have hall : ∀ ds u, Desk.Passes (s.process now request) d ds u →
      d.store.GainsMasked request year month u := by
    intro ds u hu
    rcases passes_stage hd hu with rfl | ⟨a, g, ha, -, rfl⟩
    · constructor <;>
      · rw [Table.since_self]
        exact List.forall_mem_nil _
    · obtain ⟨-, fault, hfault⟩ | ⟨-, a', ha', hyear, hmonth⟩ := s.attempt_cases now request
      · rw [ha] at hfault
        cases hfault
      obtain rfl : a = a' := Except.ok.inj (ha.symm.trans ha')
      obtain ⟨_, _, rfl⟩ := eq_of_attempt ha
      exact Attempt.gainsMasked_after hcard (PaymentRequest.compact_cardNumber hbody)
        ⟨Except.ok.inj (hyear.symm.trans hcard.year.1), Except.ok.inj (hmonth.symm.trans hcard.month.1)⟩
  exact ⟨year, month, hcard, hall _ _ (Desk.passes_end _ d), hall⟩

/-- A body in which the card is given in numbers, but for its own number, which ends in digits of another
script with blanks behind them. -/
def trialNumberBody : Json.Value :=
  .object [("name", Session.trialRequest.name), ("email", Session.trialRequest.email),
    ("card_number", "411111111111\u0661\u0662\u0663\u0664 \n"), ("expiration_year", .int 30),
    ("expiration_month", .int 12), ("cvv2", .int 110), ("order_id", Session.trialRequest.orderId)]

/-- The card in such a body is accepted, and its mask ends in digits of the other script. -/
theorem trial_card_masked :
    ∃ request, PaymentRequest.ofBody trialNumberBody = .ok request ∧
      (trialDesk trialCharge).methodVanishes = false ∧
      ∃ x ∈ ((trialDesk trialCharge).run (trialService.process trialTime request)).2.store.transactions.rows,
        x.cardNumber = "************\u0661\u0662\u0663\u0664" ∧ x.cardCheck = "***" ∧
          x.expireYear = 30 ∧ x.expireMonth = 12 := by
  let request : PaymentRequest :=
    { Session.trialRequest.withCard "411111111111\u0661\u0662\u0663\u0664" "110" with
      expirationYear := "30", expirationMonth := "12" }
  have hbody : PaymentRequest.ofBody trialNumberBody = .ok request := rfl
  have hgains : ∃ x ∈ ((trialDesk trialCharge).run
      (trialService.process trialTime request)).2.store.transactions.since
        (trialDesk trialCharge).store.transactions, x.id = 1 := by
    decide +kernel
  obtain ⟨x, hx, -⟩ := hgains
  obtain ⟨year, month, hcard, hmasked, -⟩ :=
    accepted_card_masked trialService trialTime (trialDesk trialCharge) rfl hbody
  obtain ⟨hnumber, hcheck, hyear, hmonth⟩ := hmasked.transactions x hx
  refine ⟨request, hbody, rfl, x, List.mem_of_mem_drop hx, ?_, ?_, ?_, ?_⟩
  · rw [hnumber]
    decide
  · rw [hcheck]
    decide
  · rw [hyear]
    exact Except.ok.inj (hcard.year.1.symm.trans rfl)
  · rw [hmonth]
    exact Except.ok.inj (hcard.month.1.symm.trans rfl)

end PaymentService

end CardPayments
