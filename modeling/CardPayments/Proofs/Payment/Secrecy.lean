import CardPayments.Proofs.Payment.Calls
import CardPayments.Proofs.Payment.Form
import CardPayments.Proofs.Program.Alike

/-!
# What a payment gives away about a card

Of the number of a card only its mask and its last four code points are used, and of the check value only
how long it is, up to four; the card itself is sent to the provider in the one call that exchanges it,
and nowhere else.  So two payments that differ in cards which look the same do the same, action by action
(`PaymentService.process_alike`), and `PaymentService.process_hides_card` says that they can only be told
apart by the two fields of that call.
-/

namespace CardPayments

open Json

/-! ### Requests that look the same -/

namespace PaymentRequest

/-- The request with another card of the same holder and expiry. -/
def withCard (r : PaymentRequest) (number check : Text) : PaymentRequest :=
  { r with cardNumber := number, check := check }

/-- Two requests agree in all but the card. -/
def AgreesButCard (r r' : PaymentRequest) : Prop := r' = r.withCard r'.cardNumber r'.check

instance (r r' : PaymentRequest) : Decidable (r.AgreesButCard r') :=
  inferInstanceAs (Decidable (r' = r.withCard r'.cardNumber r'.check))

/-- Two requests agree in all but the card, and the cards look the same: they have the same mask and the
same last four code points, and check values of the same length, up to four. -/
structure LooksLike (r r' : PaymentRequest) : Prop where
  others : r.AgreesButCard r'
  mask : Card.maskNumber r.cardNumber = Card.maskNumber r'.cardNumber
  lastFour : Card.lastFour r.cardNumber = Card.lastFour r'.cardNumber
  check : min r.check.length 4 = min r'.check.length 4

/-- The cards of accepted requests look the same when their numbers have the same length and the same
last four digits, and their check values have the same length. -/
theorem looksLike_of_accepted {v v' : Value} {r r' : PaymentRequest} (h : ofBody v = .ok r)
    (h' : ofBody v' = .ok r') (hothers : r.AgreesButCard r')
    (hlength : r.cardNumber.length = r'.cardNumber.length)
    (hlastFour : Card.lastFour r.cardNumber = Card.lastFour r'.cardNumber)
    (hcheck : r.check.length = r'.check.length) : r.LooksLike r' := by
  refine ⟨hothers, ?_, hlastFour, by rw [hcheck]⟩
  unfold Card.maskNumber
  dsimp only
  rw [compact_cardNumber h, compact_cardNumber h', hlength, hlastFour]

end PaymentRequest

/-! ### Calls without the card -/

/-- The fields of an object with those concealed that tell the card. -/
def concealCard (fields : List (Text × Value)) : List (Text × Value) :=
  fields.map fun (name, v) => (name, if name = "card_number" ∨ name = "cvv2" then .null else v)

/-- A call with the card concealed, if it is one that exchanges a card. -/
def PaymentService.conceal (s : PaymentService) (c : Provider.Call) : Provider.Call :=
  match c.payload with
  | .object fields =>
    if c.url = s.urlOf "cards" then { c with payload := .object (concealCard fields) } else c
  | _ => c

namespace PaymentService

/-! ### Payments that look the same -/

namespace Attempt

variable (a : Attempt) (number check : Text)

/-- The attempt with another card of the same holder and expiry. -/
def withCard : Attempt := { a with request := a.request.withCard number check }

theorem conceal_cardCall :
    a.service.conceal (a.withCard number check).cardCall = a.service.conceal a.cardCall := by
  have hurl (c : Provider.Call) (fields : List (Text × Value)) (hc : c.payload = .object fields)
      (hcards : c.url = a.service.urlOf "cards") :
      a.service.conceal c = { c with payload := .object (concealCard fields) } := by
    unfold conceal
    rw [hc]
    exact if_pos hcards
  rw [hurl _ _ rfl rfl, hurl _ _ rfl rfl]
  rfl

variable {number check}
  (hmask : Card.maskNumber a.request.cardNumber = Card.maskNumber number)
  (hlastFour : Card.lastFour a.request.cardNumber = Card.lastFour number)
  (hcheck : min a.request.check.length 4 = min check.length 4)

include hmask hcheck in
/-- The transactions only hold the masked card. -/
theorem transactionDraft_withCard (payer : Payer) :
    (a.withCard number check).transactionDraft payer = a.transactionDraft payer := by
  have hcheck : Card.maskCheck check = Card.maskCheck a.request.check := by
    rw [Card.maskCheck, Card.maskCheck, hcheck]
  show { (a.transactionDraft payer) with
      cardNumber := Card.maskNumber number, cardCheck := Card.maskCheck check } = _
  rw [hcheck, ← hmask]
  rfl

include hmask hcheck in
theorem createToken_alike (payer : Payer) :
    (a.createToken payer).Alike a.service.conceal ((a.withCard number check).createToken payer) := by
  have hdraft (token : Provider.Card) :
      (a.withCard number check).tokenDraft payer token = a.tokenDraft payer token := by
    unfold tokenDraft
    rw [a.transactionDraft_withCard hmask hcheck]
  have hpost : (a.service.account.post "cards" a.card.toPayload).Alike a.service.conceal
      (a.service.account.post "cards" (a.withCard number check).card.toPayload) :=
    .bind (.call (a.conceal_cardCall number check).symm fun _ => .refl _) fun _ => .refl _
  unfold createToken
  refine .bind (.refl _) fun _ => .noting _ (.bind ?_ fun token => ?_)
  · -- The holder and the session, which are noted, are those of both cards.
    unfold Provider.Account.createCardToken
    refine .bind (.refl _) fun _ => .bind (.noting _ (.bind hpost fun _ => .refl _)) fun _ => .refl _
  · rw [hdraft]
    exact .refl _

include hmask hlastFour hcheck in
/-- The charge is made and written in the same way. -/
theorem createCharge_withCard (payer : Payer) (token : Provider.Card) (method : Nat) :
    (a.withCard number check).createCharge payer token method = a.createCharge payer token method := by
  have hlog (charge : Provider.Charge) (outcome : Int) :
      (a.withCard number check).logDraft payer method charge outcome =
        a.logDraft payer method charge outcome := by
    show { a.logDraft payer method charge outcome with lastFour := Card.lastFour number } = _
    rw [← hlastFour]
    rfl
  have hcharge (charge : Provider.Charge) (status : Option Text) :
      (a.withCard number check).chargeDraft payer charge status =
        a.chargeDraft payer charge status := by
    unfold chargeDraft
    rw [a.transactionDraft_withCard hmask hcheck]
  have hrecord (order : Provider.ChargeOrder) (charge : Provider.Charge) :
      (a.withCard number check).recordCharge payer method order charge =
        a.recordCharge payer method order charge := by
    unfold recordCharge
    simp only [hlog, hcharge]
    rfl
  unfold createCharge
  simp only [hrecord]
  rfl

include hmask hlastFour hcheck in
/-- Two attempts with cards that look the same do the same, step by step. -/
theorem steps_alike : a.steps.Alike a.service.conceal (a.withCard number check).steps := by
  unfold Attempt.steps
  refine .bind (.refl _) fun method => .bind (.refl _) fun payer => .bind (.refl _) fun _ => ?_
  refine .bind (a.createToken_alike hmask hcheck payer) fun token => .bind ?_ fun charge => .refl _
  rw [a.createCharge_withCard hmask hlastFour hcheck]
  exact .refl _

end Attempt

variable (s : PaymentService) (now : DateTime)

/-- The attempt that a request with another card asks for. -/
theorem attempt_withCard (r : PaymentRequest) (number check : Text) :
    s.attempt now (r.withCard number check) =
      (s.attempt now r).map fun a => a.withCard number check := by
  unfold attempt
  cases hyear : (Numeral.readInteger r.expirationYear).mapError Failure.numeral with
  | error e =>
    show ((Numeral.readInteger r.expirationYear).mapError Failure.numeral >>= _) = _
    rw [hyear]
    rfl
  | ok year =>
    show ((Numeral.readInteger r.expirationYear).mapError Failure.numeral >>= fun year =>
      (Numeral.readInteger r.expirationMonth).mapError Failure.numeral >>= _) = _
    rw [hyear]
    cases (Numeral.readInteger r.expirationMonth).mapError Failure.numeral <;> rfl

/-- Two payments with cards that look the same do the same, action by action. -/
theorem process_alike {r r' : PaymentRequest} (h : r.LooksLike r') :
    (s.process now r).Alike s.conceal (s.process now r') := by
  obtain ⟨hothers, hmask, hlastFour, hcheck⟩ := h
  have horder : r'.orderId = r.orderId := by rw [hothers]; rfl
  have hattempt := s.attempt_withCard now r r'.cardNumber r'.check
  rw [← hothers] at hattempt
  unfold process notingFailure
  rw [horder, hattempt]
  apply Program.Alike.bind (.refl _)
  intro _
  apply Program.Alike.noting
  cases ha : s.attempt now r with
  | error e => exact .refl _
  | ok a =>
    have hrequest : a.request = r := by
      obtain ⟨year, month, rfl⟩ := eq_of_attempt ha
      rfl
    have hservice : a.service = s := by
      obtain ⟨year, month, rfl⟩ := eq_of_attempt ha
      rfl
    rw [← hrequest] at hmask hlastFour hcheck
    rw [← hservice]
    exact a.steps_alike hmask hlastFour hcheck

/-- What has come of a payment and what it leaves behind can only be told from what has come of another
one, and what that leaves behind, by the card in the calls that exchange it. -/
structure SameButCard (run run' : Except Failure PaymentResult × Desk) : Prop where
  result : run'.1 = run.1
  store : run'.2.store = run.2.store
  journal : run'.2.journal = run.2.journal
  calls : run'.2.calls.map s.conceal = run.2.calls.map s.conceal

/-- **The secrecy of the card**: payments of two requests that agree in all but the card have the same
result, or fail in the same way, leave the same rows behind, note the same, and make the same calls, but
for the card in the call that exchanges it, when the two cards have the same mask, the same last four code
points, and check values of the same length, up to four.  For accepted requests it is enough that the
numbers have the same length and the same last four digits, and the check values the same length. -/
theorem process_hides_card (d : Desk) :
    (∀ r r' : PaymentRequest, r.LooksLike r' →
      s.SameButCard (d.run (s.process now r)) (d.run (s.process now r'))) ∧
    ∀ (v v' : Value) (r r' : PaymentRequest), PaymentRequest.ofBody v = .ok r →
      PaymentRequest.ofBody v' = .ok r' → r.AgreesButCard r' →
      r.cardNumber.length = r'.cardNumber.length →
      Card.lastFour r.cardNumber = Card.lastFour r'.cardNumber → r.check.length = r'.check.length →
      s.SameButCard (d.run (s.process now r)) (d.run (s.process now r')) := by
  have hsame (r r' : PaymentRequest) (h : r.LooksLike r') :
      s.SameButCard (d.run (s.process now r)) (d.run (s.process now r')) := by
    obtain ⟨hresult, hdesk, hcalls⟩ := d.run_alike (s.process_alike now h) d.calls rfl
    exact ⟨hresult, by rw [hdesk], by rw [hdesk], hcalls⟩
  refine ⟨hsame, fun v v' r r' hv hv' hothers hlength hlastFour hcheck => hsame r r' ?_⟩
  exact PaymentRequest.looksLike_of_accepted hv hv' hothers hlength hlastFour hcheck

/-- The body that asks for the trial payment with a card. -/
def trialBody (number check : Text) : Value :=
  .object [("name", Session.trialRequest.name), ("email", Session.trialRequest.email),
    ("card_number", number), ("expiration_year", Session.trialRequest.expirationYear),
    ("expiration_month", Session.trialRequest.expirationMonth), ("cvv2", check),
    ("order_id", Session.trialRequest.orderId)]

/-- What comes of the trial payment with a card. -/
def trialOutcomeWith (number check : Text) : Except Failure PaymentResult × Desk :=
  (trialDesk trialCharge).run
    (trialService.process trialTime (Session.trialRequest.withCard number check))

/-- The trial payment does not tell its card from another one that looks the same, be the request given or
read from a body; the calls as they are do tell them apart. -/
theorem trial_hides_card :
    let card := Session.trialRequest.withCard "4111111111111111" "110"
    let otherCard := Session.trialRequest.withCard "5222222222221111" "999"
    PaymentRequest.ofBody (trialBody "4111111111111111" "110") = .ok card ∧
      PaymentRequest.ofBody (trialBody "5222222222221111" "999") = .ok otherCard ∧
      trialService.SameButCard (trialOutcomeWith "4111111111111111" "110")
        (trialOutcomeWith "5222222222221111" "999") ∧
      (trialOutcomeWith "4111111111111111" "110").2.calls ≠
        (trialOutcomeWith "5222222222221111" "999").2.calls ∧
      trialService.SameButCard (trialOutcomeWith "4111 1111" "12345")
        (trialOutcomeWith "52221111" "6789012") := by
  intro card otherCard
  have hbody : PaymentRequest.ofBody (trialBody "4111111111111111" "110") = .ok card := rfl
  have hother : PaymentRequest.ofBody (trialBody "5222222222221111" "999") = .ok otherCard := rfl
  have hcalls : (trialOutcomeWith "4111111111111111" "110").2.calls.map (·.payload.toText) ≠
      (trialOutcomeWith "5222222222221111" "999").2.calls.map (·.payload.toText) := by
    decide +kernel
  -- No body gives the other two cards: one number holds a blank, and the check values are too long.
  have hlooks : (Session.trialRequest.withCard "4111 1111" "12345").LooksLike
      (Session.trialRequest.withCard "52221111" "6789012") :=
    ⟨by decide, by decide, by decide, by decide⟩
  obtain ⟨hgiven, hread⟩ := process_hides_card trialService trialTime (trialDesk trialCharge)
  refine ⟨hbody, hother, ?_, fun h => hcalls (congrArg _ h), hgiven _ _ hlooks⟩
  exact hread _ _ _ _ hbody hother (by decide) (by decide) (by decide) (by decide)

end PaymentService

end CardPayments
