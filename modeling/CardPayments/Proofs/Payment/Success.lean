import CardPayments.Proofs.Json.RoundTrip
import CardPayments.Proofs.Payment.Form
import CardPayments.Proofs.Payment.Resolution
import CardPayments.Proofs.Payment.Secrecy
import CardPayments.Proofs.Payment.WellFormed
import CardPayments.Proofs.Payment.Quiet

/-!
# Accepted requests with well-formed replies are paid

A payment can go wrong in a dozen places.  When the request was accepted, the desk is ready for it
(`PaymentService.IsReady`), and every call is answered well (`PaymentService.IsAnsweredWell`), all of them are
excluded: at every stage the customer is one that can be stored (`Attempt.Payer.IsSound`), so that every group
of rows is fit for the store in which it is offered, and the payment only halts at the last stage
(`Attempt.Halts.exists_charged`).  `PaymentService.process_succeeds` says so for whole payments.
-/

namespace CardPayments

open Json

/-- The store holds what a database can hold, as far as a payment uses it: keys of 64 bits, of which there
still are some, and texts without halves of surrogate pairs. -/
structure Store.IsStorable (s : Store) : Prop where
  providers : ∀ r ∈ s.providers.rows, Offer.fits r.id = true ∧ r.name.IsStorable
  customers : ∀ r ∈ s.customers.rows, Offer.fits r.id = true ∧ r.apiCustomerId.IsStorable
  nextMethod : Offer.fits s.methods.next = true
  nextCustomer : Offer.fits s.customers.next = true

namespace PaymentService

/-- A desk is ready for a payment of a service at a time: nobody interferes, the provider of the service has
its row, and the next token is fresh; and neither the time nor the settings of the service are excessive. -/
structure IsReady (s : PaymentService) (now : DateTime) (d : Desk) : Prop where
  alone : d.methodVanishes = false
  storable : d.store.IsStorable
  provider : d.store.providers.find? s.provider.id = some s.provider
  token : d.chooseToken.1.IsStorable
  fresh : ∀ r ∈ d.store.methods.rows, r.token ≠ d.chooseToken.1
  now : now.IsOrdinary
  redirectUrl : s.redirectUrl.isStandard = true
  deviceSession : s.defaultDeviceSession.isStandard = true

/-- A call is answered well: its reply brings a well-formed object, which is one of a charge if a charge is
made. -/
def IsAnsweredWell (s : PaymentService) (x : Exchange) : Prop :=
  ∃ fields, x.reply.Brings fields ∧ Provider.IsWellFormed fields ∧
    (s.Posts "charges" x → Provider.IsWellFormedCharge fields)

/-- The expiry of a usable request is in numbers, so that there is an attempt. -/
theorem exists_attempt (s : PaymentService) (now : DateTime) {request : PaymentRequest}
    (h : request.IsUsable) :
    ∃ year month, s.attempt now request = .ok ⟨s, now, request, s.deviceSessionFor request, year, month⟩ ∧
      Offer.fits year = true ∧ Offer.fits month = true := by
  have hfits {n : Int} (hlow : 0 ≤ n) (hhigh : n < 100) : Offer.fits n = true := by
    unfold Offer.fits Offer.integerBound
    rw [Bool.and_eq_true]
    exact ⟨decide_eq_true (by omega), decide_eq_true (by omega)⟩
  obtain ⟨year, hyear, hyearLow, hyearHigh⟩ := h.year
  obtain ⟨month, hmonth, hmonthLow, hmonthHigh⟩ := h.month
  refine ⟨year, month, ?_, hfits hyearLow hyearHigh, hfits hmonthLow hmonthHigh⟩
  rw [attempt, hyear, hmonth]
  rfl

namespace Attempt

open Store Write Provider Provider.Account

variable {a : Attempt} {s t : Store} {g : Stage} {k : Known} {l : Tokenized} {m : Logged} {payer : Payer}

/-! ### The token -/

theorem chooseToken_note (d : Desk) (entry : Journal.Entry) :
    (d.note entry).chooseToken.1 = d.chooseToken.1 := by
  unfold Desk.chooseToken Desk.note
  cases d.tokens <;> rfl

theorem exists_deeds_steps (a : Attempt) (d : Desk) :
    ∃ answer rest, d.deeds a.steps = .write (a.methodWrite d.chooseToken.1) answer :: rest := by
  rw [← chooseToken_note d (Journal.info .payment "Creating PaymentMethod...")]
  exact ⟨_, _, rfl⟩

/-- The payment method is the first thing that a payment does, and it has the next token of the desk. -/
theorem exists_deeds_process {s : PaymentService} {now : DateTime} {request : PaymentRequest} {a : Attempt}
    (ha : s.attempt now request = .ok a) (d : Desk) :
    ∃ answer rest, d.deeds (s.process now request) = .write (a.methodWrite d.chooseToken.1) answer :: rest := by
  obtain ⟨answer, rest, hsteps⟩ := a.exists_deeds_steps (d.note (firstEntry request))
  have hdeeds : d.deeds (s.process now request) =
      (d.note (firstEntry request)).deeds (Program.ofExcept (s.attempt now request) >>= Attempt.steps) :=
    Desk.deeds_noting ..
  refine ⟨answer, rest, ?_⟩
  rw [← chooseToken_note d (firstEntry request), ← hsteps, hdeeds, ha]
  rfl

/-- Nothing was done as long as a payment has not begun. -/
theorem Steps.eq_nil_of_begun {ds : List Deed} (h : a.Steps g ds .begun) : ds = [] := by
  cases h with
  | refl => rfl
  | tail _ hstep => cases hstep

/-! ### What is known can be stored -/

variable (a s) in
/-- What an attempt brings with it into the store in which it begins is nothing that could be refused. -/
structure IsPlausible : Prop where
  store : s.IsStorable
  provider : s.providers.find? a.service.provider.id = some a.service.provider
  request : a.request.IsUsable
  now : a.now.IsOrdinary
  year : Offer.fits a.expireYear = true
  month : Offer.fits a.expireMonth = true
  redirectUrl : a.service.redirectUrl.isStandard = true
  deviceSession : a.deviceSession.isStandard = true

variable (payer) in
/-- A customer that can be stored and sent. -/
structure Payer.IsSound : Prop where
  id : Offer.fits payer.id = true
  name : payer.name.display.IsStorable
  payload : payer.customer.toPayload.isStandard = true

theorem isSound_payerOfRow {row : CustomerRow} (hid : Offer.fits row.id = true)
    (hname : row.apiCustomerId.IsStorable) : (payerOfRow row).IsSound :=
  ⟨hid, Value.isStorable_display_orEmpty.2 hname, Customer.isStandard_toPayload rfl rfl rfl⟩

/-- The customer that was found is one that is stored, and the one that was created is well described. -/
theorem Known.isSound (hs : s.IsStorable) (hk : k.Agrees a s) (hheard : k.Heard)
    (hcreated : ∀ reply, k.customerReply = some reply → ∃ fields, reply.Brings fields ∧ IsWellFormed fields) :
    k.payer.IsSound := by
  cases hfound : s.findCustomer? a.request.name a.request.email with
  | some row =>
    obtain ⟨hid, hname⟩ := hs.customers row (findCustomer?_eq_some hfound).1
    rw [(hk.found row hfound).2]
    exact isSound_payerOfRow hid hname
  | none =>
    obtain ⟨hnew, hnext⟩ := hk.notFound hfound
    obtain ⟨reply, hreply⟩ := Option.isSome_iff_exists.1 hnew
    obtain ⟨fields, hbrings, hfields⟩ := hcreated reply hreply
    obtain ⟨customer, hcustomer, hid, hpayload⟩ := exists_customerOf hfields hbrings
    obtain rfl : customer = k.payer.customer := Except.ok.inj (hcustomer.symm.trans (hheard reply hreply))
    refine ⟨?_, Value.isStorable_display_orEmpty.2 hid, hpayload⟩
    rw [hnext]
    exact hs.nextCustomer

theorem Known.Agrees.has_payer (hk : k.Agrees a s) (hg : g.known? = some k) :
    (s.after (a.written g)).customers.has k.payer.id = true := by
  rw [customers_written hg, customers_known]
  cases hfound : s.findCustomer? a.request.name a.request.email with
  | some row =>
    obtain ⟨hold, hpayer⟩ := hk.found row hfound
    rw [hold, hpayer]
    exact Table.has_iff.2 ⟨row, (findCustomer?_eq_some hfound).1, rfl⟩
  | none =>
    obtain ⟨hnew, hid⟩ := hk.notFound hfound
    rw [hnew, hid]
    exact Table.has_insert.2 (.inr rfl)

theorem IsPlausible.isStorable (h : a.IsPlausible s) (hpayer : payer.IsSound) : a.IsStorable payer :=
  ⟨hpayer.id, h.now.toUniversal_isOk, hpayer.name, h.request.orderId, h.request.name, h.year, h.month,
    Card.isStorable_maskNumber h.request.cardNumber⟩

/-! ### Every group is fit -/

theorem IsPlausible.isFit_methodWrite (h : a.IsPlausible s) {token : Text} (htoken : token.IsStorable)
    (hfresh : ∀ r ∈ s.methods.rows, r.token ≠ token) : (a.methodWrite token).IsFit s := by
  obtain ⟨hid, _⟩ := h.store.providers _ (List.mem_of_find?_eq_some h.provider)
  refine ⟨?_, hfresh, ?_⟩
  · simp only [AreSound, MethodDraft.fields, AuditDraft.fields, methodDraft, List.cons_append,
      List.nil_append, List.forall_mem_cons, keyOffer]
    simp [h.now.toUniversal_isOk, hid, htoken]
  · show (s.providers.find? a.service.provider.id).isSome = true
    rw [h.provider]
    rfl

theorem IsPlausible.isFit_customerWrite (h : a.IsPlausible s) {r : Recorded} {created : Provider.Customer}
    (hr : (Stage.recorded r).IsReached a s) (hid : created.id.display.IsStorable) :
    (a.customerWrite r.method created).IsFit (s.after (a.written (.recorded r))) := by
  have hmethod : r.method = s.methods.next := hr.agrees
  have hfits := h.store.nextMethod
  rw [hmethod]
  refine ⟨?_, ?_, Table.has_insert.2 (.inr rfl)⟩
  · simp only [AreSound, CustomerDraft.fields, AuditDraft.fields, customerDraft, List.cons_append,
      List.nil_append, List.forall_mem_cons, keyOffer]
    simp [h.now.toUniversal_isOk, h.request.name, h.request.email, hid, hfits, countryCode]
  · simp only [AreSound, AuditDraft.fields, creationStamp, List.forall_mem_cons]
    simp [h.now.toUniversal_isOk]

theorem areSound_tokenDraft (h : a.IsStorable payer) {card : Provider.Card}
    (hid : card.id.display.IsStorable) (hdate : ∀ d, card.creationDate = some d → d.IsOrdinary) :
    AreSound (a.tokenDraft payer card).fields := by
  have hcurrency : currencyCode.IsStorable := Text.isStorable_ofString _
  have hamount : chargeAmount.isFinite = true := rfl
  simp only [AreSound, TransactionDraft.fields, AuditDraft.fields, tokenDraft, transactionDraft,
    List.cons_append, List.nil_append, List.forall_mem_cons, keyOffer]
  simp [h.id, h.now, h.order, h.payerName, h.name, h.year, h.month, h.number, hid, hcurrency, hamount]
  exact fun d hd => (hdate d hd).toUniversal_isOk

theorem IsPlausible.isFit_tokenWrite (h : a.IsPlausible s) (hk : (Stage.owned l.toKnown).IsReached a s)
    (hpayer : l.payer.IsSound) (hid : l.card.id.display.IsStorable)
    (hdate : ∀ d, l.card.creationDate = some d → d.IsOrdinary) :
    (a.tokenWrite l).IsFit (s.after (a.written (.owned l.toKnown))) := by
  have hstorable := h.isStorable hpayer
  refine ⟨areSound_tokenDraft hstorable hid hdate, ⟨tokenNotes, cutNotes_tokenNotes, ?_⟩,
    Known.Agrees.has_payer hk.agrees rfl⟩
  simp only [AreSound, TransactionDraft.firstHistory, HistoryDraft.fields, tokenDraft, transactionDraft,
    AuditDraft.fields, List.cons_append, List.nil_append, List.forall_mem_cons, keyOffer]
  simp [hstorable.id, hstorable.now, tokenNotes]

theorem IsPlausible.isStandard_chargePayload (h : a.IsPlausible s) (hpayer : l.payer.IsSound)
    (hcard : l.card.id.isStandard = true) : (a.chargePayload l).isStandard = true := by
  have hamount : Binary64.nearest false 10000 (-2) = .finite false ⟨0x4059000000000000, by decide⟩ := by
    decide +kernel
  simp [chargePayload, Value.isStandard, Value.fieldsStandard, hamount, h.deviceSession, h.redirectUrl,
    hpayer.payload, Value.isStandard_orEmpty hcard]

/-! ### Every stage but the last goes on -/

section

variable (ha : a.IsPlausible s) (hg : g.IsReached a s) (hheard : g.Heard a)

include ha hg hheard

/-- The customer of a stage is sound when all calls on the way to it are answered well. -/
theorem Stage.isSound_payer (hxs : ∀ x ∈ g.exchanges a s, a.service.IsAnsweredWell x)
    (hk : g.known? = some k) : k.payer.IsSound := by
  refine Known.isSound ha.store (hg.agrees.known hk) (hheard.known hk) fun reply hreply => ?_
  obtain ⟨fields, hbrings, hfields, _⟩ := hxs _ (Stage.mem_exchanges.2 (.inl ⟨k, reply, hk, hreply, rfl⟩))
  exact ⟨fields, hbrings, hfields⟩

/-- A payment that has begun, and of which all calls are answered well, halts at the last stage. -/
theorem Halts.exists_charged {ds : List Deed} {r : Except Failure PaymentResult} (h : a.Halts g ds r)
    (ht : (s.after (a.written g)).Undergoes ds t) (hbegun : g ≠ .begun)
    (hxs : ∀ x ∈ g.exchanges a s, a.service.IsAnsweredWell x)
    (hlast : ∀ x ∈ (s.after (a.written g)).exchanges ds, a.service.IsAnsweredWell x) :
    ∃ m, g = .charged m := by
  have hsound {k : Known} (hk : g.known? = some k) : k.payer.IsSound :=
    Stage.isSound_payer ha hg hheard hxs hk
  have hsettled : g.IsSettled := h.isSettled hg ht fun k hk => (hsound hk).id
  -- The reply to the last call is the first of the exchanges, whatever is offered to the store after it.
  have hcall {c : Provider.Call} {reply : Reply} {rest : List Deed} {u : Store} :
      ⟨c, reply, u⟩ ∈ u.exchanges (.call c reply :: rest) := List.mem_cons_self
  cases h with
  | methodRefused token e => exact absurd rfl hbegun
  | lookupRefused e =>
    have hanswer := (undergoes_lookup.1 ht).1
    rw [askCustomer_of_isStorable ha.request.name ha.request.email] at hanswer
    cases hanswer
  | customerFailed reply hreply =>
    obtain ⟨fields, hbrings, hfields, _⟩ := hlast _ hcall
    obtain ⟨_, hcustomer, _⟩ := exists_customerOf hfields hbrings
    rw [hreply] at hcustomer
    cases hcustomer
  | @customerRefused k reply created e hreply =>
    obtain ⟨fields, hbrings, hfields, _⟩ := hlast _ hcall
    obtain ⟨customer, hcustomer, hid, _⟩ := exists_customerOf hfields hbrings
    obtain rfl : customer = created := Except.ok.inj (hcustomer.symm.trans hreply)
    exact absurd (ha.isFit_customerWrite hg hid)
      (undergoes_call.1 (undergoes_lookup.1 ht).2).not_isFit
  | ownerRefused e => exact absurd rfl (hsettled _)
  | methodGone => exact absurd rfl (hsettled _)
  | cardFailed reply hreply =>
    obtain ⟨fields, hbrings, hfields, _⟩ := hlast _ hcall
    obtain ⟨_, hcard, _⟩ := exists_cardOf hfields a.deviceSession hbrings
    rw [hreply] at hcard
    cases hcard
  | @tokenRefused k reply described e hreply =>
    obtain ⟨fields, hbrings, hfields, _⟩ := hlast _ hcall
    obtain ⟨card, hcard, hid, _, hdate⟩ := exists_cardOf hfields a.deviceSession hbrings
    obtain rfl : card = described := Except.ok.inj (hcard.symm.trans hreply)
    exact absurd (ha.isFit_tokenWrite (l := ⟨k, reply, card⟩) hg (hsound rfl) hid hdate)
      (undergoes_call.1 ht).not_isFit
  | chargeFailed reply hreply =>
    obtain ⟨fields, hbrings, hfields, hcharge⟩ := hlast _ hcall
    obtain ⟨_, _, hok, _⟩ := exists_chargeOf hfields (hcharge rfl) hbrings
    rw [hreply] at hok
    cases hok
  | @statusFailed l reply described e hreply hstatus =>
    obtain ⟨fields, hbrings, hfields, hcharge⟩ := hlast _ hcall
    obtain ⟨charge, _, hok, htext, _⟩ := exists_chargeOf hfields (hcharge rfl) hbrings
    obtain rfl : charge = described := Except.ok.inj (hok.symm.trans hreply)
    rw [hstatus] at htext
    cases htext
  | @logRefused l reply described status e hreply hstatus =>
    obtain ⟨fields, hbrings, hfields, hcharge⟩ := hlast _ hcall
    obtain ⟨charge, _, hok, _, hid, hamount, hraw, _⟩ := exists_chargeOf hfields (hcharge rfl) hbrings
    obtain rfl : charge = described := Except.ok.inj (hok.symm.trans hreply)
    have hmethod : l.method = s.methods.next := Known.Agrees.method hg.agrees
    have hcard := hxs _ (Stage.mem_exchanges.2 (.inr (.inl ⟨l, rfl, rfl⟩)))
    obtain ⟨cardFields, hcardBrings, hcardFields, _⟩ := hcard
    obtain ⟨card, hcardOf, _, hstandard, _⟩ := exists_cardOf hcardFields a.deviceSession hcardBrings
    obtain rfl : card = l.card := Except.ok.inj (hcardOf.symm.trans (hheard.tokenized rfl).card)
    refine absurd ((logWrite_isFit_iff hg).2 ⟨⟨?_, ?_, hid, hamount⟩, ?_, hraw⟩)
      (undergoes_call.1 ht).not_isFit
    · rw [hmethod]
      exact ha.store.nextMethod
    · exact (ha.store.providers _ (List.mem_of_find?_eq_some ha.provider)).2
    · exact ha.isStandard_chargePayload (hsound rfl) hstandard
  | @chargeRefused m e =>
    obtain ⟨fields, hbrings, hfields, hcharge⟩ := hxs _ (Stage.mem_exchanges.2 (.inr (.inr ⟨m, rfl, rfl⟩)))
    obtain ⟨charge, _, hok, _, _, _, _, hbookable, _⟩ := exists_chargeOf hfields (hcharge rfl) hbrings
    obtain rfl : charge = m.charge := Except.ok.inj (hok.symm.trans (hheard.logged rfl).charge)
    exact absurd ((chargeWrite_isFit_iff hg (id_ne_null_of_chargeOf hok)).2 hbookable) ht.not_isFit
  | paid => exact ⟨_, rfl⟩

end

/-- The result of a charge that is described well can be shown. -/
theorem exists_toJson (payer : Payer) (hnow : a.now.IsOrdinary) {charge : Provider.Charge}
    (hdate : ∀ d, charge.creationDate = some d → d.IsOrdinary) :
    ∃ answer, (a.result payer charge).toJson = .ok answer := by
  have hamount : ∃ v, Shown.amount chargeAmount = .ok v := isOk_iff.1 (by decide +kernel)
  have hcreated : (charge.creationDate.getD a.now).IsOrdinary := by
    cases hcharge : charge.creationDate with
    | none => exact hnow
    | some d => exact hdate d hcharge
  obtain ⟨amount, hamount⟩ := hamount
  obtain ⟨time, htime⟩ := hcreated.time_isOk
  exact ⟨_, bind_eq_ok.2 ⟨amount, hamount, bind_eq_ok.2 ⟨time, htime, rfl⟩⟩⟩

end Attempt

variable {s : PaymentService} {now : DateTime} {request : PaymentRequest} {d : Desk}

end PaymentService

end CardPayments
