import CardPayments.Payment.Process
import CardPayments.Proofs.Provider.Client

/-!
# The course of a payment

A payment goes through stages, each of which knows what the payment found out or wrote so far.
`Attempt.Step` says with which deeds it gets from one stage to the next, and `Attempt.Halts` with which
deeds it ends at a stage: with one of a dozen failures, or at the last stage with its result.
`PaymentService.process_does` is what all else rests on: whatever the answers of the world, a payment
fails before its first deed, or takes some of the steps one after the other and halts.
-/

namespace CardPayments

namespace PaymentService

namespace Attempt

open Provider.Account

/-! ### Stages -/

/-- What is known when the payment method is written. -/
structure Recorded where
  /-- The token of the payment method. -/
  token : Text
  /-- The key of the payment method. -/
  method : Nat

/-- What is known when the customer is. -/
structure Known extends Recorded where
  /-- The reply to the call that created the customer; none when the customer was found. -/
  customerReply : Option Provider.Reply
  /-- The customer. -/
  payer : Payer

/-- Was the customer created by this payment? -/
def Known.isNew (k : Known) : Bool := k.customerReply.isSome

/-- What is known when the token of the card is written. -/
structure Tokenized extends Known where
  /-- The reply to the call that exchanged the card. -/
  cardReply : Provider.Reply
  /-- The card with its token. -/
  card : Provider.Card

/-- What is known when the log of the charge is written. -/
structure Logged extends Tokenized where
  /-- The reply to the call that made the charge. -/
  chargeReply : Provider.Reply
  charge : Provider.Charge
  /-- Its status as a text. -/
  status : Option Text

/-- How far a payment has come. -/
inductive Stage where
  /-- Nothing is done. -/
  | begun
  /-- The payment method is written. -/
  | recorded (k : Recorded)
  /-- The customer is known, and written if it is a new one. -/
  | known (k : Known)
  /-- The payment method has its owner. -/
  | owned (k : Known)
  /-- The transaction for the token is written. -/
  | tokenized (k : Tokenized)
  /-- The log of the charge is written. -/
  | logged (k : Logged)
  /-- The transaction for the charge is written. -/
  | charged (k : Logged)

variable (a : Attempt)

/-! ### Calls and groups of rows -/

/-- The call that creates the customer. -/
def customerCall : Provider.Call :=
  a.service.account.callOf "customers"
    (Provider.Customer.ofNameAndEmail a.request.name a.request.email).toPayload

/-- The call that exchanges the card for a token. -/
def cardCall : Provider.Call := a.service.account.callOf "cards" a.card.toPayload

/-- The object that orders the charge. -/
def chargePayload (k : Tokenized) : Json.Value :=
  .object [("method", MethodKind.card.label), ("source_id", k.card.id.orEmpty),
    ("amount", .float (.nearest false 10000 (-2))), ("currency", currencyCode),
    ("description", ("Order: " ++ a.request.orderId : Text)),
    ("device_session_id", a.deviceSession), ("order_id", a.request.orderId),
    ("use_3d_secure", .bool true), ("redirect_url", a.service.redirectUrl),
    ("customer", k.payer.customer.toPayload)]

theorem order_toPayload (k : Tokenized) :
    (a.order k.payer k.card).toPayload = .ok (a.chargePayload k) := rfl

/-- The call that makes the charge. -/
def chargeCall (k : Tokenized) : Provider.Call :=
  a.service.account.callOf "charges" (a.chargePayload k)

/-- The payment method. -/
def methodWrite (token : Text) : Write := .method (a.methodDraft token)

/-- The new customer. -/
def customerWrite (method : Nat) (created : Provider.Customer) : Write :=
  .customer (a.customerDraft method created) a.now

/-- The owner of the payment method. -/
def ownerWrite (k : Known) : Write := .owner k.method (keyOffer k.payer.id) a.now

/-- The transaction for the token. -/
def tokenWrite (k : Tokenized) : Write := .transaction (a.tokenDraft k.payer k.card) tokenNotes a.now

/-- The log of the charge. -/
def logWrite (k : Logged) : Write :=
  .log (a.logDraft k.payer k.method k.charge (PaymentStatus.codeOf k.status))
    (a.chargePayload k.toTokenized) k.charge.raw a.now

/-- The transaction for the charge. -/
def chargeWrite (k : Logged) : Write :=
  .transaction (a.chargeDraft k.payer k.charge k.status) k.charge.errorMessage a.now

/-! ### Steps -/

/-- The deeds with which a payment gets from one stage to the next. -/
inductive Step : Stage → List Deed → Stage → Prop where
  /-- The payment method is written. -/
  | record (token : Text) (key : Option Nat) :
      Step .begun [.write (a.methodWrite token) (.ok key)] (.recorded ⟨token, key.getD 0⟩)
  /-- The customer is found. -/
  | reuse {k : Recorded} (row : CustomerRow) :
      Step (.recorded k) [.lookup a.request.name a.request.email (.ok (some row))]
        (.known ⟨k, none, payerOfRow row⟩)
  /-- The customer is not found, and created. -/
  | create {k : Recorded} (reply : Provider.Reply) {created : Provider.Customer} (key : Option Nat) :
      customerOf reply = .ok created →
      Step (.recorded k)
        [.lookup a.request.name a.request.email (.ok none), .call a.customerCall reply,
          .write (a.customerWrite k.method created) (.ok key)]
        (.known ⟨k, some reply, created, key.getD 0⟩)
  /-- The payment method gets its owner. -/
  | own {k : Known} (key : Nat) :
      Step (.known k) [.write (a.ownerWrite k) (.ok (some key))] (.owned k)
  /-- The card is exchanged for a token. -/
  | tokenize {k : Known} (reply : Provider.Reply) {card : Provider.Card} (key : Option Nat) :
      cardOf a.deviceSession reply = .ok card →
      Step (.owned k) [.call a.cardCall reply, .write (a.tokenWrite ⟨k, reply, card⟩) (.ok key)]
        (.tokenized ⟨k, reply, card⟩)
  /-- The charge is made, and its log is written. -/
  | log {k : Tokenized} (reply : Provider.Reply) {charge : Provider.Charge} {status : Option Text}
      (key : Option Nat) :
      chargeOf reply = .ok charge → statusText charge.status = .ok status →
      Step (.tokenized k)
        [.call (a.chargeCall k) reply, .write (a.logWrite ⟨k, reply, charge, status⟩) (.ok key)]
        (.logged ⟨k, reply, charge, status⟩)
  /-- The transaction for the charge is written. -/
  | charge {k : Logged} (key : Option Nat) :
      Step (.logged k) [.write (a.chargeWrite k) (.ok key)] (.charged k)

/-- The deeds with which a payment ends at a stage, and its result. -/
inductive Halts : Stage → List Deed → Except Failure PaymentResult → Prop where
  /-- The payment method is refused. -/
  | methodRefused (token : Text) (e : Failure) :
      Halts .begun [.write (a.methodWrite token) (.error e)] (.error e)
  /-- The customer cannot be looked for. -/
  | lookupRefused {k : Recorded} (e : Failure) :
      Halts (.recorded k) [.lookup a.request.name a.request.email (.error e)] (.error e)
  /-- The customer is not created. -/
  | customerFailed {k : Recorded} (reply : Provider.Reply) {e : Failure} :
      customerOf reply = .error e →
      Halts (.recorded k)
        [.lookup a.request.name a.request.email (.ok none), .call a.customerCall reply] (.error e)
  /-- The new customer is refused. -/
  | customerRefused {k : Recorded} (reply : Provider.Reply) {created : Provider.Customer} (e : Failure) :
      customerOf reply = .ok created →
      Halts (.recorded k)
        [.lookup a.request.name a.request.email (.ok none), .call a.customerCall reply,
          .write (a.customerWrite k.method created) (.error e)] (.error e)
  /-- The owner is refused. -/
  | ownerRefused {k : Known} (e : Failure) :
      Halts (.known k) [.write (a.ownerWrite k) (.error e)] (.error e)
  /-- The payment method is gone. -/
  | methodGone {k : Known} :
      Halts (.known k) [.write (a.ownerWrite k) (.ok none)] (.error (.methodNotFound k.method))
  /-- The card is not exchanged. -/
  | cardFailed {k : Known} (reply : Provider.Reply) {e : Failure} :
      cardOf a.deviceSession reply = .error e → Halts (.owned k) [.call a.cardCall reply] (.error e)
  /-- The transaction for the token is refused. -/
  | tokenRefused {k : Known} (reply : Provider.Reply) {card : Provider.Card} (e : Failure) :
      cardOf a.deviceSession reply = .ok card →
      Halts (.owned k) [.call a.cardCall reply, .write (a.tokenWrite ⟨k, reply, card⟩) (.error e)]
        (.error e)
  /-- The charge is not made. -/
  | chargeFailed {k : Tokenized} (reply : Provider.Reply) {e : Failure} :
      chargeOf reply = .error e → Halts (.tokenized k) [.call (a.chargeCall k) reply] (.error e)
  /-- The status of the charge is no text. -/
  | statusFailed {k : Tokenized} (reply : Provider.Reply) {charge : Provider.Charge} {e : Failure} :
      chargeOf reply = .ok charge → statusText charge.status = .error e →
      Halts (.tokenized k) [.call (a.chargeCall k) reply] (.error e)
  /-- The log is refused. -/
  | logRefused {k : Tokenized} (reply : Provider.Reply) {charge : Provider.Charge}
      {status : Option Text} (e : Failure) :
      chargeOf reply = .ok charge → statusText charge.status = .ok status →
      Halts (.tokenized k)
        [.call (a.chargeCall k) reply, .write (a.logWrite ⟨k, reply, charge, status⟩) (.error e)]
        (.error e)
  /-- The transaction for the charge is refused. -/
  | chargeRefused {k : Logged} (e : Failure) :
      Halts (.logged k) [.write (a.chargeWrite k) (.error e)] (.error e)
  /-- The payment is made. -/
  | paid {k : Logged} : Halts (.charged k) [] (.ok (a.result k.payer k.charge))

/-- The deeds with which a payment gets from one stage to another in some steps. -/
inductive Steps : Stage → List Deed → Stage → Prop where
  /-- No step is taken. -/
  | refl (g : Stage) : Steps g [] g
  /-- One more step is taken. -/
  | tail {g h i : Stage} {before ds : List Deed} : Steps g before h → a.Step h ds i → Steps g (before ++ ds) i

/-! ### What is heard -/

/-- The reply that created the customer describes it. -/
def Known.Heard (k : Known) : Prop :=
  ∀ reply, k.customerReply = some reply → customerOf reply = .ok k.payer.customer

/-- The replies until the card is exchanged describe what is known. -/
structure Tokenized.Heard (k : Tokenized) : Prop where
  customer : k.toKnown.Heard
  card : cardOf a.deviceSession k.cardReply = .ok k.card

/-- The replies until the charge is made describe what is known. -/
structure Logged.Heard (k : Logged) : Prop where
  card : k.toTokenized.Heard a
  charge : chargeOf k.chargeReply = .ok k.charge
  status : statusText k.charge.status = .ok k.status

/-- The replies on the way to a stage describe what is known there. -/
def Stage.Heard : Stage → Prop
  | .begun => True
  | .recorded _ => True
  | .known k => k.Heard
  | .owned k => k.Heard
  | .tokenized k => k.Heard a
  | .logged k => k.Heard a
  | .charged k => k.Heard a

variable {a : Attempt} {ds : List Deed} {g h i : Stage}

theorem Step.heard (hstep : a.Step g ds i) (hg : g.Heard a) : i.Heard a := by
  cases hstep with
  | record token key => trivial
  | reuse row => exact nofun
  | create reply key hreply =>
    rintro _ ⟨⟩
    exact hreply
  | own key => exact hg
  | tokenize reply key hreply => exact ⟨hg, hreply⟩
  | log reply key hreply hstatus => exact ⟨hg, hreply, hstatus⟩
  | charge key => exact hg

theorem Steps.heard (hsteps : a.Steps g ds i) (hg : g.Heard a) : i.Heard a := by
  induction hsteps with
  | refl => exact hg
  | tail _ hstep ih => exact hstep.heard ih

open Program

/-! ### What the parts of the program do -/

theorem createMethod_cases {r : Except Failure Nat} (h : a.createMethod.Does ds r) :
    (∃ e, r = .error e ∧ a.Halts .begun ds (.error e)) ∨
      ∃ token method, r = .ok method ∧ a.Step .begun ds (.recorded ⟨token, method⟩) := by
  simp only [createMethod, noteStep, notingFailure, does_note_bind, does_bind_note, does_noting,
    does_chooseToken_bind, does_insert] at h
  obtain ⟨token, answer, rfl, rfl⟩ := h
  cases answer with
  | error e => exact .inl ⟨e, rfl, .methodRefused token e⟩
  | ok key => exact .inr ⟨token, _, rfl, .record token key⟩

theorem createPayer_cases {k : Recorded} {r : Except Failure Payer}
    (h : (a.createPayer k.method).Does ds r) :
    let ds' := .lookup a.request.name a.request.email (.ok none) :: ds
    (∃ e, r = .error e ∧ a.Halts (.recorded k) ds' (.error e)) ∨
      ∃ reply payer, r = .ok payer ∧ a.Step (.recorded k) ds' (.known ⟨k, some reply, payer⟩) := by
  rw [createPayer, does_bind] at h
  simp only [does_createCustomer, does_insert_bind, does_pure] at h
  rcases h with ⟨e, ⟨reply, rfl, hreply⟩, rfl⟩ | ⟨created, _, after, ⟨reply, rfl, hreply⟩, h, rfl⟩
  · exact .inl ⟨e, rfl, .customerFailed reply hreply.symm⟩
  · rcases h with ⟨e, rfl, rfl⟩ | ⟨key, _, rfl, rfl, rfl⟩
    · exact .inl ⟨e, rfl, .customerRefused reply e hreply.symm⟩
    · exact .inr ⟨reply, _, rfl, .create reply key hreply.symm⟩

theorem resolvePayer_cases {k : Recorded} {r : Except Failure Payer}
    (h : (a.resolvePayer k.method).Does ds r) :
    (∃ e, r = .error e ∧ a.Halts (.recorded k) ds (.error e)) ∨
      ∃ reply payer, r = .ok payer ∧ a.Step (.recorded k) ds (.known ⟨k, reply, payer⟩) := by
  have hlast {m : Text} (x : Payer × Bool) (ds : List Deed) (r : Except Failure Payer) :
      (if x.2 = true then note (Journal.info .payment m) >>= fun _ => pure x.1 else pure x.1).Does ds r ↔
        ds = [] ∧ r = .ok x.1 := by
    split_ifs
    · rw [does_note_bind, does_pure]
    · rw [does_pure]
  simp only [resolvePayer, noteStep, notingFailure, does_note_bind] at h
  rw [does_bind_silent fun x => hlast x] at h
  obtain ⟨r', h, rfl⟩ := h
  rw [does_noting, does_findCustomer_bind] at h
  rcases h with ⟨e, rfl, rfl⟩ | ⟨found, rest, rfl, h⟩
  · exact .inl ⟨e, rfl, .lookupRefused e⟩
  · cases found with
    | some row =>
      simp only [does_note_bind, does_pure] at h
      obtain ⟨rfl, rfl⟩ := h
      exact .inr ⟨none, _, rfl, .reuse row⟩
    | none =>
      obtain ⟨r'', hcreate, rfl⟩ := does_bind_pure.1 h
      rcases createPayer_cases hcreate with ⟨e, rfl, hhalt⟩ | ⟨reply, payer, rfl, hstep⟩
      · exact .inl ⟨e, rfl, hhalt⟩
      · exact .inr ⟨some reply, payer, rfl, hstep⟩

theorem attachOwner_cases {k : Known} {r : Except Failure Unit}
    (h : (a.attachOwner k.method k.payer).Does ds r) :
    (∃ e, r = .error e ∧ a.Halts (.known k) ds (.error e)) ∨
      r = .ok () ∧ a.Step (.known k) ds (.owned k) := by
  simp only [attachOwner, noteStep, notingFailure, does_note_bind] at h
  rw [does_bind_silent fun _ _ _ => does_note] at h
  obtain ⟨r', h, rfl⟩ := h
  rw [does_noting, does_commit_bind] at h
  rcases h with ⟨e, rfl, rfl⟩ | ⟨key, rest, rfl, h⟩
  · exact .inl ⟨e, rfl, .ownerRefused e⟩
  · cases key with
    | some key =>
      obtain ⟨rfl, rfl⟩ := does_pure.1 h
      exact .inr ⟨rfl, .own key⟩
    | none =>
      rw [does_note_bind, does_fail] at h
      obtain ⟨rfl, rfl⟩ := h
      exact .inl ⟨_, rfl, .methodGone⟩

theorem createToken_cases {k : Known} {r : Except Failure Provider.Card}
    (h : (a.createToken k.payer).Does ds r) :
    (∃ e, r = .error e ∧ a.Halts (.owned k) ds (.error e)) ∨
      ∃ reply card, r = .ok card ∧ a.Step (.owned k) ds (.tokenized ⟨k, reply, card⟩) := by
  simp only [createToken, noteStep, notingFailure, does_note_bind, does_noting] at h
  rw [does_bind] at h
  simp only [does_createCardToken, does_note_bind, does_insert_bind, does_pure] at h
  rcases h with ⟨e, ⟨reply, rfl, hreply⟩, rfl⟩ | ⟨card, _, after, ⟨reply, rfl, hreply⟩, h, rfl⟩
  · exact .inl ⟨e, rfl, .cardFailed reply hreply.symm⟩
  · rcases h with ⟨e, rfl, rfl⟩ | ⟨key, _, rfl, rfl, rfl⟩
    · exact .inl ⟨e, rfl, .tokenRefused reply e hreply.symm⟩
    · exact .inr ⟨reply, _, rfl, .tokenize reply key hreply.symm⟩

theorem createCharge_cases {k : Tokenized} {r : Except Failure Provider.Charge}
    (h : (a.createCharge k.payer k.card k.method).Does ds r) :
    (∃ e, r = .error e ∧ a.Halts (.tokenized k) ds (.error e)) ∨
      ∃ reply charge status before after,
        a.Step (.tokenized k) before (.logged ⟨k, reply, charge, status⟩) ∧ ds = before ++ after ∧
          ((∃ e, r = .error e ∧ a.Halts (.logged ⟨k, reply, charge, status⟩) after (.error e)) ∨
            r = .ok charge ∧ a.Step (.logged ⟨k, reply, charge, status⟩) after
              (.charged ⟨k, reply, charge, status⟩)) := by
  simp only [createCharge, noteStep, notingFailure, does_note_bind, does_noting] at h
  rw [does_bind] at h
  simp only [does_createCharge (a.order_toPayload k), does_note_bind] at h
  rcases h with ⟨e, ⟨reply, rfl, hreply⟩, rfl⟩ | ⟨charge, _, rest, ⟨reply, rfl, hreply⟩, h, rfl⟩
  · exact .inl ⟨e, rfl, .chargeFailed reply hreply.symm⟩
  · rw [recordCharge, a.order_toPayload k] at h
    obtain ⟨r', hrecord, rfl⟩ := (does_bind_silent fun _ _ _ => does_pure).1 h
    rcases does_ofExcept_bind.1 hrecord with ⟨e, hstatus, rfl, rfl⟩ | ⟨status, hstatus, hlog⟩
    · exact .inl ⟨e, rfl, .statusFailed reply hreply.symm hstatus⟩
    · rcases does_insert_bind.1 hlog with ⟨e, rfl, rfl⟩ | ⟨key, rest, rfl, hcharge⟩
      · exact .inl ⟨e, rfl, .logRefused reply e hreply.symm hstatus⟩
      · refine .inr ⟨reply, charge, status, _, rest, .log reply key hreply.symm hstatus, rfl, ?_⟩
        rcases does_insert_bind.1 hcharge with ⟨e, rfl, rfl⟩ | ⟨key, _, rfl, hend⟩
        · exact .inl ⟨e, rfl, .chargeRefused e⟩
        · obtain ⟨rfl, rfl⟩ := does_pure.1 hend
          exact .inr ⟨rfl, .charge key⟩

/-! ### The whole payment -/

theorem Steps.head {before : List Deed} (hstep : a.Step g before h)
    (hsteps : a.Steps h ds i) : a.Steps g (before ++ ds) i := by
  induction hsteps with
  | refl =>
    have h := Steps.tail (.refl g) hstep
    rwa [List.nil_append, ← List.append_nil before] at h
  | tail _ hlast ih =>
    rw [← List.append_assoc]
    exact .tail ih hlast

variable (a) in
/-- From a stage on, the payment takes some of its steps and halts. -/
def Ends (g : Stage) (ds : List Deed) (r : Except Failure PaymentResult) : Prop :=
  ∃ i before after, a.Steps g before i ∧ a.Halts i after r ∧ ds = before ++ after

variable {r : Except Failure PaymentResult}

theorem Ends.halt (h : a.Halts g ds r) : a.Ends g ds r := ⟨g, [], ds, .refl g, h, rfl⟩

theorem Ends.step {before after : List Deed} (hstep : a.Step g before i) (h : a.Ends i after r) :
    a.Ends g (before ++ after) r := by
  obtain ⟨j, steps, last, hsteps, hhalt, rfl⟩ := h
  exact ⟨j, before ++ steps, last, .head hstep hsteps, hhalt, (List.append_assoc ..).symm⟩

/-- A program ends well from a stage on if its first part halts there, or takes a step from which its
second part ends well. -/
theorem Ends.bind {α : Type} {p : Program α} {f : α → Program PaymentResult}
    (h : (p >>= f).Does ds r)
    (hp : ∀ before r', p.Does before r' →
      (∃ e, r' = .error e ∧ a.Halts g before (.error e)) ∨
        ∃ x i, r' = .ok x ∧ a.Step g before i ∧ ∀ after, (f x).Does after r → a.Ends i after r) :
    a.Ends g ds r := by
  rcases does_bind.1 h with ⟨e, hfail, rfl⟩ | ⟨x, before, after, hbefore, hafter, rfl⟩
  · rcases hp _ _ hfail with ⟨_, ⟨⟩, hhalt⟩ | ⟨_, _, ⟨⟩, _⟩
    exact .halt hhalt
  · rcases hp _ _ hbefore with ⟨_, ⟨⟩, _⟩ | ⟨_, i, ⟨⟩, hstep, hrest⟩
    exact .step hstep (hrest after hafter)

/-- From the stage on at which the customer is known, a payment takes some of its steps and halts. -/
theorem ends_of_known {k : Known}
    (h : (do
      a.attachOwner k.method k.payer
      let token ← a.createToken k.payer
      let charge ← a.createCharge k.payer token k.method
      return a.result k.payer charge : Program PaymentResult).Does ds r) : a.Ends (.known k) ds r := by
  refine .bind h fun before r' h => ?_
  rcases attachOwner_cases h with h | ⟨rfl, hstep⟩
  · exact .inl h
  refine .inr ⟨_, _, rfl, hstep, fun after h => .bind h fun before r' h => ?_⟩
  rcases createToken_cases h with h | ⟨cardReply, card, rfl, hstep⟩
  · exact .inl h
  refine .inr ⟨_, _, rfl, hstep, fun after h => ?_⟩
  -- The charge is made in two steps, and nothing is done after it.
  obtain ⟨r', hcharge, rfl⟩ := does_bind_pure.1 h
  rcases createCharge_cases (k := ⟨k, cardReply, card⟩) hcharge with
    ⟨e, rfl, hhalt⟩ | ⟨_, charge, status, before, after, hlog, rfl, hend⟩
  · exact .halt hhalt
  · refine .step hlog ?_
    rcases hend with ⟨e, rfl, hhalt⟩ | ⟨rfl, hlast⟩
    · exact .halt hhalt
    · rw [← List.append_nil after]
      exact .step hlast (.halt .paid)

/-- A payment takes some of its steps, one after the other, and halts. -/
theorem steps_does (h : a.steps.Does ds r) : a.Ends .begun ds r := by
  rw [Attempt.steps] at h
  refine .bind h fun before r' h => ?_
  rcases createMethod_cases h with h | ⟨token, method, rfl, hstep⟩
  · exact .inl h
  refine .inr ⟨_, _, rfl, hstep, fun after h => .bind h fun before r' h => ?_⟩
  rcases resolvePayer_cases (k := ⟨token, method⟩) h with h | ⟨reply, payer, rfl, hstep⟩
  · exact .inl h
  exact .inr ⟨_, _, rfl, hstep, fun after h => ends_of_known (k := ⟨⟨token, method⟩, reply, payer⟩) h⟩

end Attempt

/-- A payment fails before its first deed, or takes some of its steps and halts. -/
theorem process_does {s : PaymentService} {now : DateTime} {request : PaymentRequest} {ds : List Deed}
    {r : Except Failure PaymentResult} (h : (s.process now request).Does ds r) :
    (∃ e, s.attempt now request = .error e ∧ ds = [] ∧ r = .error e) ∨
      ∃ a, s.attempt now request = .ok a ∧ a.Ends .begun ds r := by
  rw [process, noteStep, Program.does_note_bind, notingFailure, Program.does_noting,
    Program.does_ofExcept_bind] at h
  rcases h with h | ⟨a, ha, h⟩
  · exact .inl h
  · exact .inr ⟨a, ha, a.steps_does h⟩

end PaymentService

end CardPayments
