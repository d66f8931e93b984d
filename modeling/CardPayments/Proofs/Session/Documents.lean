import CardPayments.Proofs.Payment.Documents
import CardPayments.Proofs.Session.Ledger

/-!
# Documents over many payments

Whatever payments are taken in a session, the rows with documents that they write stand for some of the calls by
which charges were made, one row for one call and in the order of the calls, and each keeps the documents of its
call and of no other: `Session.keepsDocuments`.
-/

namespace CardPayments

open Json

/-- What goes into the order of a charge beside what was stored or received is whole: where the customer returns,
and the device session. -/
structure Payment.IsWhole (p : Payment) : Prop where
  redirectUrl : p.service.redirectUrl.IsDocument Json.IsWhole
  deviceSession : (p.service.deviceSessionFor p.request).IsDocument Json.IsWhole

namespace Session

variable {s : Session} {t : Task} {ts : List Task} {p : Payment}

/-- A call by which a charge is made in a session, with the payment to which it belongs. -/
structure ChargeCall where
  /-- The session in which the payment is taken. -/
  session : Session
  payment : Payment
  call : Exchange

/-- All calls of the payment. -/
def ChargeCall.calls (c : ChargeCall) : List Exchange := c.session.exchanges c.payment

/-- The calls by which charges are made in a task. -/
def Task.chargeCalls (s : Session) : Task → List ChargeCall
  | .pay p => ((s.exchanges p).filter fun x => p.service.Posts "charges" x).map fun x => ⟨s, p, x⟩
  | _ => []

/-- The calls by which charges are made in some tasks, one after the other. -/
def chargeCalls (s : Session) : List Task → List ChargeCall
  | [] => []
  | t :: ts => t.chargeCalls s ++ (s.perform t).chargeCalls ts

/-- Some rows keep the documents of some among the given calls, one row for one call and in order, and hide the
card. -/
def KeepSome (rows : List DetailsRow) (calls : List ChargeCall) : Prop :=
  ∃ kept : List ChargeCall, kept.Sublist calls ∧
    List.Forall₂ (fun r c => r.Keeps c.call ∧ r.HidesCard c.calls) rows kept

theorem keepSome_nil (calls : List ChargeCall) : KeepSome [] calls := ⟨[], List.nil_sublist calls, .nil⟩

theorem KeepSome.append {rows rows' : List DetailsRow} {calls calls' : List ChargeCall} (h : KeepSome rows calls)
    (h' : KeepSome rows' calls') : KeepSome (rows ++ rows') (calls ++ calls') := by
  obtain ⟨kept, hkept, hrows⟩ := h
  obtain ⟨kept', hkept', hrows'⟩ := h'
  exact ⟨kept ++ kept', hkept.append hkept', List.rel_append hrows hrows'⟩

/-- What is to be said of the documents that are kept in the course of a session. -/
structure KeepsDocuments (s : Session) (ts : List Task) : Prop where
  /-- What was kept before stays. -/
  grows : s.desk.store.details.rows <+: (s.performAll ts).desk.store.details.rows
  /-- The new rows keep the documents of calls by which charges were made, -/
  documents : KeepSome ((s.performAll ts).desk.store.details.since s.desk.store.details) (s.chargeCalls ts)
  /-- and those of a payment the documents of its own calls. -/
  apart : ∀ before p after, ts = before ++ .pay p :: after →
    KeepSome
      (((s.performAll before).storeAfter p).details.since (s.performAll before).desk.store.details)
      (Task.chargeCalls (s.performAll before) (.pay p))
  /-- The texts of an order are whole if nothing was said that is not.  (What is not whole has the same JSON text as
  what is read back of it.) -/
  whole : s.desk.store.HasStorableCustomers → ∀ c ∈ s.chargeCalls ts, c.payment.IsWhole →
    (∀ y ∈ c.calls, y.reply.IsDecoded) → c.call.call.payload.IsDocument IsWhole

/-! ### One task -/

theorem keepsDocuments_pay (s : Session) (hp : p.service.HasTextAddresses) :
    s.desk.store.details.rows <+: (s.storeAfter p).details.rows ∧
      KeepSome ((s.storeAfter p).details.since s.desk.store.details) (Task.chargeCalls s (.pay p)) := by
  obtain ⟨hgrows, xs, hxs, hkeep⟩ :=
    p.service.process_keepsDocuments s.now p.request ((Task.pay p).desk s) hp rfl
  rw [← storeAfter_eq] at hgrows hkeep
  refine ⟨hgrows, xs.map fun x => ⟨s, p, x⟩, hxs.map _, ?_⟩
  rw [List.forall₂_map_right_iff]
  exact hkeep

/-- A task keeps what was kept, and its new rows stand for its own calls. -/
theorem keepsDocuments_perform (ht : t.IsPayment) (hp : ∀ p, t = .pay p → p.service.HasTextAddresses) :
    s.desk.store.details.rows <+: (s.perform t).desk.store.details.rows ∧
      KeepSome ((s.perform t).desk.store.details.since s.desk.store.details) (t.chargeCalls s) := by
  cases t with
  | pay p => exact keepsDocuments_pay s (hp p rfl)
  | passTime now =>
    have hsame : (s.perform (.passTime now)).desk.store = s.desk.store := rfl
    rw [hsame, Table.since_self]
    exact ⟨List.prefix_rfl, keepSome_nil _⟩
  | _ => exact ht.elim

theorem hasStorableCustomers_perform (ht : t.IsPayment) (h : s.desk.store.HasStorableCustomers) :
    (s.perform t).desk.store.HasStorableCustomers := by
  cases t with
  | pay p =>
    have hafter := p.service.process_hasStorableCustomers s.now p.request ((Task.pay p).desk s) rfl h
    rwa [← storeAfter_eq] at hafter
  | passTime now => exact h
  | _ => exact ht.elim

/-- The texts of the orders of a task are whole if nothing was said that is not. -/
theorem isWhole_of_mem_chargeCalls (h : s.desk.store.HasStorableCustomers) {c : ChargeCall}
    (hc : c ∈ t.chargeCalls s) (hwhole : c.payment.IsWhole) (hreplies : ∀ y ∈ c.calls, y.reply.IsDecoded) :
    c.call.call.payload.IsDocument IsWhole := by
  cases t with
  | pay p =>
    obtain ⟨x, hx, rfl⟩ := List.mem_map.1 hc
    obtain ⟨hx, hposts⟩ := List.mem_filter.1 hx
    exact p.service.process_isWhole s.now p.request ((Task.pay p).desk s) rfl h hreplies hwhole.redirectUrl
      hwhole.deviceSession hx (of_decide_eq_true hposts)
  | _ => cases hc

/-! ### Many tasks -/

theorem documents_performAll (hts : ∀ t ∈ ts, t.IsPayment)
    (hservices : ∀ p, .pay p ∈ ts → p.service.HasTextAddresses) :
    s.desk.store.details.rows <+: (s.performAll ts).desk.store.details.rows ∧
      KeepSome ((s.performAll ts).desk.store.details.since s.desk.store.details) (s.chargeCalls ts) := by
  induction ts generalizing s with
  | nil =>
    have hsame : s.performAll [] = s := rfl
    rw [hsame, Table.since_self]
    exact ⟨List.prefix_rfl, keepSome_nil _⟩
  | cons t ts ih =>
    rw [List.forall_mem_cons] at hts
    have hservice (p : Payment) (ht : t = .pay p) : p.service.HasTextAddresses :=
      hservices p (by rw [ht]; exact List.mem_cons_self)
    have hstep : s.performAll (t :: ts) = (s.perform t).performAll ts := rfl
    obtain ⟨hgrows, hkeep⟩ := keepsDocuments_perform (s := s) hts.1 hservice
    obtain ⟨hlater, hkeepLater⟩ := ih (s := s.perform t) hts.2 fun p hp => hservices p (List.mem_cons_of_mem t hp)
    rw [hstep, Table.since_append hgrows hlater]
    exact ⟨hgrows.trans hlater, hkeep.append hkeepLater⟩

theorem whole_performAll (hts : ∀ t ∈ ts, t.IsPayment) (h : s.desk.store.HasStorableCustomers) {c : ChargeCall}
    (hc : c ∈ s.chargeCalls ts) (hwhole : c.payment.IsWhole) (hreplies : ∀ y ∈ c.calls, y.reply.IsDecoded) :
    c.call.call.payload.IsDocument IsWhole := by
  induction ts generalizing s with
  | nil => exact absurd hc List.not_mem_nil
  | cons t ts ih =>
    rw [List.forall_mem_cons] at hts
    rcases List.mem_append.1 hc with hc | hc
    · exact isWhole_of_mem_chargeCalls h hc hwhole hreplies
    · exact ih hts.2 (hasStorableCustomers_perform hts.1 h) hc

/-- **The audit trail**: in a session in which only payments are taken, by services whose addresses are texts, the
rows with documents that are written stand for distinct calls by which charges were made, in the order of the
calls.  Each row keeps the payload that was posted in its call and the object that was answered to it, and both
are read back as what they were; and a key of the card is only there where the provider itself put it. -/
theorem keepsDocuments (hts : ∀ t ∈ ts, t.IsPayment)
    (hservices : ∀ p, .pay p ∈ ts → p.service.HasTextAddresses) : s.KeepsDocuments ts := by
  obtain ⟨hgrows, hdocuments⟩ := documents_performAll (s := s) hts hservices
  refine ⟨hgrows, hdocuments, ?_, fun h c hc hwhole hreplies => whole_performAll hts h hc hwhole hreplies⟩
  intro before p after hsplit
  have hp : .pay p ∈ ts := by
    rw [hsplit]
    exact List.mem_append_right before List.mem_cons_self
  exact (keepsDocuments_pay (s.performAll before) (hservices p hp)).2

/-! ### A trial -/

/-- The calls by which charges are made belong to the payments that are taken. -/
theorem pay_mem_of_mem_chargeCalls {c : ChargeCall} (h : c ∈ s.chargeCalls ts) : .pay c.payment ∈ ts := by
  induction ts generalizing s with
  | nil => cases h
  | cons t ts ih =>
    rcases List.mem_append.1 h with h | h
    · cases t with
      | pay p =>
        obtain ⟨x, -, rfl⟩ := List.mem_map.1 h
        exact List.mem_cons_self
      | _ => cases h
    · exact List.mem_cons_of_mem t (ih h)

/-- A charge that is described at length. -/
def trialNestedCharge : Text :=
  "\x7b\"id\": \"ch_2\", \"status\": \"completed\", \"amount\": 100.0, " ++
    "\"fee\": \x7b\"taxes\": [16, 1.5e-07, null], \"paid\": true\x7d\x7d"

/-- A payment whose charge is described at length. -/
def trialNested : Payment :=
  { trialReturn with replies := [.answered 201 "\x7b\"id\": \"tok_3\"\x7d", .answered 200 trialNestedCharge] }

/-- A payment, one whose charge is declined, and one whose charge is described at length. -/
def trialDocuments : List Task := [.pay trialPayment, .pay trialDeclined, .pay trialNested]

/-- The payments of the trial are taken by one service, and ask for the same. -/
theorem eq_of_mem_trialDocuments (hp : .pay p ∈ trialDocuments) :
    p.service = PaymentService.trialService ∧ p.request = trialRequest := by
  simp only [trialDocuments, List.mem_cons, Task.pay.injEq, List.not_mem_nil, or_false] at hp
  rcases hp with rfl | rfl | rfl <;> exact ⟨rfl, rfl⟩

theorem isWhole_of_mem_trialDocuments (hp : .pay p ∈ trialDocuments) : p.IsWhole := by
  obtain ⟨hservice, hrequest⟩ := eq_of_mem_trialDocuments hp
  have hwritten (t : String) : (Value.text t).IsDocument Json.IsWhole :=
    .text _ (isWhole_of_isStorable (Text.isStorable_ofString t))
  constructor
  · rw [hservice]
    exact hwritten _
  · rw [hservice, hrequest]
    exact hwritten "test-device-session"

/-- Three charges are made, and the documents of two of them are kept.  Nothing was said that is not whole, so all that
was ordered is read back as it was. -/
theorem trial_keepsDocuments :
    (∀ t ∈ trialDocuments, t.IsPayment) ∧ (∀ p, .pay p ∈ trialDocuments → p.service.HasTextAddresses) ∧
      (trialSession.chargeCalls trialDocuments).length = 3 ∧
      (trialSession.performAll trialDocuments).desk.store.details.rows.map DetailsRow.respInfo =
        [some PaymentService.trialCharge, some trialNestedCharge] ∧
      trialSession.desk.store.HasStorableCustomers ∧
      (∀ c ∈ trialSession.chargeCalls trialDocuments, c.payment.IsWhole ∧ (∀ y ∈ c.calls, y.reply.IsDecoded) ∧
        c.call.call.payload.IsDocument IsWhole ∧ c.call.call.payload.received = c.call.call.payload) ∧
      trialSession.KeepsDocuments trialDocuments := by
  have hpayments : ∀ t ∈ trialDocuments, t.IsPayment := by
    simp [trialDocuments, Task.IsPayment]
  have haddresses : PaymentService.trialService.HasTextAddresses := ⟨⟨_, rfl⟩, ⟨_, rfl⟩⟩
  have hservices : ∀ p, .pay p ∈ trialDocuments → p.service.HasTextAddresses := by
    intro p hp
    rw [(eq_of_mem_trialDocuments hp).1]
    exact haddresses
  have hcalls : (trialSession.chargeCalls trialDocuments).length = 3 := by decide +kernel
  have hanswers : (trialSession.performAll trialDocuments).desk.store.details.rows.map DetailsRow.respInfo =
      [some PaymentService.trialCharge, some trialNestedCharge] := by
    decide +kernel
  have hcustomers : trialSession.desk.store.HasStorableCustomers := List.forall_mem_nil _
  have hdecoded : ∀ c ∈ trialSession.chargeCalls trialDocuments, ∀ y ∈ c.calls, y.reply.IsDecoded := by
    decide +kernel
  have hkeeps := keepsDocuments (s := trialSession) hpayments hservices
  refine ⟨hpayments, hservices, hcalls, hanswers, hcustomers, fun c hc => ?_, hkeeps⟩
  have hwhole := isWhole_of_mem_trialDocuments (pay_mem_of_mem_chargeCalls hc)
  have hdocument := hkeeps.whole hcustomers c hc hwhole (hdecoded c hc)
  exact ⟨hwhole, hdecoded c hc, hdocument, Value.received_eq_self hdocument⟩

end Session

end CardPayments
