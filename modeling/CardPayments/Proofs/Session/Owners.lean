import CardPayments.Proofs.Payment.Causes
import CardPayments.Proofs.Payment.Owners
import CardPayments.Proofs.Session.Mirror
import CardPayments.Proofs.Session.Reuse

/-!
# Owners over many payments

Payments are taken one after the other from a store in which nobody has paid yet.  No failure of a payment
ever leaves a link between rows half made (`Session.keepsOwners`): the one moment at which a customer is
there and its payment method has no owner is passed by every payment.

The keys of customers are integers of 64 bits, since the column of the owner takes no others; a key that
is too large for it is the only reason for which the owner could be refused.
-/

namespace CardPayments

/-- Nobody has paid yet: there are no rows but those of the providers. -/
structure Store.HasNoPayments (s : Store) : Prop extends s.IsBlank where
  methods : s.methods.rows = []

namespace Store

variable {s : Store}

theorem HasNoPayments.hasKeys (h : s.HasNoPayments) : s.HasKeys :=
  ⟨Table.isKeyed_of_rows_eq_nil h.methods, Table.isKeyed_of_rows_eq_nil h.customers,
    Table.isKeyed_of_rows_eq_nil h.logs⟩

theorem HasNoPayments.hasOwners (h : s.HasNoPayments) : s.HasOwners := by
  constructor
  · simp [h.methods]
  · simp [h.customers]
  · simp [h.transactions]
  · simp [h.logs]
  · simp [h.details]

end Store

namespace Session

variable {s : Session} {p : Payment} {t : Task} {ts before after : List Task}

/-- What comes of a payment. -/
def resultOf (s : Session) (p : Payment) : Except Failure PaymentResult :=
  (((Task.pay p).desk s).run (p.service.process s.now p.request)).1

/-- A payment fails while its customer is resolved. -/
def FailsResolving (s : Session) (p : Payment) : Prop :=
  p.service.FailsResolving s.now p.request ((Task.pay p).desk s)

/-- The payment methods that a payment has written. -/
def methodsOf (s : Session) (p : Payment) : List MethodRow :=
  (s.storeAfter p).methods.since s.desk.store.methods

/-- What is to be said of owners in the course of payments that are taken in a session. -/
structure KeepsOwners (s : Session) (ts : List Task) : Prop where
  /-- No payment fails for want of its method. -/
  finds : ∀ before p after, ts = before ++ .pay p :: after →
    FindsMethod ((s.performAll before).resultOf p)
  /-- All rows are linked. -/
  owners : (s.performAll ts).desk.store.HasOwners
  /-- Every payment method was written by one of the payments. -/
  written : ∀ m ∈ (s.performAll ts).desk.store.methods.rows, ∃ before p after,
    ts = before ++ .pay p :: after ∧ m ∈ (s.performAll before).methodsOf p
  /-- The payment method of a payment stays as it is, and it has no owner exactly when the payment failed
  while its customer was resolved. -/
  ownerless_iff : ∀ before p after, ts = before ++ .pay p :: after →
    ∀ m ∈ (s.performAll before).methodsOf p, m ∈ (s.performAll ts).desk.store.methods.rows ∧
      (m.IsOwnerless ↔ (s.performAll before).FailsResolving p)

/-! ### One payment -/

theorem methods_perform (hs : s.desk.store.HasKeys) (ht : t.IsPayment) :
    s.desk.store.methods.rows <+: (s.perform t).desk.store.methods.rows := by
  cases t with
  | pay p =>
    show _ <+: (s.storeAfter p).methods.rows
    rw [storeAfter_eq]
    exact PaymentService.methods_process ((Task.pay p).desk s) rfl hs.methods.fresh
  | passTime now => exact List.prefix_rfl
  | _ => exact ht.elim

theorem hasOwners_perform (hkeys : s.desk.store.HasKeys) (hs : s.desk.store.HasOwners)
    (ht : t.IsPayment)
    (hfits : ∀ c ∈ (s.perform t).desk.store.customers.rows, Offer.fits c.id = true) :
    (s.perform t).desk.store.HasKeys ∧ (s.perform t).desk.store.HasOwners := by
  cases t with
  | pay p =>
    have hstore : (s.perform (.pay p)).desk.store = _ := storeAfter_eq
    rw [hstore] at hfits ⊢
    exact PaymentService.process_hasOwners ((Task.pay p).desk s) rfl hkeys hs hfits
  | passTime now => exact ⟨hkeys, hs⟩
  | _ => exact ht.elim

/-! ### Many payments -/

/-- The customers that are there in the end are those whose keys are looked at. -/
theorem fits_perform (hts : ∀ t ∈ ts, t.IsPayment)
    (hfits : ∀ c ∈ (s.performAll ts).desk.store.customers.rows, Offer.fits c.id = true) :
    ∀ c ∈ s.desk.store.customers.rows, Offer.fits c.id = true := by
  intro c hc
  exact hfits c ((customers_performAll hts).subset hc)

theorem hasOwners_performAll (hkeys : s.desk.store.HasKeys) (hs : s.desk.store.HasOwners)
    (hts : ∀ t ∈ ts, t.IsPayment)
    (hfits : ∀ c ∈ (s.performAll ts).desk.store.customers.rows, Offer.fits c.id = true) :
    (s.performAll ts).desk.store.HasKeys ∧ (s.performAll ts).desk.store.HasOwners := by
  induction ts generalizing s with
  | nil => exact ⟨hkeys, hs⟩
  | cons t ts ih =>
    rw [List.forall_mem_cons] at hts
    obtain ⟨hkeys, hs⟩ := hasOwners_perform hkeys hs hts.1 (fits_perform hts.2 hfits)
    exact ih hkeys hs hts.2 hfits

theorem methods_performAll (hkeys : s.desk.store.HasKeys) (hs : s.desk.store.HasOwners)
    (hts : ∀ t ∈ ts, t.IsPayment)
    (hfits : ∀ c ∈ (s.performAll ts).desk.store.customers.rows, Offer.fits c.id = true) :
    s.desk.store.methods.rows <+: (s.performAll ts).desk.store.methods.rows := by
  induction ts generalizing s with
  | nil => exact List.prefix_rfl
  | cons t ts ih =>
    rw [List.forall_mem_cons] at hts
    have hfirst := methods_perform hkeys hts.1
    obtain ⟨hkeys, hs⟩ := hasOwners_perform hkeys hs hts.1 (fits_perform hts.2 hfits)
    exact hfirst.trans (ih hkeys hs hts.2 hfits)

/-- A payment method that is there after some payments was there before, or one of them has written it. -/
theorem written_performAll (hkeys : s.desk.store.HasKeys) (hs : s.desk.store.HasOwners)
    (hts : ∀ t ∈ ts, t.IsPayment)
    (hfits : ∀ c ∈ (s.performAll ts).desk.store.customers.rows, Offer.fits c.id = true) {m : MethodRow}
    (hm : m ∈ (s.performAll ts).desk.store.methods.rows) :
    m ∈ s.desk.store.methods.rows ∨ ∃ before p after, ts = before ++ .pay p :: after ∧
      m ∈ (s.performAll before).methodsOf p := by
  induction ts generalizing s with
  | nil => exact .inl hm
  | cons t ts ih =>
    rw [List.forall_mem_cons] at hts
    have hfirst := methods_perform hkeys hts.1
    obtain ⟨hkeys, hs⟩ := hasOwners_perform hkeys hs hts.1 (fits_perform hts.2 hfits)
    rcases ih hkeys hs hts.2 hfits hm with hm | ⟨before, p, after, rfl, hlater⟩
    · rcases Table.mem_or_mem_since hfirst hm with hm | hm
      · exact .inl hm
      · right
        cases t with
        | pay p => exact ⟨[], p, ts, rfl, hm⟩
        | passTime now =>
          have hsame : (s.perform (.passTime now)).desk.store = s.desk.store := rfl
          rw [hsame, Table.since_self] at hm
          cases hm
        | _ => exact hts.1.elim
    · exact .inr ⟨t :: before, p, after, rfl, hlater⟩

/-- **Owners**: in a session in which nobody has paid yet and only payments are taken, no payment fails for
want of its method; a payment method has no owner exactly when its payment failed while the customer was
resolved, and belongs to a customer otherwise; customers own the payment methods with which they came;
transactions, logs and details name the customer who owns what they are about. -/
theorem keepsOwners (hs : s.desk.store.HasNoPayments) (hts : ∀ t ∈ ts, t.IsPayment)
    (hfits : ∀ c ∈ (s.performAll ts).desk.store.customers.rows, Offer.fits c.id = true) :
    s.KeepsOwners ts := by
  have hall := hasOwners_performAll hs.hasKeys hs.hasOwners hts hfits
  refine ⟨?_, hall.2, ?_, ?_⟩
  · intro before p after hsplit
    exact PaymentService.process_findsMethod ((Task.pay p).desk (s.performAll before)) rfl
  · intro m hm
    rcases written_performAll hs.hasKeys hs.hasOwners hts hfits hm with hm | hwritten
    · rw [hs.methods] at hm
      cases hm
    · exact hwritten
  · rintro before p after rfl m hm
    rw [List.forall_mem_append, List.forall_mem_cons] at hts
    obtain ⟨hbefore, hp, hafter⟩ := hts
    rw [performAll_append] at hfits ⊢
    -- The keys of the customers fit at every moment, because all customers are still there in the end.
    have hthen : ∀ c ∈ ((s.performAll before).storeAfter p).customers.rows, Offer.fits c.id = true :=
      fits_perform (s := (s.performAll before).perform (.pay p)) hafter hfits
    have hearlier := fits_perform (s := s.performAll before) (List.forall_mem_cons.2 ⟨hp, hafter⟩) hfits
    obtain ⟨hkeys, howners⟩ := hasOwners_performAll hs.hasKeys hs.hasOwners hbefore hearlier
    constructor
    · obtain ⟨hkeys', howners'⟩ := hasOwners_perform (t := .pay p) hkeys howners hp hthen
      exact (methods_performAll hkeys' howners' hafter hfits).subset (List.mem_of_mem_drop hm)
    · rw [storeAfter_eq] at hthen
      rw [methodsOf, storeAfter_eq] at hm
      exact PaymentService.process_isOwnerless_iff ((Task.pay p).desk (s.performAll before)) rfl hkeys
        hthen hm

/-! ### A trial -/

theorem hasNoPayments_trialSession : trialSession.desk.store.HasNoPayments :=
  ⟨⟨rfl, rfl, rfl, rfl, rfl, rfl⟩, rfl⟩

/-- A payment of someone whom the provider refuses to create as a customer. -/
def trialRefused : Payment :=
  { trialPayment with
    request := { trialRequest with name := "Refused" }
    replies := [.answered 409 "\x7b\"error_code\": 2003\x7d"] }

/-- A payment that fails while its customer is resolved, and three that do not. -/
def trialOwners : List Task := .pay trialRefused :: trialPayments

/-- The payment methods of the trial, and to whom they belong. -/
theorem trial_keepsOwners :
    trialSession.desk.store.HasNoPayments ∧ (∀ t ∈ trialOwners, t.IsPayment) ∧
      (∀ c ∈ (trialSession.performAll trialOwners).desk.store.customers.rows,
        Offer.fits c.id = true) ∧
      (trialSession.performAll trialOwners).desk.store.methods.rows.map
        (fun m => m.audit.createdBy) = [none, some 1, some 1, some 2] ∧
      trialSession.KeepsOwners trialOwners := by
  have hpayments : ∀ t ∈ trialOwners, t.IsPayment := by
    simp [trialOwners, trialPayments, Task.IsPayment]
  have hrows : (∀ c ∈ (trialSession.performAll trialOwners).desk.store.customers.rows,
        Offer.fits c.id = true) ∧
      (trialSession.performAll trialOwners).desk.store.methods.rows.map
        (fun m => m.audit.createdBy) = [none, some 1, some 1, some 2] := by
    decide +kernel
  obtain ⟨hfits, howners⟩ := hrows
  exact ⟨hasNoPayments_trialSession, hpayments, hfits, howners,
    keepsOwners hasNoPayments_trialSession hpayments hfits⟩

end Session

end CardPayments
