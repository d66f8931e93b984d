import CardPayments.Proofs.Payment.Reuse
import CardPayments.Proofs.Session.Task

/-!
# Customers over many payments

Payments are taken one after the other, each succeeding or failing anywhere, while time passes between
them.  If no two customers have the same name and address when they begin, then this is so at every moment,
a customer is created at the provider exactly when there is none, and whoever pays again is the same
customer, whom nobody else ever becomes: `Session.reusesCustomers`.

A name or an address that holds half of a surrogate pair cannot be looked for.  Such a payment ends after
its method is written, and never reaches the provider (`Session.trial_unencodable`).
-/

namespace CardPayments

namespace Session

variable {s : Session} {p q : Payment} {t : Task} {ts before between after : List Task}

/-- A task takes a payment or lets time pass. -/
def Task.IsPayment : Task → Prop
  | .pay _ => True
  | .passTime _ => True
  | _ => False

/-- The calls of a payment. -/
def exchanges (s : Session) (p : Payment) : List Exchange :=
  ((Task.pay p).desk s).exchanges (p.service.process s.now p.request)

/-- The store after a payment. -/
def storeAfter (s : Session) (p : Payment) : Store := (s.perform (.pay p)).desk.store

/-! ### One payment -/

theorem storeAfter_eq :
    s.storeAfter p =
      (((Task.pay p).desk s).run (p.service.process s.now p.request)).2.store := by
  rw [storeAfter, perform_eq (t := .pay p) fun _ _ => nofun, Task.program, (Desk.run_forget _ _).1]

/-- At every moment of such a task no two customers have the same name and address. -/
theorem isConsistent_during (hs : s.desk.store.IsConsistent) (ht : t.IsPayment) {ds : List Deed}
    {u : Store} (h : Desk.Passes (t.program s) (t.desk s) ds u) : u.IsConsistent := by
  cases t with
  | pay p =>
    rw [Task.program, Desk.passes_forget] at h
    exact p.service.isConsistent_passes s.now p.request ((Task.pay p).desk s) rfl hs h
  | passTime now =>
    cases h with
    | here => exact hs
  | _ => exact ht.elim

/-- Such a task keeps it so that no two customers have the same name and address. -/
theorem isConsistent_perform (hs : s.desk.store.IsConsistent) (ht : t.IsPayment) :
    (s.perform t).desk.store.IsConsistent := by
  have hkeeps : ∀ entity key, t ≠ .delete entity key := by
    rintro entity key rfl
    exact ht
  rw [perform_eq hkeeps]
  -- The last moment of the task is one of its moments.
  exact isConsistent_during hs ht (Desk.passes_end (t.program s) (t.desk s))

/-- Such a task leaves all customers where they are. -/
theorem customers_perform (ht : t.IsPayment) :
    s.desk.store.customers.rows <+: (s.perform t).desk.store.customers.rows := by
  cases t with
  | pay p =>
    show _ <+: (s.storeAfter p).customers.rows
    rw [storeAfter_eq]
    exact p.service.customers_process s.now p.request ((Task.pay p).desk s) rfl
  | passTime now => exact List.prefix_rfl
  | _ => exact ht.elim

/-! ### Many payments -/

theorem isConsistent_performAll (hs : s.desk.store.IsConsistent) (hts : ∀ t ∈ ts, t.IsPayment) :
    (s.performAll ts).desk.store.IsConsistent := by
  induction ts generalizing s with
  | nil => exact hs
  | cons t ts ih =>
    rw [List.forall_mem_cons] at hts
    exact ih (isConsistent_perform hs hts.1) hts.2

theorem customers_performAll (hts : ∀ t ∈ ts, t.IsPayment) :
    s.desk.store.customers.rows <+: (s.performAll ts).desk.store.customers.rows := by
  induction ts generalizing s with
  | nil => exact List.prefix_rfl
  | cons t ts ih =>
    rw [List.forall_mem_cons] at hts
    exact (customers_perform hts.1).trans (ih hts.2)

theorem performAll_append : s.performAll (ts ++ before) = (s.performAll ts).performAll before :=
  List.foldl_append

/-- What is to be said of customers in the course of payments that are taken in a session. -/
structure ReusesCustomers (s : Session) (ts : List Task) : Prop where
  /-- At no moment do two customers have the same name and address. -/
  distinct : ∀ ds u, s.Reaches ts ds u → u.HasDistinctCustomers
  /-- A payment that has written its payment method creates the customer at the provider exactly when there
  was none of its name and address when it began, and both can be looked for. -/
  creates_iff : ∀ before p after, ts = before ++ .pay p :: after →
    ((s.performAll before).storeAfter p).methods.since (s.performAll before).desk.store.methods ≠ [] →
      ((∃ x ∈ (s.performAll before).exchanges p, p.service.Posts "customers" x) ↔
        ¬(s.performAll before).desk.store.HasCustomer p.request.name p.request.email ∧
          p.request.name.IsStorable ∧ p.request.email.IsStorable)
  /-- A payment reuses the customer of its name and address. -/
  reuses : ∀ before p after, ts = before ++ .pay p :: after →
    ∀ c ∈ (s.performAll before).desk.store.customers.rows, c.name = p.request.name →
      c.email = p.request.email →
        p.service.Reuses (s.performAll before).desk.store ((s.performAll before).storeAfter p)
          ((s.performAll before).exchanges p) c
  /-- The rows of payments with different names or addresses never name the same customer. -/
  apart : ∀ before p between q after, ts = before ++ .pay p :: (between ++ .pay q :: after) →
    ∀ customer,
      (s.performAll before).desk.store.GainsRowsOf customer ((s.performAll before).storeAfter p) →
      (s.performAll (before ++ .pay p :: between)).desk.store.GainsRowsOf customer
        ((s.performAll (before ++ .pay p :: between)).storeAfter q) →
      p.request.name = q.request.name ∧ p.request.email = q.request.email

/-- A customer that is named by the rows of a payment is that of its name and address. -/
theorem exists_of_gainsRowsOf (hs : s.desk.store.IsConsistent) {customer : Nat}
    (h : s.desk.store.GainsRowsOf customer (s.storeAfter p)) :
    ∃ c ∈ (s.storeAfter p).customers.rows, c.id = customer ∧ c.name = p.request.name ∧
      c.email = p.request.email := by
  rw [storeAfter_eq] at h ⊢
  exact p.service.exists_of_gainsRowsOf_process s.now p.request ((Task.pay p).desk s) rfl hs h

/-- Two payments that name the same customer have the same name and address. -/
theorem eq_of_gainsRowsOf (hs : s.desk.store.IsConsistent) (hts : ∀ t ∈ between, t.IsPayment)
    {customer : Nat} (hp : s.desk.store.GainsRowsOf customer (s.storeAfter p))
    (hq : ((s.perform (.pay p)).performAll between).desk.store.GainsRowsOf customer
      (((s.perform (.pay p)).performAll between).storeAfter q)) :
    p.request.name = q.request.name ∧ p.request.email = q.request.email := by
  have hfirst : (s.perform (.pay p)).desk.store.IsConsistent := isConsistent_perform hs trivial
  have hsecond := isConsistent_performAll hfirst hts
  obtain ⟨c, hc, hid, hname, hemail⟩ := exists_of_gainsRowsOf hs hp
  obtain ⟨c', hc', hid', hname', hemail'⟩ := exists_of_gainsRowsOf hsecond hq
  -- The first customer is still there after the second payment, and its key is that of one row only.
  have hlast := isConsistent_perform (t := .pay q) hsecond trivial
  have hstays : (s.storeAfter p).customers.rows <+:
      (((s.perform (.pay p)).performAll between).storeAfter q).customers.rows :=
    (customers_performAll hts).trans (customers_perform (t := .pay q) trivial)
  have heq : c = c' := hlast.customers.eq_of_key_eq (hstays.subset hc) hc' (hid.trans hid'.symm)
  rw [← hname, ← hemail, ← hname', ← hemail', heq]
  exact ⟨rfl, rfl⟩

/-- **Customers are reused**: in a session in which no two customers have the same name and address when it
begins, and in which only payments are taken, this stays so at every moment; a customer is created at the
provider exactly when there is none of the name and address; a customer that is there is the one of every
later payment with its name and address, and of no other. -/
theorem reusesCustomers (hs : s.desk.store.IsConsistent) (hts : ∀ t ∈ ts, t.IsPayment) :
    s.ReusesCustomers ts := by
  have hbefore {before after : List Task} {t : Task} (h : ts = before ++ t :: after) :
      ∀ t ∈ before, t.IsPayment := by
    intro t ht
    rw [h] at hts
    exact hts t (List.mem_append_left _ ht)
  refine ⟨?_, ?_, ?_, ?_⟩
  · intro ds u hreached
    have hmoment := Reaches.induct (I := fun s _ => s.desk.store.IsConsistent)
      (P := fun _ u => u.IsConsistent) (fun s past hs => hs)
      (fun s past t ds u ht hs hpasses => isConsistent_during hs ht hpasses)
      (fun s past t ht hs => isConsistent_perform hs ht) hts [] hs hreached
    exact hmoment.distinct
  · intro before p after hsplit hgained
    rw [storeAfter_eq] at hgained
    exact p.service.process_posts_customers_iff _ p.request ((Task.pay p).desk (s.performAll before)) rfl
      hgained
  · intro before p after hsplit c hc hname hemail
    rw [storeAfter_eq]
    exact p.service.process_reuses _ p.request ((Task.pay p).desk (s.performAll before)) rfl
      (isConsistent_performAll hs (hbefore hsplit)) hc hname hemail
  · intro before p between q after hsplit customer hp hq
    rw [performAll_append] at hq
    have hbetween : ∀ t ∈ between, t.IsPayment := by
      intro t ht
      rw [hsplit] at hts
      exact hts t (List.mem_append_right _ (List.mem_cons_of_mem _ (List.mem_append_left _ ht)))
    exact eq_of_gainsRowsOf (isConsistent_performAll hs (hbefore hsplit)) hbetween hp hq

/-! ### Trials -/

theorem isConsistent_trialSession : trialSession.desk.store.IsConsistent :=
  ⟨Table.isFresh_empty, Table.isKeyed_of_rows_eq_nil rfl, List.Pairwise.nil⟩

/-- A payment of a customer who is known. -/
def trialReturn : Payment := { trialPayment with replies := trialPayment.replies.tail }

/-- A payment of someone whose name differs in the case of its letters. -/
def trialStranger : Payment := { trialPayment with request := { trialRequest with name := "SMOKE TEST" } }

/-- Two payments, of which the second reuses the customer, and one of someone else. -/
def trialPayments : List Task := [.pay trialPayment, .pay trialReturn, .pay trialStranger]

theorem trial_reuses :
    trialSession.desk.store.IsConsistent ∧ (∀ t ∈ trialPayments, t.IsPayment) ∧
      (trialSession.performAll trialPayments).desk.store.transactions.rows.map
        TransactionRow.customerId = [1, 1, 1, 1, 2, 2] ∧
      (trialSession.performAll trialPayments).desk.store.customers.rows.map CustomerRow.id = [1, 2] ∧
      trialSession.ReusesCustomers trialPayments := by
  have hpayments : ∀ t ∈ trialPayments, t.IsPayment := by
    simp [trialPayments, Task.IsPayment]
  have hrows : (trialSession.performAll trialPayments).desk.store.transactions.rows.map
      TransactionRow.customerId = [1, 1, 1, 1, 2, 2] ∧
        (trialSession.performAll trialPayments).desk.store.customers.rows.map CustomerRow.id = [1, 2] := by
    decide +kernel
  exact ⟨isConsistent_trialSession, hpayments, hrows.1, hrows.2,
    reusesCustomers isConsistent_trialSession hpayments⟩

/-- A payment of someone whose name is half of a surrogate pair. -/
def trialUnencodable : Payment :=
  { trialPayment with request := { trialRequest with name := [CodePoint.ofNat 0xD800] } }

/-- Such a payment writes its payment method, there is no customer of its name and address, and still none
is created at the provider. -/
theorem trial_unencodable :
    trialSession.desk.store.IsConsistent ∧
      (trialSession.storeAfter trialUnencodable).methods.since trialSession.desk.store.methods ≠ [] ∧
      ¬((∃ x ∈ trialSession.exchanges trialUnencodable, trialUnencodable.service.Posts "customers" x) ↔
        ¬trialSession.desk.store.HasCustomer trialUnencodable.request.name
          trialUnencodable.request.email) := by
  have hmethod : (trialSession.storeAfter trialUnencodable).methods.since
      trialSession.desk.store.methods ≠ [] := by
    decide +kernel
  have hcalls : ¬∃ x ∈ trialSession.exchanges trialUnencodable,
      trialUnencodable.service.Posts "customers" x := by
    decide +kernel
  refine ⟨isConsistent_trialSession, hmethod, fun hposts => hcalls (hposts.2 ?_)⟩
  rintro ⟨c, hc, _⟩
  cases hc

end Session

end CardPayments
