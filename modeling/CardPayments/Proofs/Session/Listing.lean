import CardPayments.Proofs.Payment.Documents
import CardPayments.Proofs.Payment.Ledger
import CardPayments.Proofs.Session.Reports
import CardPayments.Proofs.Store.Listing

/-!
# Reading transactions in a session

At every moment of a session, whatever is paid, written and deleted in it, lists of transactions and reports on
customers agree.  Right after a payment that has a result, its charge is the last transaction for the order: it is
the one by which the trial finds the customer whom it shows.  Both is `Session.listsExactly`.

What cannot be read is not listed: half of a surrogate pair is not looked for, and one amount with too many digits
stands in the way of a whole list (`Session.trial_unlisted`).
-/

namespace CardPayments

open Json

/-- A store has gained a token and a charge for an order, which has the result's name and comes behind all other
transactions. -/
structure Store.GainsCharge (s : Store) (request : PaymentRequest) (result : PaymentResult) (t : Store)
    (charge : TransactionRow) : Prop where
  rows : ∃ token, t.transactions.rows = s.transactions.rows ++ [token, charge] ∧ token.IsOf .tokenization ∧
    charge.Charges token
  kind : charge.IsOf .charge
  orderId : charge.orderId = some request.orderId
  transactionId : (Offer.value result.id).text = some charge.transactionId
  greatest : ∀ r ∈ t.transactions.rows, r.id ≤ charge.id

namespace Store

variable {s t : Store} {request : PaymentRequest} {result : PaymentResult} {charge r : TransactionRow}

theorem TransactionFilter.admits_ofOrder {order : Text} :
    (TransactionFilter.ofOrder order).Admits r ↔ r.orderId = some order :=
  ⟨fun h => h.orderId _ rfl, fun h => ⟨fun _ ho => h.trans ho, nofun, nofun⟩⟩

/-- A charge that was just gained is listed last for its order. -/
theorem GainsCharge.getLast? (h : s.GainsCharge request result t charge) (ht : t.transactions.IsKeyed)
    (horder : request.orderId.IsStorable)
    (hreadable : ∀ r ∈ t.transactions.rows, r.orderId = some request.orderId → r.IsReadable) :
    ∃ rows, t.askTransactions (.ofOrder request.orderId) = .ok rows ∧ rows.getLast? = some charge := by
  obtain ⟨rows, hrows, hlist⟩ := exists_askTransactions ht (TransactionFilter.isAskable_ofOrder horder)
    fun r hr hadmits => hreadable r hr (TransactionFilter.admits_ofOrder.1 hadmits)
  obtain ⟨token, hgained, -⟩ := h.rows
  have hthere : charge ∈ t.transactions.rows := by
    rw [hgained]
    exact List.mem_append_right _ (List.mem_cons_of_mem _ (List.mem_singleton_self charge))
  have hlisted := (hlist.mem_iff charge).2 ⟨hthere, TransactionFilter.admits_ofOrder.2 h.orderId⟩
  exact ⟨rows, hrows, hlist.getLast?_eq hlisted h.greatest⟩

end Store

namespace PaymentService

open Attempt

variable {s : PaymentService} {now : DateTime} {request : PaymentRequest} {d : Desk}

/-- What a whole payment gains ends with its charge. -/
theorem Attempt.gainsCharge {a : Attempt} {s : Store} {m : Logged} (hid : m.charge.id ≠ .null)
    (hrows : s.transactions.rows <+: (s.after (a.written (.charged m))).transactions.rows)
    (hfresh : (s.after (a.written (.charged m))).transactions.IsFresh) :
    s.GainsCharge a.request (a.result m.payer m.charge) (s.after (a.written (.charged m))) (a.chargeRow s m) where
  rows := by
    refine ⟨a.tokenRow s m.toTokenized, ?_, rfl, charges_tokenRow m⟩
    rw [Table.rows_eq_append_since hrows, since_whole.1]
  kind := rfl
  orderId := rfl
  transactionId := by
    show (Offer.value m.charge.id).text = some (Offer.value m.charge.id).requiredText
    rw [Offer.text_value hid, Offer.requiredText_value hid]
  greatest := by
    -- It was written last, so that its key is right below the next one.
    have hnext : (s.after (a.written (.charged m))).transactions.next = (a.chargeRow s m).id + 1 := by
      rw [written_charged, Store.after_append]
      rfl
    intro r hr
    have hless := hfresh r hr
    rw [hnext] at hless
    exact Nat.le_of_lt_succ hless

/-- A payment that has a result leaves a charge behind all other transactions, for an order that can be stored. -/
theorem process_gainsCharge (hd : d.methodVanishes = false) (hs : d.store.IsSound) {result : PaymentResult}
    (hresult : (d.run (s.process now request)).1 = .ok result) : request.orderId.IsStorable ∧
      ∃ charge, d.store.GainsCharge request result (d.run (s.process now request)).2.store charge := by
  have hsound := (Desk.passes_end (s.process now request) d).isSound hs
  rcases s.process_course now request d hd with
    ⟨e, _, _, hr, _⟩ | ⟨a, g, before, last, ha, hsteps, hhalts, _, hreached, _, _, hfinal⟩
  · rw [hresult] at hr
    cases hr
  rw [hresult] at hhalts
  obtain ⟨m, rfl⟩ := hhalts.ok_iff.1 ⟨result, rfl⟩
  obtain ⟨year, month, rfl⟩ := eq_of_attempt ha
  rw [hfinal] at hsound ⊢
  cases hhalts with
  | paid =>
    have hextends := hreached.agrees.extends hs.keys.methods.fresh
    -- The order was stored with the token already.
    exact ⟨(hreached.tokenized rfl).isStorable.order, _, Attempt.gainsCharge
      (id_ne_null_of_chargeOf (hsteps.heard trivial).charge) hextends.transactions hsound.keys.transactions.fresh⟩

end PaymentService

namespace Session

open Store

variable {s : Session} {charge : TransactionRow} {rows : List TransactionRow}

/-- The trial shows the customer of the transaction that is listed last for its order. -/
theorem run_trialCustomer (hrows : s.desk.store.askTransactions (.ofOrder trialRequest.orderId) = .ok rows)
    (hlast : rows.getLast? = some charge) : (trialCustomer.run.run s).1 =
      (Report.customerWithKey s.desk.store (.int charge.customerId)).map some := by
  have hask {f : Store → Except Failure (Option Value)} : ((ask f).run.run s).1 = f s.desk.store :=
    congrArg Prod.fst (run_lift (f s.desk.store) s)
  rw [TransactionFilter.ofOrder] at hrows
  rw [trialCustomer, hask, hrows]
  simp only [bind, Except.bind, hlast]
  cases Report.customerWithKey s.desk.store (.int charge.customerId) <;> rfl

/-- What is to be said of reading transactions in the course of some tasks. -/
structure ListsExactly (s : Session) (ts : List Task) : Prop where
  /-- At every moment lists and reports agree. -/
  reached : ∀ ds u, s.Reaches ts ds u → u.ListsExactly
  /-- After a payment that has a result its charge is the last transaction for the order.  If those for the order
  can be read, it is listed last, and the trial reports on its customer. -/
  last : ∀ before p after result, ts = before ++ .pay p :: after →
    (s.performAll before).resultOf p = .ok result →
      let t := (s.performAll before).storeAfter p
      ∃ charge, (s.performAll before).desk.store.GainsCharge p.request result t charge ∧
        ((∀ r ∈ t.transactions.rows, r.orderId = some p.request.orderId → r.IsReadable) →
          (∃ rows, t.askTransactions (.ofOrder p.request.orderId) = .ok rows ∧ rows.getLast? = some charge) ∧
          (p.request.orderId = trialRequest.orderId →
            (trialCustomer.run.run ((s.performAll before).perform (.pay p))).1 =
              (Report.customerWithKey t (.int charge.customerId)).map some))

/-- **Lists and reports agree**: in a session that begins with intact references, whatever is paid, written and
deleted in it, at every moment a filter lists the transactions that satisfy it, each one once and in the order of
their keys, the report on a customer shows the same of them as the list for the customer, and neither depends on
check values; and right after a payment with a result, the last transaction for the order is its charge. -/
theorem listsExactly (hs : s.desk.store.IsSound) (ts : List Task) : s.ListsExactly ts where
  reached _ _ h := Store.listsExactly_of_isSound (h.isSound hs)
  last := by
    rintro before p after result - hresult t
    have hbefore : (s.performAll before).desk.store.IsSound := (reaches_end s before).isSound hs
    have hafter : t.IsSound := isSound_perform hbefore (.pay p)
    obtain ⟨horder, charge, hcharge⟩ :=
      PaymentService.process_gainsCharge (d := (Task.pay p).desk (s.performAll before)) rfl hbefore hresult
    rw [store_desk, ← storeAfter_eq] at hcharge
    refine ⟨charge, hcharge, fun hreadable => ?_⟩
    obtain ⟨rows, hrows, hlast⟩ := hcharge.getLast? hafter.keys.transactions horder hreadable
    refine ⟨⟨rows, hrows, hlast⟩, fun htrial => run_trialCustomer ?_ hlast⟩
    rw [← htrial]
    exact hrows

/-! ### Trials -/

theorem isSound_trialSession : trialSession.desk.store.IsSound := by
  refine hasNoPayments_trialSession.isSound ⟨fun r hr => ?_, List.nodup_singleton _⟩
  rw [List.mem_singleton.1 hr]
  decide

/-- Two customers pay for one order, one of them twice; then a transaction is deleted. -/
def trialShared : List Task := trialPayments ++ [.delete .transaction (.int 3)]

theorem trial_listsExactly :
    trialSession.desk.store.IsSound ∧
      ((trialSession.performAll trialShared).desk.store.askTransactions
        (.ofOrder trialRequest.orderId)).toOption.map (List.map fun r => (r.id, r.customerId)) =
          some [(1, 1), (2, 1), (4, 1), (5, 2), (6, 2)] ∧
      ((trialSession.performAll trialShared).desk.store.loadTransactionsOf 1).toOption.map
        (List.map TransactionRow.id) = some [1, 2, 4] ∧
      trialSession.ListsExactly trialShared :=
  ⟨isSound_trialSession, by decide +kernel, by decide +kernel, listsExactly isSound_trialSession trialShared⟩

/-- There is no list for an order that is half of a surrogate pair, although no transaction is for it, and none for
a customer with a key that does not fit 64 bits.  After a payment by a charge of an amount with too many digits,
which has a result, there is no list for its order and no report on its customer. -/
theorem trial_unlisted :
    (¬∃ rows, trialSession.desk.store.askTransactions (.ofOrder [CodePoint.ofNat 0xD800]) = .ok rows) ∧
      (¬∃ rows, trialSession.desk.store.askTransactions (.ofCustomer 9223372036854775808) = .ok rows) ∧
      (∃ result, trialSession.resultOf trialVast = .ok result) ∧
      (¬∃ rows, (trialSession.storeAfter trialVast).askTransactions (.ofOrder trialVast.request.orderId) =
        .ok rows) ∧
      ¬∃ report, Report.customerWithKey (trialSession.storeAfter trialVast) (.int 1) = .ok report := by
  simp only [← isOk_iff]
  decide +kernel

end Session

end CardPayments
