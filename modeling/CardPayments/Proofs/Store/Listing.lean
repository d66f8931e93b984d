import CardPayments.Proofs.Store.Integrity
import CardPayments.Proofs.Store.Lookup
import CardPayments.Proofs.Store.Report
import Mathlib.Data.Multiset.Defs

/-!
# Transactions in lists and in reports

Transactions are read in two ways: those that pass a filter are listed, and those of a customer come with the
report on the customer.  `Store.ListsExactly` says that in a store with intact references both ways show the
same transactions, each with its own states (`Store.listsExactly_of_isSound`).

Three things may stand in the way.  A filter is not put to the store when one of its texts holds half of a
surrogate pair or its key does not fit 64 bits, and nothing is loaded when one of the amounts cannot be read.
-/

namespace CardPayments

open Json

namespace Store

variable {s t : Store} {f : TransactionFilter} {r : TransactionRow} {rows : List TransactionRow}

/-! ### Filters -/

namespace TransactionFilter

/-- The transactions of a customer. -/
def ofCustomer (key : Nat) : TransactionFilter := ⟨none, some (some key), none⟩

/-- The transactions for an order. -/
def ofOrder (order : Text) : TransactionFilter := ⟨some order, none, none⟩

/-- A transaction satisfies every condition that is given. -/
structure Admits (f : TransactionFilter) (r : TransactionRow) : Prop where
  orderId : ∀ o, f.orderId = some o → r.orderId = some o
  customer : ∀ c, f.customer = some c → c = some r.customerId
  types : ∀ ts, f.types = some ts → r.transactionType ∈ ts

theorem admits_iff : f.admits r = true ↔ f.Admits r := by
  simp only [admits, Bool.and_eq_true, Option.all_eq_true, decide_eq_true_eq, List.contains_iff_mem]
  exact ⟨fun ⟨⟨ho, hc⟩, ht⟩ => ⟨ho, hc, ht⟩, fun ⟨ho, hc, ht⟩ => ⟨⟨ho, hc⟩, ht⟩⟩

/-- All texts of a filter can be stored, and its key fits 64 bits. -/
structure IsPlain (f : TransactionFilter) : Prop where
  orderId : ∀ o, f.orderId = some o → o.IsStorable
  customer : ∀ key, f.customer = some (some key) → Offer.fits key = true
  types : ∀ ts, f.types = some ts → ∀ t ∈ ts, t.IsStorable

/-- A filter can be put to a store.  One that admits no kind always can, as the store is not asked then. -/
def IsAskable (f : TransactionFilter) : Prop := f.types = some [] ∨ f.IsPlain

theorem isAskable_ofCustomer {key : Nat} (h : Offer.fits key = true) : (ofCustomer key).IsAskable := by
  refine .inr ⟨nofun, fun key' hkey => ?_, nofun⟩
  obtain rfl : key = key' := Option.some.inj (Option.some.inj hkey)
  exact h

theorem isAskable_ofOrder {order : Text} (h : order.IsStorable) : (ofOrder order).IsAskable := by
  refine .inr ⟨fun o ho => ?_, nofun, nofun⟩
  obtain rfl : order = o := Option.some.inj ho
  exact h

/-- Why a filter may not be put to a store. -/
def IsFault (e : Failure) : Prop :=
  e = .integerTooLarge ∨ ∃ unit position count, e = .unencodable unit position count

theorem isFault_of_textFault {text : Text} {e : Failure} (h : Offer.textFault text = some e) : IsFault e := by
  have hnot : ¬text.IsStorable := by
    rw [← Offer.textFault_eq_none, h]
    nofun
  obtain ⟨unit, position, count, hfault⟩ := exists_textFault hnot
  rw [h] at hfault
  exact .inr ⟨unit, position, count, Option.some.inj hfault⟩

theorem fault?_eq_none : f.fault? = none ↔ f.IsAskable := by
  unfold fault? IsAskable
  split_ifs with hnone
  · exact iff_of_true rfl (.inl hnone)
  · rw [or_iff_right hnone]
    simp only [Option.or_eq_none_iff, Option.bind_eq_none_iff, Option.join_eq_some_iff,
      List.findSome?_eq_none_iff, Offer.textFault_eq_none, ite_eq_left_iff, reduceCtorEq, imp_false, not_not]
    constructor
    · rintro ⟨ho, hc, ht⟩
      exact ⟨ho, hc, fun ts hts => by rwa [hts] at ht⟩
    · rintro ⟨ho, hc, ht⟩
      refine ⟨ho, hc, ?_⟩
      cases hts : f.types with
      | none => exact List.forall_mem_nil _
      | some ts => exact ht ts hts

theorem isFault_of_fault? {e : Failure} (h : f.fault? = some e) : IsFault e := by
  unfold fault? at h
  split_ifs at h
  -- The order is looked at first, then the customer, and then the kinds.
  rcases Option.or_eq_some_iff.1 h with horder | ⟨-, h⟩
  · obtain ⟨o, -, ho⟩ := Option.bind_eq_some_iff.1 horder
    exact isFault_of_textFault ho
  rcases Option.or_eq_some_iff.1 h with hkey | ⟨-, h⟩
  · obtain ⟨key, -, hkey⟩ := Option.bind_eq_some_iff.1 hkey
    split_ifs at hkey
    exact .inl (Option.some.inj hkey).symm
  · obtain ⟨t, -, ht⟩ := List.exists_of_findSome?_eq_some h
    exact isFault_of_textFault ht

end TransactionFilter

open TransactionFilter

/-! ### Lists -/

/-- The transactions of a store with a property, each one once, in the order of their keys. -/
structure IsListOf (s : Store) (P : TransactionRow → Prop) (rows : List TransactionRow) : Prop where
  sorted : rows.Pairwise fun r r' => r.id < r'.id
  mem_iff : ∀ r, r ∈ rows ↔ r ∈ s.transactions.rows ∧ P r

theorem isListOf_oldestFirst (hs : s.transactions.IsKeyed) :
    s.IsListOf f.Admits (oldestFirst (s.listTransactions f)) where
  sorted := pairwise_lt_oldestFirst (hs.distinct.sublist (List.filter_sublist.map _))
  mem_iff r := by rw [mem_oldestFirst, listTransactions, List.mem_filter, admits_iff]

/-- If the transaction with the greatest key is in a list, it is the last one there. -/
theorem IsListOf.getLast?_eq {P : TransactionRow → Prop} (h : s.IsListOf P rows) (hr : r ∈ rows)
    (hgreatest : ∀ r' ∈ s.transactions.rows, r'.id ≤ r.id) : rows.getLast? = some r := by
  obtain ⟨older, last, rfl⟩ := (List.eq_nil_or_concat' rows).resolve_left (List.ne_nil_of_mem hr)
  have hsorted := h.sorted
  rw [List.pairwise_append] at hsorted
  rcases List.mem_append.1 hr with holder | hlast
  · -- Behind it there would be one with a greater key.
    have hless := hsorted.2.2 r holder last (List.mem_singleton_self last)
    have hle := hgreatest last ((h.mem_iff last).1 (List.mem_append_right _ (List.mem_singleton_self last))).1
    exact absurd hless (not_lt_of_ge hle)
  · rw [List.mem_singleton.1 hlast, List.getLast?_concat]

/-! ### Loading -/

theorem loadTransactions_eq_ok {rows' : List TransactionRow} :
    loadTransactions rows = .ok rows' ↔ rows' = rows ∧ ∀ r ∈ rows, r.IsReadable := by
  by_cases h : ∀ r ∈ rows, r.IsReadable
  · rw [loadTransactions_of_forall h, Except.ok.injEq, eq_comm, and_iff_left h]
  · rw [loadTransactions_of_not_forall h]
    exact ⟨nofun, fun hall => absurd hall.2 h⟩

/-- What is loaded, or the failure, does not depend on the order in which transactions come. -/
theorem loadTransactions_perm {rows' : List TransactionRow} (h : rows.Perm rows') :
    (loadTransactions rows).map Multiset.ofList = (loadTransactions rows').map Multiset.ofList := by
  -- Which of them can be read is the same in both orders.
  by_cases hall : ∀ r ∈ rows, r.IsReadable
  · rw [loadTransactions_of_forall hall, loadTransactions_of_forall fun r hr => hall r (h.mem_iff.2 hr)]
    exact congrArg Except.ok (Quot.sound h)
  · rw [loadTransactions_of_not_forall hall,
      loadTransactions_of_not_forall fun hall' => hall fun r hr => hall' r (h.mem_iff.1 hr)]

theorem askTransactions_of_isAskable (h : f.IsAskable) :
    s.askTransactions f = loadTransactions (oldestFirst (s.listTransactions f)) := by
  rw [askTransactions, fault?_eq_none.2 h]

theorem askTransactions_of_not_isAskable (h : ¬f.IsAskable) :
    ∃ e, s.askTransactions f = .error e ∧ IsFault e := by
  obtain ⟨e, he⟩ := Option.ne_none_iff_exists'.1 (mt fault?_eq_none.1 h)
  exact ⟨e, by rw [askTransactions, he], isFault_of_fault? he⟩

/-- The transactions that pass a filter are listed if their amounts can be read. -/
theorem exists_askTransactions (hs : s.transactions.IsKeyed) (h : f.IsAskable)
    (hreadable : ∀ r ∈ s.transactions.rows, f.Admits r → r.IsReadable) :
    ∃ rows, s.askTransactions f = .ok rows ∧ s.IsListOf f.Admits rows := by
  have hlist : s.IsListOf f.Admits (oldestFirst (s.listTransactions f)) := isListOf_oldestFirst hs
  refine ⟨_, ?_, hlist⟩
  rw [askTransactions_of_isAskable h]
  refine loadTransactions_of_forall fun r hr => ?_
  obtain ⟨hmem, hadmits⟩ := (hlist.mem_iff r).1 hr
  exact hreadable r hmem hadmits

theorem askTransactions_of_unreadable (h : f.IsAskable) (hr : r ∈ s.transactions.rows) (hadmits : f.Admits r)
    (hunreadable : ¬r.IsReadable) : s.askTransactions f = .error (.decimal .outOfBounds) := by
  rw [askTransactions_of_isAskable h]
  refine loadTransactions_of_not_forall fun hall => hunreadable (hall r ?_)
  rw [mem_oldestFirst, listTransactions, List.mem_filter, admits_iff]
  exact ⟨hr, hadmits⟩

/-! ### The transactions of a customer -/

theorem listTransactions_ofCustomer {key : Nat} : s.listTransactions (ofCustomer key) = s.transactionsOf key := by
  refine List.filter_congr fun r _ => ?_
  rw [Bool.eq_iff_iff, admits_iff, decide_eq_true_eq]
  constructor
  · intro h
    exact (Option.some.inj (h.customer _ rfl)).symm
  · rintro rfl
    exact ⟨nofun, fun c hc => (Option.some.inj hc).symm, nofun⟩

/-- The list of the transactions of a customer holds the same as the history of the customer. -/
theorem askTransactions_ofCustomer {key : Nat} (h : Offer.fits key = true) :
    (s.askTransactions (ofCustomer key)).map Multiset.ofList = (s.loadTransactionsOf key).map Multiset.ofList := by
  rw [askTransactions_of_isAskable (isAskable_ofCustomer h), loadTransactionsOf, listTransactions_ofCustomer]
  exact loadTransactions_perm perm_oldestFirst

/-- Every transaction is one of exactly one customer. -/
theorem IsSound.existsUnique_customer (hs : s.IsSound) (hr : r ∈ s.transactions.rows) :
    ∃! c, c ∈ s.customers.rows ∧ r ∈ s.transactionsOf c.id := by
  -- The customer is there as references are intact, and is the only one as keys are distinct.
  obtain ⟨c, hc, hkey⟩ := Table.has_iff.1 (hs.intact.transactions r hr)
  have hmine {c : CustomerRow} : r ∈ s.transactionsOf c.id ↔ r.customerId = c.id := by
    rw [transactionsOf, List.mem_filter, decide_eq_true_eq, and_iff_right hr]
  refine ⟨c, ⟨hc, hmine.2 hkey.symm⟩, ?_⟩
  rintro c' ⟨hc', hr'⟩
  exact hs.keys.customers.eq_of_key_eq hc' hc ((hmine.1 hr').symm.trans hkey.symm)

end Store

/-! ### What a report shows -/

namespace Report

open Store

variable {s : Store} {f : TransactionFilter} {r : TransactionRow} {c : CustomerRow} {v : Value}

/-- A report shows a transaction under its key, with exactly the states that it had. -/
structure Shows (s : Store) (r : TransactionRow) (v : Value) : Prop where
  whole : transaction s r = .ok v
  own : ∃ fields states, v = .object fields ∧ Value.lookup? "id" fields = some (.int r.id) ∧
    Value.lookup? "status_history" fields = some (.list states) ∧
    List.Forall₂ (fun h state => status h = .ok state) (s.historyOf r.id) states

theorem shows_of_transaction (h : transaction s r = .ok v) : Shows s r v := by
  have hwhole := h
  unfold transaction at h
  obtain ⟨amount, -, h⟩ := bind_eq_ok.1 h
  obtain ⟨states, hstates, h⟩ := bind_eq_ok.1 h
  obtain ⟨created, -, h⟩ := bind_eq_ok.1 h
  obtain ⟨updated, -, h⟩ := bind_eq_ok.1 h
  obtain ⟨date, -, h⟩ := bind_eq_ok.1 h
  obtain rfl := pure_eq_ok.1 h
  exact ⟨hwhole, _, states, rfl, rfl, rfl, mapM_eq_ok.1 hstates⟩

/-- The transactions in a report on a customer. -/
theorem nested_of_customer {report : Value} (h : customer s c = .ok report) :
    ∃ fields nested, report = .object fields ∧ Value.lookup? "card_transactions" fields = some (.list nested) ∧
      (∀ r ∈ s.transactionsOf c.id, r.IsReadable) ∧ transactions s (s.transactionsOf c.id) = .ok nested := by
  unfold customer at h
  obtain ⟨rows, hrows, h⟩ := bind_eq_ok.1 h
  obtain ⟨nested, hnested, h⟩ := bind_eq_ok.1 h
  obtain ⟨created, -, h⟩ := bind_eq_ok.1 h
  obtain rfl := pure_eq_ok.1 h
  obtain ⟨rfl, hreadable⟩ := loadTransactions_eq_ok.1 hrows
  exact ⟨_, nested, rfl, rfl, hreadable, hnested⟩

theorem listed_eq_ok {shown : Value} : listed s f true = .ok shown ↔ ∃ rows values,
    s.askTransactions f = .ok rows ∧ transactions s rows = .ok values ∧ shown = .list values := by
  simp only [listed, if_true, bind_eq_ok, pure_eq_ok, exists_and_left]

/-- In whatever order transactions are reported, the same is shown of them. -/
theorem transactions_perm {rows rows' : List TransactionRow} (h : rows'.Perm rows) {values : List Value}
    (hvalues : transactions s rows = .ok values) :
    ∃ values', transactions s rows' = .ok values' ∧ values.Perm values' := by
  obtain ⟨values', hvalues', hperm⟩ := List.perm_comp_forall₂ h (mapM_eq_ok.1 hvalues)
  exact ⟨values', mapM_eq_ok.2 hvalues', hperm.symm⟩

/-- What a report on a customer shows of transactions is what a list of them shows. -/
theorem nested_perm_listed {report : Value} (hfits : Offer.fits c.id = true) (h : customer s c = .ok report) :
    ∃ fields nested values, report = .object fields ∧
      Value.lookup? "card_transactions" fields = some (.list nested) ∧
      listed s (.ofCustomer c.id) true = .ok (.list values) ∧ nested.Perm values := by
  obtain ⟨fields, nested, hfields, hlookup, hreadable, hnested⟩ := nested_of_customer h
  -- The list puts in order what the report takes as it comes.
  have hperm : (oldestFirst (s.listTransactions (.ofCustomer c.id))).Perm (s.transactionsOf c.id) := by
    rw [listTransactions_ofCustomer]
    exact perm_oldestFirst
  obtain ⟨values, hvalues, hsame⟩ := transactions_perm hperm hnested
  refine ⟨fields, nested, values, hfields, hlookup, listed_eq_ok.2 ⟨_, values, ?_, hvalues, rfl⟩, hsame⟩
  rw [askTransactions_of_isAskable (TransactionFilter.isAskable_ofCustomer hfits)]
  exact loadTransactions_of_forall fun r hr => hreadable r (hperm.mem_iff.1 hr)

end Report

/-! ### Check values -/

/-- The transaction without its masked check value. -/
def TransactionRow.withoutCheck (r : TransactionRow) : TransactionRow := { r with cardCheck := [] }

/-- The store without masked check values. -/
def Store.withoutChecks (s : Store) : Store :=
  { s with transactions := { s.transactions with rows := s.transactions.rows.map TransactionRow.withoutCheck } }

namespace Store

variable {s : Store} {f : TransactionFilter} {rows : List TransactionRow}

theorem listTransactions_withoutChecks :
    s.withoutChecks.listTransactions f = (s.listTransactions f).map TransactionRow.withoutCheck := List.filter_map

theorem transactionsOf_withoutChecks {key : Nat} :
    s.withoutChecks.transactionsOf key = (s.transactionsOf key).map TransactionRow.withoutCheck := List.filter_map

theorem loadTransactions_withoutChecks : loadTransactions (rows.map TransactionRow.withoutCheck) =
    (loadTransactions rows).map (List.map TransactionRow.withoutCheck) := by
  have hreadable : (∀ r ∈ rows.map TransactionRow.withoutCheck, r.IsReadable) ↔ ∀ r ∈ rows, r.IsReadable :=
    List.forall_mem_map
  by_cases h : ∀ r ∈ rows, r.IsReadable
  · rw [loadTransactions_of_forall h, loadTransactions_of_forall (hreadable.2 h)]
    rfl
  · rw [loadTransactions_of_not_forall h, loadTransactions_of_not_forall (mt hreadable.1 h)]
    rfl

theorem askTransactions_withoutChecks : s.withoutChecks.askTransactions f =
    (s.askTransactions f).map (List.map TransactionRow.withoutCheck) := by
  unfold askTransactions
  cases f.fault? with
  | some e => rfl
  | none =>
    rw [listTransactions_withoutChecks, oldestFirst_map (f := TransactionRow.withoutCheck) fun _ => rfl]
    exact loadTransactions_withoutChecks

end Store

namespace Report

variable {s : Store} {f : Store.TransactionFilter} {rows : List TransactionRow}

theorem transactions_withoutChecks :
    transactions s.withoutChecks (rows.map TransactionRow.withoutCheck) = transactions s rows := by
  rw [transactions, List.mapM_map]
  -- Of a row everything is shown but its check value.
  rfl

theorem listed_withoutChecks {inFull : Bool} : listed s.withoutChecks f inFull = listed s f inFull := by
  unfold listed
  rw [Store.askTransactions_withoutChecks]
  cases s.askTransactions f with
  | error e => rfl
  | ok rows =>
    show (if inFull then _ else _) = (if inFull then _ else _)
    rw [transactions_withoutChecks, List.map_map]
    rfl

theorem customer_withoutChecks {c : CustomerRow} : customer s.withoutChecks c = customer s c := by
  unfold customer Store.loadTransactionsOf
  rw [Store.transactionsOf_withoutChecks, Store.loadTransactions_withoutChecks]
  cases Store.loadTransactions (s.transactionsOf c.id) with
  | error e => rfl
  | ok rows =>
    show transactions s.withoutChecks (rows.map TransactionRow.withoutCheck) >>= _ = transactions s rows >>= _
    rw [transactions_withoutChecks]
    rfl

theorem customerWithKey_withoutChecks {key : Value} :
    customerWithKey s.withoutChecks key = customerWithKey s key :=
  congrArg (Store.getRow .customer s.customers key >>= ·) (funext fun _ => customer_withoutChecks)

end Report

/-! ### The main statement -/

namespace Store

variable {s : Store}

/-- What is to be said of the ways in which the transactions of a store are read. -/
structure ListsExactly (s : Store) : Prop where
  /-- The transactions that satisfy a filter are listed, each one once, in the order of their keys. -/
  listed : ∀ f : TransactionFilter, f.IsAskable →
    (∀ r ∈ s.transactions.rows, f.Admits r → r.IsReadable) →
      ∃ rows, s.askTransactions f = .ok rows ∧ s.IsListOf f.Admits rows
  /-- One of them whose amount cannot be read is enough for there to be no list. -/
  unreadable : ∀ f : TransactionFilter, f.IsAskable →
    (∃ r ∈ s.transactions.rows, f.Admits r ∧ ¬r.IsReadable) →
      s.askTransactions f = .error (.decimal .outOfBounds)
  /-- Other filters are refused. -/
  refused : ∀ f : TransactionFilter, ¬f.IsAskable → ∃ e, s.askTransactions f = .error e ∧ TransactionFilter.IsFault e
  /-- The history of a customer holds the transactions that are listed for the customer, or fails as the list. -/
  nested : ∀ c ∈ s.customers.rows, Offer.fits c.id = true →
    (s.askTransactions (.ofCustomer c.id)).map Multiset.ofList =
      (s.loadTransactionsOf c.id).map Multiset.ofList
  /-- Every transaction is in the history of exactly one customer. -/
  owner : ∀ r ∈ s.transactions.rows, ∃! c, c ∈ s.customers.rows ∧ r ∈ s.transactionsOf c.id
  /-- A report on a customer shows of the transactions what a full list of them shows. -/
  reported : ∀ c ∈ s.customers.rows, Offer.fits c.id = true → ∀ report,
    Report.customerWithKey s (.int c.id) = .ok report →
      ∃ fields nested values, report = .object fields ∧
        Value.lookup? "card_transactions" fields = some (.list nested) ∧
        Report.listed s (.ofCustomer c.id) true = .ok (.list values) ∧ nested.Perm values
  /-- A full list shows each transaction with its own states. -/
  shown : ∀ f report, Report.listed s f true = .ok report → ∃ rows values, s.askTransactions f = .ok rows ∧
    report = .list values ∧ List.Forall₂ (Report.Shows s) rows values
  /-- Nothing is shown of check values. -/
  blind : ∀ t : Store, t.withoutChecks = s.withoutChecks →
    (∀ key, Report.customerWithKey t key = Report.customerWithKey s key) ∧
      ∀ f inFull, Report.listed t f inFull = Report.listed s f inFull

/-- In a store with intact references the ways to read transactions agree. -/
theorem listsExactly_of_isSound (hs : s.IsSound) : s.ListsExactly where
  listed _ hask hreadable := exists_askTransactions hs.keys.transactions hask hreadable
  unreadable _ hask := fun ⟨_, hr, hadmits, hunreadable⟩ =>
    askTransactions_of_unreadable hask hr hadmits hunreadable
  refused _ := askTransactions_of_not_isAskable
  nested _ _ := askTransactions_ofCustomer
  owner _ := hs.existsUnique_customer
  reported c hc hfits report hreport := by
    have hfound : getRow .customer s.customers (.int c.id) = .ok c :=
      getRow_eq_ok.2 ⟨c.id, keyOf?_int c.id, hs.keys.customers.find?_key hc⟩
    rw [Report.customerWithKey, hfound] at hreport
    exact Report.nested_perm_listed hfits hreport
  shown f report hreport := by
    obtain ⟨rows, values, hrows, hvalues, rfl⟩ := Report.listed_eq_ok.1 hreport
    exact ⟨rows, values, hrows, rfl, (mapM_eq_ok.1 hvalues).imp fun _ _ => Report.shows_of_transaction⟩
  blind t ht := by
    constructor
    · intro key
      rw [← Report.customerWithKey_withoutChecks, ht, Report.customerWithKey_withoutChecks]
    · intro f inFull
      rw [← Report.listed_withoutChecks, ht, Report.listed_withoutChecks]

end Store

end CardPayments
