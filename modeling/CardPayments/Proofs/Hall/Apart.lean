import CardPayments.Proofs.Hall.History
import CardPayments.Proofs.Hall.Rows
import CardPayments.Proofs.Payment.Progress
import Mathlib.Combinatorics.Enumerative.DoubleCounting
import Mathlib.Data.Set.Card

/-!
# Payments at the same time do not mix

Nothing locks the store between the look for a customer and the writing of a new one, and so two payments of
one name and address may both write a customer.  What clients do at the same time nevertheless stays apart,
at every moment of every schedule (`Hall.keepsApart`): the rows of each payment name its own customer and its
own payment method, and nobody touches what somebody else wrote.

The proof never looks at the store in the middle of a payment.  `Hall.IsPast` says what holds of the past:
the store underwent it, and what each client did is the beginning of a payment.  A payment knows the keys of
its rows from the answers that it got, and a key is given once.
-/

namespace CardPayments

/-- A customer has a name and an address. -/
def CustomerRow.IsFor (c : CustomerRow) (name email : Text) : Prop := c.name = name ∧ c.email = email

instance (c : CustomerRow) (name email : Text) : Decidable (c.IsFor name email) :=
  inferInstanceAs (Decidable (c.name = name ∧ c.email = email))

namespace Hall

variable {n : Nat}

/-! ### Who wrote what -/

/-- A client wrote a group of rows, and got a key for it. -/
def Wrote (past : List (Fin n × Deed)) (i : Fin n) (w : Write) (key : Nat) : Prop :=
  (i, .write w (.ok (some key))) ∈ past

/-- A payment method is the one that a client wrote. -/
structure HasMethod (past : List (Fin n × Deed)) (t : Store) (i : Fin n) (m : MethodRow) : Prop where
  wrote : ∃ d, Wrote past i (.method d) m.id
  there : t.methods.find? m.id = some m

/-- The payment method of a client belongs to a customer of a name and an address. -/
structure Pays (past : List (Fin n × Deed)) (t : Store) (i : Fin n) (m : MethodRow) (c : CustomerRow)
    (name email : Text) : Prop where
  method : HasMethod past t i m
  customer : t.customers.find? c.id = some c
  belongsTo : m.BelongsTo c.id
  isFor : c.IsFor name email

/-- Clients who began with a store and did what is past have not mixed. -/
structure KeepsApart (start : Store) (clients : Fin n → Client) (past : List (Fin n × Deed)) (h : Hall n) :
    Prop where
  /-- A client writes one payment method at most. -/
  single : ∀ {i d d' key key'}, Wrote past i (.method d) key → Wrote past i (.method d') key' → key = key'
  /-- It has no owner, or belongs to a customer of the client's name and address. -/
  method : ∀ {i d key}, Wrote past i (.method d) key → ∃ m, m.id = key ∧ HasMethod past h.store i m ∧
    (m.IsOwnerless ∨ ∃ c, Pays past h.store i m c (clients i).request.name (clients i).request.email)
  /-- The transactions of a client are those of the customer to whom its payment method belongs. -/
  transaction : ∀ {i d notes now key}, Wrote past i (.transaction d notes now) key →
    ∃ r m c, h.store.transactions.find? key = some r ∧
      Pays past h.store i m c (clients i).request.name (clients i).request.email ∧
      r.customerId = c.id ∧ r.audit.createdBy = some (c.id : Int)
  /-- The log of a client names its payment method, and the customer to whom this belongs. -/
  log : ∀ {i d request answer now key}, Wrote past i (.log d request answer now) key →
    ∃ l m c, h.store.logs.find? key = some l ∧
      Pays past h.store i m c (clients i).request.name (clients i).request.email ∧
      l.methodId = some m.id ∧ l.audit.createdBy = some (c.id : Int)
  /-- A new customer was written by one client, with the name, the address and the payment method of this
  client. -/
  customer : ∀ {c}, c ∈ h.store.customers.since start.customers →
    ∃ i, (∀ j, (∃ d now, Wrote past j (.customer d now) c.id) ↔ j = i) ∧
      (∃ m, HasMethod past h.store i m ∧ c.methodId = m.id) ∧
      c.IsFor (clients i).request.name (clients i).request.email
  /-- The rows of the beginning are as they were. -/
  initial : start.Extends h.store
  /-- Whatever a client does next, all rows stay as they are, save for payment methods. -/
  grows : ∀ j, h.store.Grows (h.advance j).store
  /-- So do the payment methods of the beginning and those that others wrote. -/
  methods : ∀ {i j m}, m ∈ h.store.methods.rows →
    (m ∈ start.methods.rows ∨ i ≠ j ∧ ∃ d, Wrote past i (.method d) m.id) →
    m ∈ (h.advance j).store.methods.rows
  /-- There are no more new customers of a name and an address than clients who found none. -/
  count : ∀ name email,
    ((h.store.customers.since start.customers).countP fun c => c.IsFor name email) ≤
      {i : Fin n | ((clients i).request.name = name ∧ (clients i).request.email = email) ∧
        (i, .lookup name email (.ok none)) ∈ past}.ncard
  /-- A client looks for its own name and address, and finds the oldest customer of them if there is one. -/
  lookup : ∀ {i name email answer}, .lookup name email answer ∈ h.nextDeeds i →
    (name = (clients i).request.name ∧ email = (clients i).request.email) ∧
    ((∃ c ∈ h.store.customers.rows, c.IsFor name email) →
      ∃ c ∈ h.store.customers.rows, answer = .ok (some c) ∧ c.IsFor name email ∧
        ∀ c' ∈ h.store.customers.rows, c'.IsFor name email → c.id ≤ c'.id)

/-! ### The past -/

open PaymentService.Attempt

/-- The past of clients who began with a store. -/
structure IsPast (start : Store) (clients : Fin n → Client) (past : List (Fin n × Deed)) (t : Store) :
    Prop where
  orderly : start.IsOrderly
  undergoes : start.Undergoes (past.map Prod.snd) t
  /-- What a client did is the beginning of its payment. -/
  exists_isLast : ∀ i, ∃ (a : PaymentService.Attempt) (g : Stage),
    (a.service = (clients i).service ∧ a.now = (clients i).now ∧ a.request = (clients i).request) ∧
      g.IsLast a (own i past)

variable {start t : Store} {clients : Fin n → Client} {past : List (Fin n × Deed)} {i j : Fin n}

theorem isPast_run (hs : start.IsOrderly) (hp : (of start clients).IsPeaceful) (schedule : List (Fin n)) :
    IsPast start clients ((of start clients).history schedule) ((of start clients).run schedule).store where
  orderly := hs
  undergoes := (history_undergoes hp schedule).1
  exists_isLast i := by
    obtain ⟨more, r, hdoes⟩ := own_history_does (of start clients) schedule i
    exact PaymentService.exists_isLast hdoes

namespace IsPast

variable {a : PaymentService.Attempt} {g : Stage} {key : Nat}

/-- What one client wrote is part of the past. -/
theorem mem_of_own {d : Deed} (hd : d ∈ own i past) : d ∈ past.map Prod.snd :=
  List.mem_map_of_mem (mem_own.1 hd)

theorem sorted (h : IsPast start clients past t) : t.IsOrderly := h.undergoes.isOrderly h.orderly

/-- What a client wrote is accounted for by its stage. -/
theorem accounts (hg : g.IsLast a (own i past)) {w : Write} (hw : Wrote past i w key) : g.Accounts a w key :=
  hg.accounts (mem_own.2 hw)

/-- The payment method that a stage knows was written by its client. -/
theorem wrote_method (h : IsPast start clients past t) (hg : g.IsLast a (own i past)) {k : Recorded}
    (hk : g.recorded? = some k) : Wrote past i (a.methodWrite k.token) k.method := by
  obtain ⟨key, hd, hmethod⟩ := hg.isAttested.recorded hk
  obtain ⟨k', rfl⟩ := Store.Numbering.ofMethods.exists_key h.undergoes ⟨_, rfl⟩ (mem_of_own hd)
  rw [hmethod]
  exact mem_own.1 hd

/-- Two clients never write payment methods under the same key. -/
theorem eq_of_method (h : IsPast start clients past t) {d d' : MethodDraft}
    (hi : Wrote past i (.method d) key) (hj : Wrote past j (.method d') key) : i = j :=
  Store.Numbering.ofMethods.eq_of_key h.undergoes ⟨d, rfl⟩ ⟨d', rfl⟩ hi hj

/-- Whoever gives a payment method an owner has written it. -/
theorem exists_method_of_owner (h : IsPast start clients past t) {id : Nat} {who : Offer} {now : DateTime}
    (howner : Wrote past j (.owner id who now) key) : ∃ d, Wrote past j (.method d) id := by
  obtain ⟨a, g, _, hg⟩ := h.exists_isLast j
  obtain ⟨k, hk, rfl, _⟩ := accounts hg howner
  exact ⟨_, h.wrote_method hg (recorded?_of_known? (known?_of_owned? hk))⟩

/-- Any of the deeds that gives a client's payment method an owner is one of the client. -/
theorem wrote_owner (h : IsPast start clients past t) {id : Nat} {who : Offer} {now : DateTime}
    {d : MethodDraft} (hmethod : Wrote past i (.method d) id)
    (howner : .write (.owner id who now) (.ok (some key)) ∈ past.map Prod.snd) :
    Wrote past i (.owner id who now) key := by
  obtain ⟨⟨j, _⟩, hj, rfl⟩ := List.mem_map.1 howner
  obtain ⟨d', hd'⟩ := h.exists_method_of_owner hj
  rwa [h.eq_of_method hmethod hd']

/-- The customer that a stage knows is there, and has the client's name and address. -/
theorem find?_payer (h : IsPast start clients past t) (hg : g.IsLast a (own i past)) {k : Known}
    (hk : g.known? = some k) :
    ∃ c, t.customers.find? k.payer.id = some c ∧ c.IsFor a.request.name a.request.email := by
  rcases hg.isAttested.known hk with ⟨row, hd, hid, _⟩ | ⟨_, key, hd, hid⟩
  · obtain ⟨hmem, hname, hemail⟩ := h.undergoes.mem_of_lookup (mem_of_own hd)
    rw [hid]
    exact ⟨row, h.sorted.customers.isKeyed.find?_key hmem, hname, hemail⟩
  · obtain ⟨k', rfl⟩ := Store.Numbering.ofCustomers.exists_key h.undergoes ⟨_, _, rfl⟩ (mem_of_own hd)
    rw [hid]
    exact ⟨_, h.undergoes.find?_customer h.orderly (mem_of_own hd), rfl, rfl⟩

/-- When a client has given its payment method an owner, this is the customer that it knows. -/
theorem pays (h : IsPast start clients past t) (hg : g.IsLast a (own i past)) {k : Known}
    (hk : g.owned? = some k) :
    ∃ m c, Pays past t i m c a.request.name a.request.email ∧ m.id = k.method ∧ c.id = k.payer.id := by
  have hknown := known?_of_owned? hk
  have hmethod := h.wrote_method hg (recorded?_of_known? hknown)
  obtain ⟨c, hc, hpair⟩ := h.find?_payer hg hknown
  have hcid : c.id = k.payer.id := Table.key_of_find? hc
  obtain ⟨key, hd⟩ := hg.isAttested.owned hk
  obtain ⟨r, who, now, hr, howner, hsound⟩ := h.undergoes.find?_owned (mem_of_own hd)
  -- Nobody but the client gives it an owner, and the client knows one customer only.
  obtain ⟨k', hk', _, rfl⟩ := accounts hg (h.wrote_owner hmethod howner)
  obtain rfl : k = k' := Option.some.inj (hk.symm.trans hk')
  obtain ⟨m, hm⟩ : ∃ m, m = r.stamped (ownerStamp (PaymentService.keyOffer k.payer.id) now) := ⟨_, rfl⟩
  have hbelongs : m.BelongsTo c.id := by
    rw [hm, hcid]
    exact MethodRow.belongsTo_stamped (isOk_of_areSound_ownerStamp hsound)
  rw [← hm] at hr
  have hmid : m.id = k.method := Table.key_of_find? hr
  rw [← hmid] at hmethod hr
  rw [← hcid] at hc
  exact ⟨m, c, ⟨⟨⟨_, hmethod⟩, hr⟩, hc, hbelongs, hpair⟩, hmid, hcid⟩

/-! ### What follows for the rows -/

theorem single (h : IsPast start clients past t) {d d' : MethodDraft} {key' : Nat}
    (hd : Wrote past i (.method d) key) (hd' : Wrote past i (.method d') key') : key = key' := by
  obtain ⟨a, g, _, hg⟩ := h.exists_isLast i
  obtain ⟨k, hk, rfl, _⟩ := accounts hg hd
  obtain ⟨k', hk', rfl, _⟩ := accounts hg hd'
  rw [Option.some.inj (hk.symm.trans hk')]

theorem method (h : IsPast start clients past t) {d : MethodDraft} (hd : Wrote past i (.method d) key) :
    ∃ m, m.id = key ∧ HasMethod past t i m ∧
      (m.IsOwnerless ∨ ∃ c, Pays past t i m c (clients i).request.name (clients i).request.email) := by
  obtain ⟨a, g, ⟨_, _, hrequest⟩, hg⟩ := h.exists_isLast i
  obtain ⟨k, hk, hkey, hdraft⟩ := accounts hg hd
  obtain ⟨m, hm, hbecomes⟩ := h.undergoes.find?_method h.orderly (List.mem_map_of_mem hd)
  rcases hbecomes with rfl | ⟨who, now, howner, _⟩
  · have hownerless : (d.row key).IsOwnerless := by
      rw [hdraft]
      exact ⟨rfl, rfl, rfl⟩
    exact ⟨_, rfl, ⟨⟨d, hd⟩, hm⟩, .inl hownerless⟩
  · obtain ⟨k', hk', hid, _⟩ := accounts hg (h.wrote_owner hd howner)
    obtain ⟨m', c, hpays, hmid, _⟩ := h.pays hg hk'
    rw [hrequest] at hpays
    exact ⟨m', hmid.trans hid.symm, hpays.method, .inr ⟨c, hpays⟩⟩

theorem transaction (h : IsPast start clients past t) {d : TransactionDraft} {notes : Json.Value}
    {now : DateTime} (hd : Wrote past i (.transaction d notes now) key) :
    ∃ r m c, t.transactions.find? key = some r ∧
      Pays past t i m c (clients i).request.name (clients i).request.email ∧
      r.customerId = c.id ∧ r.audit.createdBy = some (c.id : Int) := by
  obtain ⟨a, g, ⟨_, _, hrequest⟩, hg⟩ := h.exists_isLast i
  obtain ⟨k, hk, hcustomer, hcreated⟩ := accounts hg hd
  obtain ⟨m, c, hpays, _, hcid⟩ := h.pays hg (owned?_of_tokenized? hk)
  rw [hrequest] at hpays
  refine ⟨d.row key, m, c, h.undergoes.find?_transaction h.orderly (List.mem_map_of_mem hd), hpays, ?_, ?_⟩
  · rw [hcid, TransactionDraft.row, hcustomer]
    rfl
  · rw [hcid, TransactionDraft.row, AuditDraft.audit, hcreated]
    rfl

theorem log (h : IsPast start clients past t) {d : LogDraft} {request answer : Json.Value} {now : DateTime}
    (hd : Wrote past i (.log d request answer now) key) :
    ∃ l m c, t.logs.find? key = some l ∧
      Pays past t i m c (clients i).request.name (clients i).request.email ∧
      l.methodId = some m.id ∧ l.audit.createdBy = some (c.id : Int) := by
  obtain ⟨a, g, ⟨_, _, hrequest⟩, hg⟩ := h.exists_isLast i
  obtain ⟨k, hk, hmethod, hcreated⟩ := accounts hg hd
  obtain ⟨m, c, hpays, hmid, hcid⟩ := h.pays hg (owned?_of_tokenized? (tokenized?_of_logged? hk))
  rw [hrequest] at hpays
  refine ⟨d.row key, m, c, h.undergoes.find?_log h.orderly (List.mem_map_of_mem hd), hpays, ?_, ?_⟩
  · rw [hmid, LogDraft.row, hmethod]
    rfl
  · rw [hcid, LogDraft.row, AuditDraft.audit, hcreated]
    rfl

/-! ### New customers -/

/-- Who wrote a new customer. -/
theorem exists_wrote_customer (h : IsPast start clients past t) {c : CustomerRow}
    (hc : c ∈ t.customers.since start.customers) :
    ∃ i d now, Wrote past i (.customer d now) c.id ∧ c = d.row c.id := by
  have hnew := Table.not_mem_of_mem_since h.sorted.customers h.undergoes.grows.customers hc
  rcases h.undergoes.mem_customers (List.mem_of_mem_drop hc) with hold | ⟨d, now, hd, hrow⟩
  · exact absurd hold hnew
  · obtain ⟨⟨i, _⟩, hi, rfl⟩ := List.mem_map.1 hd
    exact ⟨i, d, now, hi, hrow⟩

theorem customer (h : IsPast start clients past t) {c : CustomerRow}
    (hc : c ∈ t.customers.since start.customers) :
    ∃ i, (∀ j, (∃ d now, Wrote past j (.customer d now) c.id) ↔ j = i) ∧
      (∃ m, HasMethod past t i m ∧ c.methodId = m.id) ∧
      c.IsFor (clients i).request.name (clients i).request.email := by
  obtain ⟨i, d, now, hd, hrow⟩ := h.exists_wrote_customer hc
  refine ⟨i, fun j => ?_, ?_⟩
  · constructor
    · rintro ⟨d', now', hd'⟩
      exact Store.Numbering.ofCustomers.eq_of_key h.undergoes ⟨d', now', rfl⟩ ⟨d, now, rfl⟩ hd' hd
    · rintro rfl
      exact ⟨d, now, hd⟩
  · obtain ⟨a, g, ⟨_, _, hrequest⟩, hg⟩ := h.exists_isLast i
    obtain ⟨k, hk, _, hdraft, _⟩ := accounts hg hd
    obtain ⟨m, hmid, hm, _⟩ := h.method (h.wrote_method hg (recorded?_of_known? hk))
    rw [hrow, hdraft, ← hrequest]
    exact ⟨⟨m, hm, hmid.symm⟩, rfl, rfl⟩

/-- A client that wrote a customer had found none, and wrote no other one. -/
theorem lookup_of_wrote_customer (h : IsPast start clients past t) {d : CustomerDraft} {now : DateTime}
    (hd : Wrote past i (.customer d now) key) :
    (i, .lookup (clients i).request.name (clients i).request.email (.ok none)) ∈ past := by
  obtain ⟨a, g, ⟨_, _, hrequest⟩, hg⟩ := h.exists_isLast i
  obtain ⟨k, hk, _, _, hnew⟩ := accounts hg hd
  rw [← hrequest]
  rcases hg.isAttested.known hk with ⟨_, _, _, hold⟩ | ⟨hnone, _⟩
  · rw [hnew] at hold
    cases hold
  · exact mem_own.1 hnone

theorem single_customer (h : IsPast start clients past t) {d d' : CustomerDraft} {now now' : DateTime}
    {key' : Nat} (hd : Wrote past i (.customer d now) key) (hd' : Wrote past i (.customer d' now') key') :
    key = key' := by
  obtain ⟨a, g, _, hg⟩ := h.exists_isLast i
  obtain ⟨k, hk, rfl, _⟩ := accounts hg hd
  obtain ⟨k', hk', rfl, _⟩ := accounts hg hd'
  rw [Option.some.inj (hk.symm.trans hk')]

theorem count (h : IsPast start clients past t) (name email : Text) :
    ((t.customers.since start.customers).countP fun c => c.IsFor name email) ≤
      {i : Fin n | ((clients i).request.name = name ∧ (clients i).request.email = email) ∧
        (i, .lookup name email (.ok none)) ∈ past}.ncard := by
  classical
  have hrows : t.customers.rows.Nodup := h.sorted.customers.isKeyed.distinct.of_map
  have hnew : ((t.customers.since start.customers).filter fun c => c.IsFor name email).Nodup :=
    (hrows.sublist (List.drop_sublist _ _)).filter _
  rw [List.countP_eq_length_filter, ← List.toFinset_card_of_nodup hnew, Set.ncard_eq_toFinset_card']
  -- Each of the customers was written by a client who found none, and no two of them by the same one.
  refine Finset.card_le_card_of_forall_subsingleton
    (fun c i => ∃ d now, Wrote past i (.customer d now) c.id) ?_ ?_
  · intro c hc
    obtain ⟨hc, hpair⟩ := List.mem_filter.1 (List.mem_toFinset.1 hc)
    obtain ⟨hname, hemail⟩ := of_decide_eq_true hpair
    obtain ⟨i, hwrote, _, hname', hemail'⟩ := h.customer hc
    obtain ⟨d, now, hd⟩ := (hwrote i).2 rfl
    have hlookup := h.lookup_of_wrote_customer hd
    rw [← hname', ← hemail', hname, hemail] at hlookup
    refine ⟨i, ?_, d, now, hd⟩
    rw [Set.mem_toFinset]
    exact ⟨⟨hname'.symm.trans hname, hemail'.symm.trans hemail⟩, hlookup⟩
  · rintro i _ c ⟨hc, d, now, hd⟩ c' ⟨hc', d', now', hd'⟩
    have hmem {c : CustomerRow}
        (hc : c ∈ ((t.customers.since start.customers).filter fun c => c.IsFor name email).toFinset) :
        c ∈ t.customers.rows :=
      List.mem_of_mem_drop (List.mem_filter.1 (List.mem_toFinset.1 hc)).1
    exact h.sorted.customers.isKeyed.eq_of_key_eq (hmem hc) (hmem hc') (h.single_customer hd hd')

/-! ### The next action -/

theorem initial (h : IsPast start clients past t) : start.Extends t := by
  refine h.undergoes.extends h.orderly.methods.fresh fun {w key} hd => ?_
  cases w with
  | owner id who now =>
    obtain ⟨⟨j, _⟩, hj, rfl⟩ := List.mem_map.1 hd
    obtain ⟨d, hmethod⟩ := h.exists_method_of_owner hj
    exact (Store.Numbering.ofMethods.key_bounds h.undergoes ⟨d, rfl⟩ (List.mem_map_of_mem hmethod)).1
  | _ => trivial

/-- Where a client has acted next, payment methods of the beginning and of the others are as they were. -/
theorem methods (h : IsPast start clients past t) {t' : Store} {ds : List Deed}
    (h' : IsPast start clients (past ++ ds.map (j, ·)) t') (hnext : t.Undergoes ds t') {m : MethodRow}
    (hm : m ∈ t.methods.rows) (hothers : m ∈ start.methods.rows ∨ i ≠ j ∧ ∃ d, Wrote past i (.method d) m.id) :
    m ∈ t'.methods.rows := by
  have hfound : t.methods.find? m.id = some m := h.sorted.methods.isKeyed.find?_key hm
  obtain ⟨m', hm', hbecomes⟩ := hnext.find?_methods hfound
  have hmem : m' ∈ t'.methods.rows := List.mem_of_find?_eq_some hm'
  rcases hbecomes with rfl | ⟨who, now, howner, _⟩
  · exact hmem
  · have hwrote : Wrote (past ++ ds.map (j, ·)) j (.owner m.id who now) m.id :=
      List.mem_append_right _ (List.mem_map_of_mem howner)
    obtain ⟨d', hd'⟩ := h'.exists_method_of_owner hwrote
    rcases hothers with hold | ⟨hij, d, hd⟩
    · -- The client has written the payment method, and so it was not there at the beginning.
      have hlater := (Store.Numbering.ofMethods.key_bounds h'.undergoes ⟨d', rfl⟩ (List.mem_map_of_mem hd')).1
      exact absurd (h.orderly.methods.fresh m hold) (Nat.not_lt.2 hlater)
    · exact absurd (h'.eq_of_method (List.mem_append_left _ hd) hd') hij

/-- A client looks for its own name and address. -/
theorem lookup (h : IsPast start clients past t) {name email : Text}
    {answer : Except Failure (Option CustomerRow)} (hd : (i, .lookup name email answer) ∈ past) :
    name = (clients i).request.name ∧ email = (clients i).request.email := by
  obtain ⟨a, g, ⟨_, _, hrequest⟩, hg⟩ := h.exists_isLast i
  rw [← hrequest]
  exact hg.seeks _ (mem_own.2 hd)

end IsPast

/-! ### The theorem -/

/-- **Payments at the same time do not mix**: at every moment of every schedule of any number of clients, each
with its own request, token and replies, the payment method of a client belongs to nobody or to a customer of
the client's name and address, its transactions and its log name this customer and this payment method, every
new customer was written by one client and names its payment method, no client changes or removes a row that
was there at the beginning or that another client wrote, there are no more new customers of a name and an
address than clients who found none, and a look finds the oldest one if there is one. -/
theorem keepsApart (hs : start.IsOrderly) (hclients : ∀ i, (clients i).desk.methodVanishes = false)
    (schedule : List (Fin n)) :
    KeepsApart start clients ((of start clients).history schedule) ((of start clients).run schedule) := by
  have hstart : (of start clients).IsPeaceful := hclients
  have hpeace : ((of start clients).run schedule).IsPeaceful := (history_undergoes hstart schedule).2
  have hpast := isPast_run hs hstart schedule
  -- The past of one action more.
  have hlater (j : Fin n) := isPast_run hs hstart (schedule ++ [j])
  simp only [history_append, run_append, history, List.append_nil, run_cons, run_nil] at hlater
  constructor
  case single => exact hpast.single
  case method => exact hpast.method
  case transaction => exact hpast.transaction
  case log => exact hpast.log
  case customer => exact hpast.customer
  case initial => exact hpast.initial
  case grows => exact fun j => (advance_undergoes hpeace j).1.grows
  case methods =>
    intro i j m hm hothers
    exact hpast.methods (hlater j) (advance_undergoes hpeace j).1 hm hothers
  case count => exact hpast.count
  case lookup =>
    intro i name email answer hd
    refine ⟨(hlater i).lookup (List.mem_append_right _ (List.mem_map_of_mem hd)), ?_⟩
    rintro ⟨c, hc, rfl, rfl⟩
    obtain ⟨r, hr, hanswer, hpair, holdest⟩ := hpast.sorted.askCustomer hc
    exact ⟨r, hr, (answer_of_lookup hd).trans hanswer, hpair, fun r' hr' h => holdest r' hr' h.1 h.2⟩

/-! ### A trial -/

/-- Two clients of the trial payment, with tokens of their own. -/
def trialClients (i : Fin 2) : Client where
  service := PaymentService.trialService
  now := PaymentService.trialTime
  request := Session.trialRequest
  desk :=
    { PaymentService.trialDesk PaymentService.trialCharge with tokens := [if i = 0 then "a" else "b"] }

/-- The store around which they sit. -/
def trialStore : Store := (PaymentService.trialDesk PaymentService.trialCharge).store

/-- They act by turns. -/
def trialSchedule : List (Fin 2) := (List.replicate 30 [0, 1]).flatten

/-- Both clients of the trial find nobody and write a customer, and still they have not mixed. -/
theorem trial_keepsApart :
    trialStore.IsOrderly ∧ (∀ i, (trialClients i).desk.methodVanishes = false) ∧
      ((of trialStore trialClients).run trialSchedule).store.customers.rows.map
        (fun c => (c.id, c.methodId)) = [(1, 1), (2, 2)] ∧
      KeepsApart trialStore trialClients ((of trialStore trialClients).history trialSchedule)
        ((of trialStore trialClients).run trialSchedule) := by
  have horderly : trialStore.IsOrderly := by
    refine ⟨?_, ?_, ?_, ?_, List.forall_mem_nil _⟩ <;> exact Table.isSorted_of_rows_eq_nil rfl
  have hclients : ∀ i, (trialClients i).desk.methodVanishes = false := fun _ => rfl
  exact ⟨horderly, hclients, by decide +kernel, keepsApart horderly hclients trialSchedule⟩

end Hall

end CardPayments
