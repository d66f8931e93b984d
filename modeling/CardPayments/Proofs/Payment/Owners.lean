import CardPayments.Proofs.Payment.Resolution
import CardPayments.Proofs.Payment.Reuse

/-!
# Who owns what

Rows name their customer by its key and by copies of its texts, and no constraint of the store keeps these
links.  `Store.HasOwners` is what is so of them between payments.  A payment that ends anywhere but between
knowing its customer and giving its method an owner keeps it (`Attempt.hasOwners_after`), and the row of
its method has no owner exactly when it ended before the customer was known
(`Attempt.isOwnerless_iff`).
-/

namespace CardPayments

/-- A payment method that never got an owner. -/
structure MethodRow.IsOwnerless (m : MethodRow) : Prop where
  createdBy : m.audit.createdBy = none
  updatedBy : m.audit.updatedBy = none
  updatedDate : m.audit.updatedDate = none

/-- A payment method with an owner. -/
structure MethodRow.BelongsTo (m : MethodRow) (customer : Nat) : Prop where
  createdBy : m.audit.createdBy = some (customer : Int)
  updatedBy : m.audit.updatedBy = some (customer : Int)
  updatedDate : m.audit.updatedDate.isSome = true

theorem MethodRow.BelongsTo.not_isOwnerless {m : MethodRow} {customer : Nat} (h : m.BelongsTo customer) :
    ¬m.IsOwnerless := by
  intro hnone
  have hcreated := h.createdBy
  rw [hnone.createdBy] at hcreated
  cases hcreated

/-- A payment method that is given an owner at an instant of the calendar belongs to it. -/
theorem MethodRow.belongsTo_stamped {m : MethodRow} {customer : Nat} {now : DateTime}
    (hnow : (Offer.toUniversal now).isOk = true) :
    (m.stamped (ownerStamp (PaymentService.keyOffer customer) now)).BelongsTo customer := by
  obtain ⟨t, ht⟩ := isOk_iff.1 hnow
  have hinstant : Offer.instant now = some t := by
    show ((Offer.toUniversal now).map some).toOption.join = some t
    rw [ht]
    rfl
  rw [Write.stamped_ownerStamp]
  refine ⟨rfl, rfl, ?_⟩
  dsimp only
  rw [hinstant, Option.isSome_some]

namespace Store

/-- The keys by which rows are named are those of one row each. -/
structure HasKeys (s : Store) : Prop where
  methods : s.methods.IsKeyed
  customers : s.customers.IsKeyed
  logs : s.logs.IsKeyed

/-- The links between payment methods, customers, transactions and logs. -/
structure HasOwners (s : Store) : Prop where
  /-- A payment method has no owner, or belongs to a customer that is there. -/
  methods : ∀ m ∈ s.methods.rows, m.IsOwnerless ∨
    ∃ c, s.customers.find? c.id = some c ∧ m.BelongsTo c.id
  /-- The payment method of a customer belongs to this very customer. -/
  customers : ∀ c ∈ s.customers.rows, ∃ m, s.methods.find? c.methodId = some m ∧ m.BelongsTo c.id
  /-- A transaction was caused by its customer, and has the customer's names. -/
  transactions : ∀ r ∈ s.transactions.rows, r.audit.createdBy = some (r.customerId : Int) ∧
    ∃ c, s.customers.find? r.customerId = some c ∧ r.transactionCustomerId = c.apiCustomerId ∧
      r.ownerName = c.name
  /-- A log was caused by the owner of its payment method. -/
  logs : ∀ l ∈ s.logs.rows, ∃ id m, l.methodId = some id ∧ s.methods.find? id = some m ∧
    l.audit.createdBy = m.audit.createdBy
  /-- The details of a log were caused by the same one as the log. -/
  details : ∀ x ∈ s.details.rows, ∃ l, s.logs.find? x.logId = some l ∧
    x.audit.createdBy = l.audit.createdBy

variable {s : Store}

theorem HasKeys.effect (h : s.HasKeys) (w : Write) : (w.effect s).HasKeys := by
  cases w with
  | method d => exact { h with methods := h.methods.insert rfl }
  | customer d now => exact { h with customers := h.customers.insert rfl }
  | owner id who now =>
    refine { h with methods := h.methods.mapRows fun r => ?_ }
    split_ifs <;> rfl
  | transaction d notes now => exact ⟨h.methods, h.customers, h.logs⟩
  | log d request answer now => exact { h with logs := h.logs.insert rfl }

theorem HasKeys.after (h : s.HasKeys) (ws : List Write) : (s.after ws).HasKeys := by
  induction ws generalizing s with
  | nil => exact h
  | cons w ws ih => exact ih (h.effect w)

end Store

namespace PaymentService

namespace Attempt

open Store

variable {a : Attempt} {s : Store} {g : Stage} {k : Known} {m : Logged}

/-- A payment leaves all older rows as they are. -/
theorem Stage.Agrees.extends (hg : g.Agrees a s) (hs : s.methods.IsFresh) :
    s.Extends (s.after (a.written g)) := by
  obtain ⟨k, hk, hfirst, _⟩ := hg.exists_groups
  refine extends_after hs fun w hw => ?_
  rw [← hk.method]
  exact spares_groups k w (hfirst.subset hw)

/-! ### The payment method -/

variable (a s k) in
/-- The row of the payment method with its owner. -/
def ownedRow : MethodRow :=
  ((a.methodDraft k.token).row s.methods.next).stamped (ownerStamp (keyOffer k.payer.id) a.now)

theorem belongsTo_ownedRow (hg : g.IsReached a s) (hk : g.owned? = some k) :
    (a.ownedRow s k).BelongsTo k.payer.id := by
  -- The payment method was written, and so the time of the payment is one that can be stored.
  have hfit : (a.methodWrite k.token).IsFit s := by
    have htakes := hg.takes
    cases g <;> cases hk <;> exact htakes.1
  exact MethodRow.belongsTo_stamped (isOk_now hfit)

/-- The payment method, once it has its owner. -/
theorem methods_of_owned (hs : s.methods.IsFresh) (hg : g.Agrees a s) (hk : g.owned? = some k) :
    (s.after (a.written g)).methods = s.methods.insert fun key =>
      ((a.methodDraft k.token).row key).stamped (ownerStamp (keyOffer k.payer.id) a.now) := by
  rw [methods_written hk, methods_owned hs (hg.known (known?_of_owned? hk))]

theorem owned?_of_isSettled (hg : g.IsSettled) (hk : g.known? = some k) : g.owned? = some k := by
  cases g with
  | known k => exact absurd rfl (hg k)
  | recorded k => cases hk
  | begun => cases hk
  | _ => exact hk

/-- The payment method of a payment has no owner exactly when the payment ended as soon as it was written;
otherwise it belongs to the payer. -/
theorem method_cases (hs : s.methods.IsFresh) (hg : g.IsReached a s) (hsettled : g.IsSettled)
    {r : MethodRow} (hr : r ∈ (s.after (a.written g)).methods.since s.methods) :
    (r.IsOwnerless ∧ ∃ k, g = .recorded k) ∨ ∃ k, g.owned? = some k ∧ r = a.ownedRow s k := by
  cases hk : g.owned? with
  | some k =>
    rw [methods_of_owned hs hg.agrees hk, Table.since_insert_self] at hr
    exact .inr ⟨k, rfl, List.mem_singleton.1 hr⟩
  | none =>
    left
    cases g with
    | begun =>
      rw [written, after_nil, Table.since_self] at hr
      cases hr
    | recorded k =>
      obtain rfl := List.mem_singleton.1 (Table.since_insert_self (t := s.methods) ▸ hr)
      exact ⟨⟨rfl, rfl, rfl⟩, k, rfl⟩
    | known k => exact absurd rfl (hsettled k)
    | _ => cases hk

theorem isOwnerless_iff (hs : s.methods.IsFresh) (hg : g.IsReached a s) (hsettled : g.IsSettled)
    {r : MethodRow} (hr : r ∈ (s.after (a.written g)).methods.since s.methods) :
    r.IsOwnerless ↔ ∃ k, g = .recorded k := by
  rcases method_cases hs hg hsettled hr with ⟨hnone, hrecorded⟩ | ⟨k, hk, rfl⟩
  · exact iff_of_true hnone hrecorded
  · refine iff_of_false (belongsTo_ownedRow hg hk).not_isOwnerless ?_
    rintro ⟨k, rfl⟩
    cases hk

/-! ### Transactions and logs -/

/-- A transaction that a payment has written is that for the token or that for the charge. -/
theorem transaction_cases {r : TransactionRow}
    (hr : r ∈ (s.after (a.written g)).transactions.since s.transactions) :
    ∃ l, g.tokenized? = some l ∧
      (r = a.tokenRow s l ∨ ∃ m, m.toTokenized = l ∧ r = a.chargeRow s m) := by
  cases hl : g.tokenized? with
  | none =>
    rw [(tables_of_not_tokenized hl).1, Table.since_self] at hr
    cases hr
  | some l =>
    refine ⟨l, rfl, ?_⟩
    cases g with
    | tokenized l =>
      cases hl
      rw [since_tokenized.1] at hr
      exact .inl (List.mem_singleton.1 hr)
    | logged m =>
      cases hl
      rw [since_logged.1] at hr
      exact .inl (List.mem_singleton.1 hr)
    | charged m =>
      cases hl
      rw [since_whole.1] at hr
      rcases List.mem_cons.1 hr with rfl | hr
      · exact .inl rfl
      · exact .inr ⟨m, rfl, List.mem_singleton.1 hr⟩
    | _ => cases hl

/-- A log that a payment has written, and its details. -/
theorem logs_of_logged (hm : g.logged? = some m) :
    let draft := a.logDraft m.payer m.method m.charge (PaymentStatus.codeOf m.status)
    (s.after (a.written g)).logs = s.logs.insert draft.row ∧
      (s.after (a.written g)).details = s.details.insert
        (draft.details (a.chargePayload m.toTokenized) m.charge.raw a.now s.logs.next) := by
  intro draft
  cases g with
  | logged m =>
    cases hm
    exact tables_logged.2.2
  | charged m =>
    cases hm
    obtain ⟨_, _, hlogs, hdetails⟩ := tables_charged (a := a) (s := s) (m := m)
    rw [hlogs, hdetails]
    exact tables_logged.2.2
  | _ => cases hm

/-! ### The links -/

/-- A payment that does not end between knowing its customer and giving its method an owner keeps the links
between the rows. -/
theorem hasOwners_after (hkeys : s.HasKeys) (hs : s.HasOwners) (hg : g.IsReached a s)
    (hsettled : g.IsSettled) : (s.after (a.written g)).HasOwners := by
  have hextends : s.Extends (s.after (a.written g)) := hg.agrees.extends hkeys.methods.fresh
  have hcustomer {id : Nat} {c : CustomerRow} (h : s.customers.find? id = some c) :
      (s.after (a.written g)).customers.find? id = some c := Table.find?_of_prefix hextends.customers h
  have hmethod {id : Nat} {m : MethodRow} (h : s.methods.find? id = some m) :
      (s.after (a.written g)).methods.find? id = some m := Table.find?_of_prefix hextends.methods h
  -- Whoever knows the customer has given it the payment method.
  have hmine {k : Known} (hk : g.known? = some k) :
      (s.after (a.written g)).methods.find? k.method = some (a.ownedRow s k) ∧
        (a.ownedRow s k).BelongsTo k.payer.id := by
    have howned := owned?_of_isSettled hsettled hk
    refine ⟨?_, belongsTo_ownedRow hg howned⟩
    rw [methods_of_owned hkeys.methods.fresh hg.agrees howned, (hg.agrees.known hk).method]
    exact hkeys.methods.find?_insert rfl
  constructor
  · intro m hm
    rcases Table.mem_or_mem_since hextends.methods hm with hm | hm
    · refine (hs.methods m hm).imp_right ?_
      rintro ⟨c, hc, hbelongs⟩
      exact ⟨c, hcustomer hc, hbelongs⟩
    · rcases method_cases hkeys.methods.fresh hg hsettled hm with ⟨hnone, _⟩ | ⟨k, hk, rfl⟩
      · exact .inl hnone
      · have hknown := known?_of_owned? hk
        obtain ⟨c, hc, _⟩ := (hg.agrees.known hknown).exists_row hkeys.customers hknown
        have hid : c.id = k.payer.id := Table.key_of_find? hc
        refine .inr ⟨c, hid ▸ hc, ?_⟩
        rw [hid]
        exact (hmine hknown).2
  · intro c hc
    rcases Table.mem_or_mem_since hextends.customers hc with hc | hc
    · obtain ⟨m, hm, hbelongs⟩ := hs.customers c hc
      exact ⟨m, hmethod hm, hbelongs⟩
    · rcases customers_cases hg.agrees with h | ⟨k, hk, hnone, h⟩
      · rw [h, Table.since_self] at hc
        cases hc
      · rw [h, Table.since_insert_self] at hc
        obtain rfl := List.mem_singleton.1 hc
        obtain ⟨hfound, hbelongs⟩ := hmine hk
        rw [((hg.agrees.known hk).notFound hnone).2] at hbelongs
        exact ⟨_, hfound, hbelongs⟩
  · intro r hr
    rcases Table.mem_or_mem_since hextends.transactions hr with hr | hr
    · obtain ⟨hcreated, c, hc, hnames⟩ := hs.transactions r hr
      exact ⟨hcreated, c, hcustomer hc, hnames⟩
    · obtain ⟨l, hl, hrow⟩ := transaction_cases hr
      have hknown := known?_of_owned? (owned?_of_tokenized? hl)
      obtain ⟨c, hc, hname, _, hapi⟩ := (hg.agrees.known hknown).exists_row hkeys.customers hknown
      have hpayer : (Offer.value l.payer.name).requiredText = c.apiCustomerId := by
        rw [Offer.requiredText_value name_ne_null, hapi]
      -- Both transactions have their customer and its names from the same draft.
      rcases hrow with rfl | ⟨m, rfl, rfl⟩ <;> exact ⟨rfl, c, hc, hpayer, hname.symm⟩
  · intro l hl
    rcases Table.mem_or_mem_since hextends.logs hl with hl | hl
    · obtain ⟨id, m, hid, hm, hcreated⟩ := hs.logs l hl
      exact ⟨id, m, hid, hmethod hm, hcreated⟩
    · cases hm : g.logged? with
      | none =>
        rw [(logs_of_not_logged hm).1, Table.since_self] at hl
        cases hl
      | some m =>
        rw [(logs_of_logged hm).1, Table.since_insert_self] at hl
        obtain rfl := List.mem_singleton.1 hl
        have hknown := known?_of_owned? (owned?_of_tokenized? (tokenized?_of_logged? hm))
        exact ⟨m.method, _, rfl, (hmine hknown).1, rfl⟩
  · intro x hx
    rcases Table.mem_or_mem_since hextends.details hx with hx | hx
    · obtain ⟨l, hl, hcreated⟩ := hs.details x hx
      exact ⟨l, Table.find?_of_prefix hextends.logs hl, hcreated⟩
    · cases hm : g.logged? with
      | none =>
        rw [(logs_of_not_logged hm).2, Table.since_self] at hx
        cases hx
      | some m =>
        obtain ⟨hlogs, hdetails⟩ := logs_of_logged (a := a) (s := s) hm
        rw [hdetails, Table.since_insert_self] at hx
        obtain rfl := List.mem_singleton.1 hx
        rw [hlogs]
        exact ⟨_, hkeys.logs.find?_insert rfl, rfl⟩

end Attempt

/-! ### Whole payments -/

variable {s : PaymentService} {now : DateTime} {request : PaymentRequest} (d : Desk)

/-- A payment leaves all payment methods as they are. -/
theorem methods_process (hd : d.methodVanishes = false) (hs : d.store.methods.IsFresh) :
    d.store.methods.rows <+: (d.run (s.process now request)).2.store.methods.rows := by
  rcases s.process_course now request d hd with
    ⟨_, _, _, _, hfinal⟩ | ⟨a, g, _, _, _, _, _, _, hreached, _, _, hfinal⟩
  · exact ⟨[], by rw [hfinal, List.append_nil]⟩
  · rw [hfinal]
    exact (hreached.agrees.extends hs).methods

/-- A payment keeps the links between the rows, as long as the keys of the customers can be stored. -/
theorem process_hasOwners (hd : d.methodVanishes = false) (hkeys : d.store.HasKeys)
    (hs : d.store.HasOwners)
    (hfits : ∀ c ∈ (d.run (s.process now request)).2.store.customers.rows, Offer.fits c.id = true) :
    (d.run (s.process now request)).2.store.HasKeys ∧
      (d.run (s.process now request)).2.store.HasOwners := by
  rcases process_settles d hd hkeys.customers hfits with
    ⟨hfinal, _⟩ | ⟨a, g, _, hreached, hfinal, hsettled, _⟩
  · rw [hfinal]
    exact ⟨hkeys, hs⟩
  · rw [hfinal]
    exact ⟨hkeys.after _, Attempt.hasOwners_after hkeys hs hreached hsettled⟩

/-- The payment method of a payment has no owner exactly when the payment failed while its customer was
resolved. -/
theorem process_isOwnerless_iff (hd : d.methodVanishes = false) (hkeys : d.store.HasKeys)
    (hfits : ∀ c ∈ (d.run (s.process now request)).2.store.customers.rows, Offer.fits c.id = true)
    {m : MethodRow} (hm : m ∈ (d.run (s.process now request)).2.store.methods.since d.store.methods) :
    m.IsOwnerless ↔ s.FailsResolving now request d := by
  rcases process_settles d hd hkeys.customers hfits with
    ⟨hfinal, _⟩ | ⟨a, g, _, hreached, hfinal, hsettled, hfails⟩
  · rw [hfinal, Table.since_self] at hm
    cases hm
  · rw [hfinal] at hm
    rw [hfails]
    exact Attempt.isOwnerless_iff hkeys.methods.fresh hreached hsettled hm

end PaymentService

end CardPayments
