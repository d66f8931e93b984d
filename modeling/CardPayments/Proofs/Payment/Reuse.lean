import CardPayments.Proofs.Payment.Answer
import CardPayments.Proofs.Payment.Calls
import CardPayments.Proofs.Payment.Moments
import Mathlib.Data.List.Pairwise

/-!
# Which customer a payment names

There is no more than one customer of a name and address, and nothing but the payments themselves takes
care of that: a payment creates a customer only when it finds none (`Attempt.customers_cases`), so that
there is never a second one (`Attempt.isConsistent_after`).  All rows that a payment writes name the same
customer, and this is the one of its name and address (`Attempt.exists_of_gainsRowsOf`).  When the
customer is created at the provider is said by `Attempt.Stage.posts_customers_iff`.
-/

namespace CardPayments

/-- Two customers have different names or different addresses. -/
def CustomerRow.Differs (c c' : CustomerRow) : Prop := ¬(c.name = c'.name ∧ c.email = c'.email)

instance : Std.Symm CustomerRow.Differs := ⟨fun _ _ hne heq => hne ⟨heq.1.symm, heq.2.symm⟩⟩

instance (c c' : CustomerRow) : Decidable (c.Differs c') :=
  inferInstanceAs (Decidable ¬(c.name = c'.name ∧ c.email = c'.email))

namespace Store

/-- No two customers have the same name and address. -/
def HasDistinctCustomers (s : Store) : Prop := s.customers.rows.Pairwise CustomerRow.Differs

/-- There is a customer of a name and address. -/
def HasCustomer (s : Store) (name email : Text) : Prop :=
  ∃ c ∈ s.customers.rows, c.name = name ∧ c.email = email

/-- New payment methods and customers get keys of their own, and no two customers have the same name and
address. -/
structure IsConsistent (s : Store) : Prop where
  methods : s.methods.IsFresh
  customers : s.customers.IsKeyed
  distinct : s.HasDistinctCustomers

/-- A store has gained rows that name a customer: a payment method that belongs to it, a transaction of it,
or the customer itself. -/
def GainsRowsOf (s : Store) (customer : Nat) (t : Store) : Prop :=
  (∃ m ∈ t.methods.since s.methods,
      m.audit.createdBy = some (customer : Int) ∨ m.audit.updatedBy = some (customer : Int)) ∨
    (∃ r ∈ t.transactions.since s.transactions, r.customerId = customer) ∨
    ∃ c ∈ t.customers.since s.customers, c.id = customer

variable {s : Store} {name email : Text} {c : CustomerRow}

theorem findCustomer?_eq_none_iff : s.findCustomer? name email = none ↔ ¬s.HasCustomer name email := by
  rw [findCustomer?_eq_none, HasCustomer]
  push Not
  rfl

/-- The customer of a name and address is found by them. -/
theorem HasDistinctCustomers.findCustomer?_eq (h : s.HasDistinctCustomers) (hc : c ∈ s.customers.rows) :
    s.findCustomer? c.name c.email = some c := by
  cases hfound : s.findCustomer? c.name c.email with
  | none => exact absurd ⟨rfl, rfl⟩ (findCustomer?_eq_none.1 hfound c hc)
  | some c' =>
    obtain ⟨hc', hname, hemail⟩ := findCustomer?_eq_some hfound
    have heq : c' = c := by
      by_contra hne
      exact List.Pairwise.forall h hc' hc hne ⟨hname, hemail⟩
    rw [heq]

/-- A customer of a new name and address is another one than those before. -/
theorem HasDistinctCustomers.insert (h : s.HasDistinctCustomers) {make : Nat → CustomerRow}
    (hnew : ¬s.HasCustomer (make s.customers.next).name (make s.customers.next).email) :
    (s.customers.insert make).rows.Pairwise CustomerRow.Differs := by
  rw [Table.insert, List.pairwise_append]
  refine ⟨h, List.pairwise_singleton _ _, ?_⟩
  intro c hc c' hc' hsame
  obtain rfl := List.mem_singleton.1 hc'
  exact hnew ⟨c, hc, hsame⟩

/-- New payment methods get keys of their own, whatever groups of rows were written. -/
theorem isFresh_methods_after (h : s.methods.IsFresh) (ws : List Write) :
    (s.after ws).methods.IsFresh := by
  induction ws generalizing s with
  | nil => exact h
  | cons w ws ih => exact ih (Write.isFresh_methods_effect h)

/-- Customers can be looked for by texts that can be stored, and by no others. -/
theorem askCustomer_isOk_iff :
    (∃ found, s.askCustomer name email = .ok found) ↔ name.IsStorable ∧ email.IsStorable := by
  rw [← Offer.textFault_eq_none, ← Offer.textFault_eq_none]
  unfold askCustomer
  cases Offer.textFault email with
  | some e => simp
  | none => cases Offer.textFault name <;> simp

end Store

namespace PaymentService

namespace Attempt

open Store

variable {a : Attempt} {s t : Store} {g i : Stage} {ds : List Deed}

/-! ### The customers -/

/-- A payment leaves the customers as they are, or adds one of a name and address of which there was
none. -/
theorem customers_cases (hg : g.Agrees a s) :
    (s.after (a.written g)).customers = s.customers ∨
      ∃ k, g.known? = some k ∧ s.findCustomer? a.request.name a.request.email = none ∧
        (s.after (a.written g)).customers =
          s.customers.insert (a.customerDraft k.method k.payer.customer).row := by
  cases hk : g.known? with
  | none => exact .inl (customers_of_not_known hk)
  | some k =>
    by_cases hnew : k.isNew = true
    · exact .inr ⟨k, rfl, (hg.known hk).of_isNew hk hnew⟩
    · rw [customers_written hk, customers_known, if_neg hnew]
      exact .inl rfl

/-- At every stage of a payment there is at most one customer of each name and address. -/
theorem isConsistent_after (hs : s.IsConsistent) (hg : g.Agrees a s) :
    (s.after (a.written g)).IsConsistent := by
  refine ⟨isFresh_methods_after hs.methods _, ?_, ?_⟩
  · rcases customers_cases hg with h | ⟨k, _, _, h⟩
    · rw [h]
      exact hs.customers
    · rw [h]
      exact hs.customers.insert rfl
  · unfold HasDistinctCustomers
    rcases customers_cases hg with h | ⟨k, _, hnone, h⟩
    · rw [h]
      exact hs.distinct
    · rw [h]
      exact hs.distinct.insert (findCustomer?_eq_none_iff.1 hnone)

/-! ### Rows that name a customer -/

/-- A payment method that a payment has written belongs to nobody, or to the customer of the payment. -/
theorem audit_of_mem_since (hs : s.methods.IsFresh) (hg : g.Agrees a s) {m : MethodRow}
    (hm : m ∈ (s.after (a.written g)).methods.since s.methods) :
    (m.audit.createdBy = none ∧ m.audit.updatedBy = none) ∨
      ∃ k, g.known? = some k ∧ m.audit.createdBy = some (k.payer.id : Int) ∧
        m.audit.updatedBy = some (k.payer.id : Int) := by
  cases hk : g.owned? with
  | some k =>
    have hknown : g.known? = some k := known?_of_owned? hk
    rw [methods_written hk, methods_owned hs (hg.known hknown), Table.since_insert_self] at hm
    obtain rfl := List.mem_singleton.1 hm
    exact .inr ⟨k, hknown, rfl, rfl⟩
  | none =>
    left
    cases g with
    | begun =>
      rw [written, after_nil, Table.since_self] at hm
      cases hm
    | recorded k =>
      obtain rfl := List.mem_singleton.1 (Table.since_insert_self (t := s.methods) ▸ hm)
      exact ⟨rfl, rfl⟩
    | known k =>
      rw [methods_known, Table.since_insert_self] at hm
      obtain rfl := List.mem_singleton.1 hm
      exact ⟨rfl, rfl⟩
    | _ => cases hk

/-- A transaction that a payment has written is one of the customer of the payment. -/
theorem customerId_of_mem_since {r : TransactionRow}
    (hr : r ∈ (s.after (a.written g)).transactions.since s.transactions) :
    ∃ k, g.known? = some k ∧ r.customerId = k.payer.id := by
  cases hl : g.tokenized? with
  | none =>
    rw [(tables_of_not_tokenized hl).1, Table.since_self] at hr
    cases hr
  | some l =>
    refine ⟨l.toKnown, known?_of_owned? (owned?_of_tokenized? hl), ?_⟩
    cases g with
    | tokenized l =>
      cases hl
      rw [since_tokenized.1] at hr
      obtain rfl := List.mem_singleton.1 hr
      rfl
    | logged m =>
      cases hl
      rw [since_logged.1] at hr
      obtain rfl := List.mem_singleton.1 hr
      rfl
    | charged m =>
      cases hl
      rw [since_whole.1] at hr
      rcases List.mem_cons.1 hr with rfl | hr
      · rfl
      · obtain rfl := List.mem_singleton.1 hr
        rfl
    | _ => cases hl

/-- A customer that a payment has written is the customer of the payment. -/
theorem id_of_mem_since (hg : g.Agrees a s) {c : CustomerRow}
    (hc : c ∈ (s.after (a.written g)).customers.since s.customers) :
    ∃ k, g.known? = some k ∧ c.id = k.payer.id := by
  rcases customers_cases hg with h | ⟨k, hk, hnone, h⟩
  · rw [h, Table.since_self] at hc
    cases hc
  · rw [h, Table.since_insert_self] at hc
    obtain rfl := List.mem_singleton.1 hc
    exact ⟨k, hk, ((hg.known hk).notFound hnone).2.symm⟩

/-- The rows that a payment has written name no other customer than that of the payment. -/
theorem eq_payer_of_gainsRowsOf (hs : s.methods.IsFresh) (hg : g.Agrees a s) {customer : Nat}
    (h : s.GainsRowsOf customer (s.after (a.written g))) :
    ∃ k, g.known? = some k ∧ customer = k.payer.id := by
  rcases h with ⟨m, hm, hnames⟩ | ⟨r, hr, rfl⟩ | ⟨c, hc, rfl⟩
  · rcases audit_of_mem_since hs hg hm with ⟨hcreated, hupdated⟩ | ⟨k, hk, hcreated, hupdated⟩
    · rw [hcreated, hupdated] at hnames
      rcases hnames with hnames | hnames <;> cases hnames
    · rw [hcreated, hupdated, or_self] at hnames
      exact ⟨k, hk, (Int.ofNat.inj (Option.some.inj hnames)).symm⟩
  · exact customerId_of_mem_since hr
  · exact id_of_mem_since hg hc

/-- The customer that is named by the rows of a payment is there, and has the name and the address of the
request. -/
theorem exists_of_gainsRowsOf (hs : s.IsConsistent) (hg : g.Agrees a s) {customer : Nat}
    (h : s.GainsRowsOf customer (s.after (a.written g))) :
    ∃ c ∈ (s.after (a.written g)).customers.rows, c.id = customer ∧ c.name = a.request.name ∧
      c.email = a.request.email := by
  obtain ⟨k, hk, rfl⟩ := eq_payer_of_gainsRowsOf hs.methods hg h
  obtain ⟨c, hc, hname, hemail, _⟩ := (hg.known hk).exists_row hs.customers hk
  have hid : c.id = k.payer.id := by
    have hkey := List.find?_some hc
    rwa [decide_eq_true_eq] at hkey
  exact ⟨c, List.mem_of_find?_eq_some hc, hid, hname, hemail⟩

/-! ### When the customer is created at the provider -/

/-- A payment that knows its customer could look for it. -/
theorem Steps.isStorable (h : a.Steps .begun ds g) (ht : s.Undergoes ds t) (hk : g.known?.isSome = true) :
    a.request.name.IsStorable ∧ a.request.email.IsStorable := by
  induction h generalizing t with
  | refl => cases hk
  | tail hsteps hstep ih =>
    obtain ⟨m, hm, hlast⟩ := undergoes_append.1 ht
    cases hstep with
    | record token key => cases hk
    | reuse row => exact askCustomer_isOk_iff.1 ⟨_, (undergoes_lookup.1 hlast).1.symm⟩
    | create reply key hreply => exact askCustomer_isOk_iff.1 ⟨_, (undergoes_lookup.1 hlast).1.symm⟩
    | own key => exact ih hm rfl
    | tokenize reply key hreply => exact ih hm rfl
    | log reply key hreply hstatus => exact ih hm rfl
    | charge key => exact ih hm rfl

/-- After a look that found nobody comes the call that creates the customer. -/
theorem posts_customers_of_lookup {reply : Provider.Reply} {later : List Deed}
    (h : s.Undergoes (.lookup a.request.name a.request.email (.ok none) ::
      .call a.customerCall reply :: later) t) :
    (∃ x ∈ s.exchanges (.lookup a.request.name a.request.email (.ok none) ::
        .call a.customerCall reply :: later), a.service.Posts "customers" x) ↔
      s.findCustomer? a.request.name a.request.email = none ∧ a.request.name.IsStorable ∧
        a.request.email.IsStorable := by
  have hlookup := (undergoes_lookup.1 h).1.symm
  refine iff_of_true ⟨_, List.mem_cons_self, rfl⟩ ⟨?_, askCustomer_isOk_iff.1 ⟨_, hlookup⟩⟩
  exact (askCustomer_eq_ok hlookup).symm

/-- A payment that ends when its method is written creates the customer at the provider, unless it cannot
look for it. -/
theorem Halts.posts_customers_iff {k : Recorded} {r : Except Failure PaymentResult}
    (h : a.Halts (.recorded k) ds r) (ht : s.Undergoes ds t) :
    (∃ x ∈ s.exchanges ds, a.service.Posts "customers" x) ↔
      s.findCustomer? a.request.name a.request.email = none ∧ a.request.name.IsStorable ∧
        a.request.email.IsStorable := by
  cases h with
  | lookupRefused e =>
    have hlookup := (undergoes_lookup.1 ht).1
    refine iff_of_false ?_ ?_
    · rintro ⟨x, hx, _⟩
      cases hx
    · rintro ⟨_, hstorable⟩
      obtain ⟨found, hfound⟩ := askCustomer_isOk_iff.2 hstorable
      rw [← hlookup] at hfound
      cases hfound
  | customerFailed reply hreply => exact posts_customers_of_lookup ht
  | customerRefused reply e hreply => exact posts_customers_of_lookup ht

/-- The call that created the customer is the one whose reply is known with the customer. -/
theorem Stage.customerReply {k : Known} {x : Exchange} {xs : List Exchange} (hlast : g.Last a t xs)
    (hx : x ∈ g.exchanges a s ++ xs) (hposts : a.service.Posts "customers" x) (hk : g.known? = some k) :
    k.customerReply = some x.reply := by
  rcases List.mem_append.1 hx with hx | hx
  · rcases Stage.mem_exchanges.1 hx with ⟨k', reply, hk', hreply, rfl⟩ | ⟨_, _, rfl⟩ | ⟨_, _, rfl⟩
    · obtain rfl := Option.some.inj (hk.symm.trans hk')
      exact hreply
    · exact absurd ((posts_cardCall rfl).1 hposts) (by decide)
    · exact absurd ((posts_chargeCall rfl).1 hposts) (by decide)
  · rcases (hlast.mem hx).2 with ⟨_, rfl, _⟩ | ⟨_, _, hcall, _⟩ | ⟨_, _, hcall, _⟩
    · cases hk
    · exact absurd ((posts_cardCall hcall).1 hposts) (by decide)
    · exact absurd ((posts_chargeCall hcall).1 hposts) (by decide)

/-- A payment that knows its customer has created it at the provider exactly when it found none. -/
theorem Stage.posts_customers_iff {k : Known} (hg : g.Agrees a s) (hk : g.known? = some k)
    {xs : List Exchange} (hlast : g.Last a t xs) :
    (∃ x ∈ g.exchanges a s ++ xs, a.service.Posts "customers" x) ↔
      s.findCustomer? a.request.name a.request.email = none := by
  have hagrees : k.Agrees a s := hg.known hk
  constructor
  · rintro ⟨x, hx, hposts⟩
    refine (hagrees.of_isNew hk ?_).1
    rw [Known.isNew, Stage.customerReply hlast hx hposts hk]
    rfl
  · intro hnone
    obtain ⟨reply, hreply⟩ := Option.isSome_iff_exists.1 (hagrees.notFound hnone).1
    have hx := (Stage.mem_exchanges (a := a) (s := s)).2 (.inl ⟨k, reply, hk, hreply, rfl⟩)
    exact ⟨_, List.mem_append_left _ hx, rfl⟩

end Attempt

/-! ### Whole payments -/

variable (s : PaymentService) (now : DateTime) (request : PaymentRequest) (d : Desk)

/-- A payment at a desk where nobody interferes leaves the store and makes the calls of a stage that it has
reached, and knows there what it was told. -/
theorem process_stage (hd : d.methodVanishes = false) :
    ∃ (a : Attempt) (g : Attempt.Stage) (xs : List Exchange), a.service = s ∧ a.request = request ∧
      g.Agrees a d.store ∧ g.Heard a ∧
      (d.run (s.process now request)).2.store = d.store.after (a.written g) ∧
      d.exchanges (s.process now request) = g.exchanges a d.store ++ xs ∧
      g.Last a (d.store.after (a.written g)) xs := by
  rcases s.process_halts now request d hd with
    ⟨e, -, hcalls, -, hfinal⟩ | ⟨a, g, last, rfl, rfl, hreached, hheard, hhalts, hlast, hfinal, hcalls⟩
  · exact ⟨⟨s, now, request, s.deviceSessionFor request, 0, 0⟩, .begun, [], rfl, rfl, trivial, trivial, hfinal,
      hcalls, rfl⟩
  · exact ⟨a, g, _, rfl, rfl, hreached.agrees, hheard, hfinal, hcalls, hhalts.last hlast⟩

/-- At every moment of a payment no two customers have the same name and address. -/
theorem isConsistent_passes (hd : d.methodVanishes = false) (hs : d.store.IsConsistent) {ds : List Deed}
    {u : Store} (h : Desk.Passes (s.process now request) d ds u) : u.IsConsistent := by
  rcases passes_stage hd h with rfl | ⟨a, g, _, hg, rfl⟩
  · exact hs
  · exact Attempt.isConsistent_after hs hg.agrees

/-- A payment leaves all customers where they are. -/
theorem customers_process (hd : d.methodVanishes = false) :
    d.store.customers.rows <+: (d.run (s.process now request)).2.store.customers.rows := by
  obtain ⟨a, g, _, _, _, hg, _, hfinal, _⟩ := s.process_stage now request d hd
  rw [hfinal]
  rcases Attempt.customers_cases hg with h | ⟨_, _, _, h⟩
  · exact ⟨[], (List.append_nil _).trans (congrArg Table.rows h.symm)⟩
  · rw [h]
    exact List.prefix_append _ _

/-- A payment does not change who is found, if anybody is. -/
theorem findCustomer?_process (hd : d.methodVanishes = false) {name email : Text} {c : CustomerRow}
    (h : d.store.findCustomer? name email = some c) :
    (d.run (s.process now request)).2.store.findCustomer? name email = some c := by
  obtain ⟨a, g, _, _, _, hg, _, hfinal, _⟩ := s.process_stage now request d hd
  rw [hfinal]
  rcases Attempt.customers_cases hg with hcustomers | ⟨k, _, hnone, hcustomers⟩
  · rw [Store.findCustomer?, Store.findCustomerWith, hcustomers]
    exact h
  · -- A new customer has a name and an address of which there was none.
    rw [Store.findCustomer?_of_insert hcustomers, h]
    rintro ⟨rfl, rfl⟩
    have hfound : d.store.findCustomer? a.request.name a.request.email = some c := h
    rw [hnone] at hfound
    cases hfound

/-- A customer that is named by the rows of a payment is that of its name and address. -/
theorem exists_of_gainsRowsOf_process (hd : d.methodVanishes = false) (hs : d.store.IsConsistent)
    {customer : Nat} (h : d.store.GainsRowsOf customer (d.run (s.process now request)).2.store) :
    ∃ c ∈ (d.run (s.process now request)).2.store.customers.rows, c.id = customer ∧
      c.name = request.name ∧ c.email = request.email := by
  obtain ⟨a, g, _, _, rfl, hg, _, hfinal, _⟩ := s.process_stage now request d hd
  rw [hfinal] at h ⊢
  exact Attempt.exists_of_gainsRowsOf hs hg h

/-- A payment that found one store and left another one behind reused a customer: it wrote none, no other
is named by what it wrote, and when it exchanged the card, its payment method belonged to the customer. -/
structure Reuses (s : PaymentService) (before after : Store) (xs : List Exchange) (c : CustomerRow) :
    Prop where
  customers : after.customers = before.customers
  rows : ∀ customer, before.GainsRowsOf customer after → customer = c.id
  method : (∃ x ∈ xs, s.Posts "cards" x) → before.GainsMethodOf c.id after

/-- A payment reuses the customer of its name and address. -/
theorem process_reuses (hd : d.methodVanishes = false) (hs : d.store.IsConsistent) {c : CustomerRow}
    (hc : c ∈ d.store.customers.rows) (hname : c.name = request.name) (hemail : c.email = request.email) :
    s.Reuses d.store (d.run (s.process now request)).2.store (d.exchanges (s.process now request)) c := by
  obtain ⟨a, g, xs, rfl, rfl, hg, _, hfinal, hcalls, hlast⟩ := s.process_stage now request d hd
  have hfound : d.store.findCustomer? a.request.name a.request.email = some c := by
    rw [← hname, ← hemail]
    exact hs.distinct.findCustomer?_eq hc
  have hcustomers : (d.store.after (a.written g)).customers = d.store.customers := by
    rcases Attempt.customers_cases hg with h | ⟨_, _, hnone, _⟩
    · exact h
    · rw [hnone] at hfound
      cases hfound
  rw [hfinal, hcalls]
  refine ⟨hcustomers, ?_, ?_⟩
  · intro customer hgains
    obtain ⟨c', hc', rfl, hname', hemail'⟩ := Attempt.exists_of_gainsRowsOf hs hg hgains
    rw [hcustomers] at hc'
    -- The customer that is named has the name and the address of the one that was there.
    have hfound' := hs.distinct.findCustomer?_eq hc'
    rw [hname', hemail', hfound] at hfound'
    rw [Option.some.inj hfound']
  · rintro ⟨x, hx, hposts⟩
    obtain ⟨k, hk, _⟩ := Attempt.Stage.of_posts_cards hlast hx hposts
    have hpayer : d.store.payerKey a.request = c.id := by
      unfold Store.payerKey
      rw [hfound]
      rfl
    rw [← hpayer]
    exact (Attempt.gainsMethodOf_iff hs.methods hg).2 (by rw [hk, Option.isSome_some])

/-- A payment that has written its payment method creates the customer at the provider exactly when there
is none of the name and address, and both can be looked for. -/
theorem process_posts_customers_iff (hd : d.methodVanishes = false)
    (hgained : (d.run (s.process now request)).2.store.methods.since d.store.methods ≠ []) :
    (∃ x ∈ d.exchanges (s.process now request), s.Posts "customers" x) ↔
      ¬d.store.HasCustomer request.name request.email ∧ request.name.IsStorable ∧
        request.email.IsStorable := by
  rw [d.exchanges_eq _ hd, ← Store.findCustomer?_eq_none_iff]
  rcases s.process_course now request d hd with
    ⟨_, _, _, _, hfinal⟩ | ⟨a, g, before, last, ha, hsteps, hhalts, hds, hreached, hbefore, hlast, hfinal⟩
  · rw [hfinal, Table.since_self] at hgained
    exact absurd rfl hgained
  · obtain ⟨year, month, rfl⟩ := eq_of_attempt ha
    rw [hds, Store.exchanges_append hbefore, hsteps.exchanges hbefore]
    cases hk : g.known? with
    | some k =>
      have hstorable := hsteps.isStorable hbefore (Option.isSome_iff_exists.2 ⟨k, hk⟩)
      have hcalls := Attempt.Stage.posts_customers_iff hreached.agrees hk (hhalts.last hlast)
      exact hcalls.trans ⟨fun hnone => ⟨hnone, hstorable⟩, fun h => h.1⟩
    | none =>
      cases g with
      | begun =>
        rw [hfinal, Attempt.written, Store.after_nil, Table.since_self] at hgained
        exact absurd rfl hgained
      | recorded k =>
        have hcalls := hhalts.posts_customers_iff hlast
        rw [hfinal, Attempt.written, Attempt.findCustomer?_methodWrite] at hcalls
        rw [hfinal]
        exact hcalls
      | _ => cases hk

end PaymentService

end CardPayments
