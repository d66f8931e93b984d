import CardPayments.Proofs.Payment.Rows
import Mathlib.Data.List.Nodup

/-!
# Which calls a payment makes, and when

The calls on the way to a stage are known from the stage (`Steps.exchanges`), and halting adds at most
one more (`Halts.last`).  From this follow the order of the calls, that a call whose reply is of no use
is the last one, and that the card is only exchanged, and the charge only made, when the rows that
record the step before are in the store.  `PaymentService.process_calls` says so for a whole payment.
-/

namespace CardPayments

open Provider.Account Json

namespace PaymentService

/-- The address of a path of the merchant. -/
def urlOf (s : PaymentService) (path : Text) : Text := s.account.baseUrl ++ "/" ++ path

theorem urlOf_inj {s : PaymentService} {path path' : Text} :
    s.urlOf path = s.urlOf path' ↔ path = path' := List.append_right_inj _

theorem injective_urlOf (s : PaymentService) : Function.Injective s.urlOf := fun _ _ => urlOf_inj.1

/-- The paths under which a whole payment calls, in order.  The customer is only created when there is
none of the name and address. -/
def callPaths (request : PaymentRequest) (before : Store) : List Text :=
  if (before.findCustomer? request.name request.email).isNone then ["customers", "cards", "charges"]
  else ["cards", "charges"]

theorem nodup_callPaths (request : PaymentRequest) (before : Store) :
    (callPaths request before).Nodup := by
  unfold callPaths
  split_ifs <;> decide

/-- A call posts under a path of the merchant. -/
def Posts (s : PaymentService) (path : Text) (x : Exchange) : Prop := x.call.url = s.urlOf path

instance (s : PaymentService) (path : Text) (x : Exchange) : Decidable (s.Posts path x) :=
  inferInstanceAs (Decidable (x.call.url = s.urlOf path))

/-- Nothing can be made of the reply to a call. -/
inductive Fails (s : PaymentService) (x : Exchange) : Prop where
  /-- The call broke on the way, was not accepted, or its answer is no JSON. -/
  | noAnswer (e : Failure) : answerOf x.reply = .error e → Fails s x
  /-- The answer does not describe the customer. -/
  | noCustomer (e : Failure) : s.Posts "customers" x → customerOf x.reply = .error e → Fails s x
  /-- The answer does not describe the card. -/
  | noCard (session : Value) (e : Failure) :
      s.Posts "cards" x → cardOf session x.reply = .error e → Fails s x
  /-- The answer does not describe the charge. -/
  | noCharge (e : Failure) : s.Posts "charges" x → chargeOf x.reply = .error e → Fails s x

variable (s : PaymentService) (request : PaymentRequest) (before after : Store) (xs : List Exchange)

/-- The answer to one of some calls under a path is an object with these fields. -/
def Answers (path : Text) (fields : List (Text × Value)) : Prop :=
  ∃ x ∈ xs, s.Posts path x ∧ answerOf x.reply = .ok (.object fields)

/-- The provider's name for the customer who pays: the stored one of the customer that was there, or that
of the answer to the call that created it. -/
def NamesPayer (name : Value) : Prop :=
  match before.findCustomer? request.name request.email with
  | some row => name = .text row.apiCustomerId
  | none => ∃ fields, s.Answers xs "customers" fields ∧ name = Provider.field fields "id"

/-- The object that orders a charge names the order of the request, the token that the card was exchanged
for, and the customer who pays, if the provider has a name for it. -/
structure OrdersCharge (order : List (Text × Value)) : Prop where
  orderId : Value.lookup? "order_id" order = some (.text request.orderId)
  token : ∃ card, s.Answers xs "cards" card ∧
    Value.lookup? "source_id" order = some (Provider.field card "id").orEmpty
  payer : ∃ name fields, s.NamesPayer request before xs name ∧
    Value.lookup? "customer" order = some (.object fields) ∧
    Value.lookup? "id" fields = if name.isTruthy then some name else none

/-- What is to be said of the calls of a payment of a request that found a store and left another one
behind. -/
structure OrderlyCalls : Prop where
  /-- They are the first few of a whole payment, in order. -/
  inOrder : xs.map (·.call.url) <+: (callPaths request before).map s.urlOf
  /-- None is made twice. -/
  once : (xs.map (·.call.url)).Nodup
  /-- One of which nothing can be made is the last one. -/
  failed_last : ∀ x ∈ xs, s.Fails x → xs.getLast? = some x
  /-- The card is exchanged exactly when the payment method has its owner. -/
  cards_iff : (∃ x ∈ xs, s.Posts "cards" x) ↔ before.GainsMethodOf (before.payerKey request) after
  /-- The payment method had its owner by then. -/
  cards_after : ∀ x ∈ xs, s.Posts "cards" x →
    before.GainsMethodOf (before.payerKey request) x.store
  /-- The charge is made exactly when the transaction for the token is written. -/
  charges_iff : (∃ x ∈ xs, s.Posts "charges" x) ↔ before.GainsTransaction .tokenization after
  /-- The transaction was written by then. -/
  charges_after : ∀ x ∈ xs, s.Posts "charges" x →
    before.GainsTransaction .tokenization x.store
  /-- The charge is ordered for what was found out before. -/
  ordered : ∀ x ∈ xs, s.Posts "charges" x →
    ∃ order, x.call.payload = .object order ∧ s.OrdersCharge request before xs order

namespace Attempt

open Store

/-! ### The calls on the way to a stage -/

section Exchanges

variable (a : Attempt) (s : Store)

/-- The calls until the customer is known. -/
def Known.exchanges (k : Known) : List Exchange :=
  (k.customerReply.map fun reply =>
    ⟨a.customerCall, reply, s.after (a.written (.recorded k.toRecorded))⟩).toList

/-- The calls until the card is exchanged. -/
def Tokenized.exchanges (k : Tokenized) : List Exchange :=
  k.toKnown.exchanges a s ++ [⟨a.cardCall, k.cardReply, s.after (a.written (.owned k.toKnown))⟩]

/-- The calls until the charge is made. -/
def Logged.exchanges (k : Logged) : List Exchange :=
  k.toTokenized.exchanges a s ++
    [⟨a.chargeCall k.toTokenized, k.chargeReply, s.after (a.written (.tokenized k.toTokenized))⟩]

/-- The calls on the way to a stage of a payment that began in a store. -/
def Stage.exchanges : Stage → List Exchange
  | .begun => []
  | .recorded _ => []
  | .known k => k.exchanges a s
  | .owned k => k.exchanges a s
  | .tokenized k => k.exchanges a s
  | .logged k => k.exchanges a s
  | .charged k => k.exchanges a s

/-- The calls with which a payment ends at a stage. -/
def Stage.Last (t : Store) (xs : List Exchange) : Stage → Prop
  | .recorded _ =>
    xs = [] ∨ t.findCustomer? a.request.name a.request.email = none ∧
      ∃ reply, xs = [⟨a.customerCall, reply, t⟩]
  | .owned _ => ∃ reply, xs = [⟨a.cardCall, reply, t⟩]
  | .tokenized k => ∃ reply, xs = [⟨a.chargeCall k, reply, t⟩]
  | _ => xs = []

end Exchanges

variable {a : Attempt} {s t : Store} {g i : Stage} {ds : List Deed}

theorem Step.exchanges (h : a.Step g ds i) :
    g.exchanges a s ++ (s.after (a.written g)).exchanges ds = i.exchanges a s := by
  cases h with
  | record token key => rw [exchanges_write]; rfl
  | reuse row => rfl
  | create reply key hreply =>
    rw [Store.exchanges, Store.exchanges, exchanges_write]
    rfl
  | own key => rw [exchanges_write]; exact List.append_nil _
  | tokenize reply key hreply =>
    rw [Store.exchanges, exchanges_write]
    rfl
  | log reply key hreply hstatus =>
    rw [Store.exchanges, exchanges_write]
    rfl
  | charge key => rw [exchanges_write]; exact List.append_nil _

/-- The calls of some steps, one after the other. -/
theorem Steps.exchanges (h : a.Steps .begun ds g) (ht : s.Undergoes ds t) :
    s.exchanges ds = g.exchanges a s := by
  generalize hfirst : Stage.begun = first at h
  induction h generalizing t with
  | refl =>
    subst hfirst
    rfl
  | tail hsteps hstep ih =>
    obtain ⟨m, hm, hlast⟩ := undergoes_append.1 ht
    subst hfirst
    -- The last step starts from the store with all that is written at its stage.
    rw [exchanges_append hm, ih hm, (hsteps.undergoes hm).2, hstep.exchanges]

theorem Halts.last {r : Except Failure PaymentResult} (h : a.Halts g ds r) (ht : s.Undergoes ds t) :
    g.Last a s (s.exchanges ds) := by
  cases h with
  | methodRefused token e => exact exchanges_write
  | lookupRefused e => exact .inl rfl
  -- The customer is only created when the store has none.
  | customerFailed reply hreply =>
    have hnone := askCustomer_eq_ok (undergoes_lookup.1 ht).1.symm
    exact .inr ⟨hnone.symm, reply, rfl⟩
  | customerRefused reply e hreply =>
    have hnone := askCustomer_eq_ok (undergoes_lookup.1 ht).1.symm
    refine .inr ⟨hnone.symm, reply, ?_⟩
    rw [Store.exchanges, Store.exchanges, exchanges_write]
  | ownerRefused e => exact exchanges_write
  | methodGone => exact exchanges_write
  | cardFailed reply hreply => exact ⟨reply, rfl⟩
  | tokenRefused reply e hreply =>
    refine ⟨reply, ?_⟩
    rw [Store.exchanges, exchanges_write]
  | chargeFailed reply hreply => exact ⟨reply, rfl⟩
  | statusFailed reply hreply hstatus => exact ⟨reply, rfl⟩
  | logRefused reply e hreply hstatus =>
    refine ⟨reply, ?_⟩
    rw [Store.exchanges, exchanges_write]
  | chargeRefused e => exact exchanges_write
  | paid => rfl

/-! ### Which call is which -/

variable {k : Known} {l : Tokenized} {x : Exchange} {xs : List Exchange}

/-- The calls on the way to a stage: the one that created the customer, if it is new, the one that
exchanged the card, and the one that made the charge, each as soon as the payment has come beyond it. -/
theorem Stage.mem_exchanges :
    x ∈ g.exchanges a s ↔
      (∃ k reply, g.known? = some k ∧ k.customerReply = some reply ∧
        x = ⟨a.customerCall, reply, s.after (a.written (.recorded k.toRecorded))⟩) ∨
      (∃ l, g.tokenized? = some l ∧
        x = ⟨a.cardCall, l.cardReply, s.after (a.written (.owned l.toKnown))⟩) ∨
      ∃ m, g.logged? = some m ∧
        x = ⟨a.chargeCall m.toTokenized, m.chargeReply, s.after (a.written (.tokenized m.toTokenized))⟩ := by
  have hknown {k : Known} : x ∈ k.exchanges a s ↔ ∃ reply, k.customerReply = some reply ∧
      x = ⟨a.customerCall, reply, s.after (a.written (.recorded k.toRecorded))⟩ := by
    unfold Known.exchanges
    cases k.customerReply <;> simp
  cases g <;> simp [Stage.exchanges, Logged.exchanges, Tokenized.exchanges, hknown, known?, tokenized?,
    logged?]

/-- The calls with which a payment ends at a stage: at most one, and the next after those on the way. -/
theorem Stage.Last.mem (h : g.Last a t xs) (hx : x ∈ xs) :
    xs = [x] ∧
      ((∃ k, g = .recorded k ∧ t.findCustomer? a.request.name a.request.email = none ∧
          x.call = a.customerCall) ∨
        (∃ k, g = .owned k ∧ x.call = a.cardCall ∧ x.store = t) ∨
        ∃ l, g = .tokenized l ∧ x.call = a.chargeCall l ∧ x.store = t) := by
  cases g with
  | recorded k =>
    rcases h with rfl | ⟨hnone, reply, rfl⟩
    · cases hx
    · obtain rfl := List.mem_singleton.1 hx
      exact ⟨rfl, .inl ⟨k, rfl, hnone, rfl⟩⟩
  | owned k =>
    obtain ⟨reply, rfl⟩ := h
    obtain rfl := List.mem_singleton.1 hx
    exact ⟨rfl, .inr (.inl ⟨k, rfl, rfl, rfl⟩)⟩
  | tokenized l =>
    obtain ⟨reply, rfl⟩ := h
    obtain rfl := List.mem_singleton.1 hx
    exact ⟨rfl, .inr (.inr ⟨l, rfl, rfl, rfl⟩)⟩
  | _ =>
    obtain rfl : xs = [] := h
    cases hx

theorem posts_customerCall {path : Text} (h : x.call = a.customerCall) :
    a.service.Posts path x ↔ "customers" = path := by
  rw [Posts, h]
  exact urlOf_inj

theorem posts_cardCall {path : Text} (h : x.call = a.cardCall) :
    a.service.Posts path x ↔ "cards" = path := by
  rw [Posts, h]
  exact urlOf_inj

theorem posts_chargeCall {path : Text} (h : x.call = a.chargeCall l) :
    a.service.Posts path x ↔ "charges" = path := by
  rw [Posts, h]
  exact urlOf_inj

/-- The card is exchanged when the payment method has its owner. -/
theorem Stage.of_posts_cards (hlast : g.Last a (s.after (a.written g)) xs)
    (hx : x ∈ g.exchanges a s ++ xs) (hposts : a.service.Posts "cards" x) :
    ∃ k, g.owned? = some k ∧ x.call = a.cardCall ∧ x.store = s.after (a.written (.owned k)) := by
  rcases List.mem_append.1 hx with hx | hx
  · rcases Stage.mem_exchanges.1 hx with ⟨_, _, _, _, rfl⟩ | ⟨l, hl, rfl⟩ | ⟨_, _, rfl⟩
    · exact absurd ((posts_customerCall rfl).1 hposts) (by decide)
    · exact ⟨l.toKnown, owned?_of_tokenized? hl, rfl, rfl⟩
    · exact absurd ((posts_chargeCall rfl).1 hposts) (by decide)
  · rcases (hlast.mem hx).2 with ⟨_, _, _, hcall⟩ | ⟨k, rfl, hcall, hstore⟩ | ⟨_, _, hcall, _⟩
    · exact absurd ((posts_customerCall hcall).1 hposts) (by decide)
    · exact ⟨k, rfl, hcall, hstore⟩
    · exact absurd ((posts_chargeCall hcall).1 hposts) (by decide)

/-- The charge is made when the transaction for the token is written. -/
theorem Stage.of_posts_charges (hlast : g.Last a (s.after (a.written g)) xs)
    (hx : x ∈ g.exchanges a s ++ xs) (hposts : a.service.Posts "charges" x) :
    ∃ l, g.tokenized? = some l ∧ x.call = a.chargeCall l ∧
      x.store = s.after (a.written (.tokenized l)) := by
  rcases List.mem_append.1 hx with hx | hx
  · rcases Stage.mem_exchanges.1 hx with ⟨_, _, _, _, rfl⟩ | ⟨_, _, rfl⟩ | ⟨m, hm, rfl⟩
    · exact absurd ((posts_customerCall rfl).1 hposts) (by decide)
    · exact absurd ((posts_cardCall rfl).1 hposts) (by decide)
    · exact ⟨m.toTokenized, tokenized?_of_logged? hm, rfl, rfl⟩
  · rcases (hlast.mem hx).2 with ⟨_, _, _, hcall⟩ | ⟨_, _, hcall, _⟩ | ⟨l, rfl, hcall, hstore⟩
    · exact absurd ((posts_customerCall hcall).1 hposts) (by decide)
    · exact absurd ((posts_cardCall hcall).1 hposts) (by decide)
    · exact ⟨l, rfl, hcall, hstore⟩

/-- The card is exchanged at the latest when the payment ends. -/
theorem Stage.posts_cards (hk : g.owned? = some k) (hlast : g.Last a t xs) :
    ∃ x ∈ g.exchanges a s ++ xs, a.service.Posts "cards" x := by
  cases hl : g.tokenized? with
  | some l =>
    have hx := (Stage.mem_exchanges (a := a) (s := s)).2 (.inr (.inl ⟨l, hl, rfl⟩))
    exact ⟨_, List.mem_append_left _ hx, rfl⟩
  | none =>
    cases g <;> cases hl <;> cases hk
    obtain ⟨reply, rfl⟩ := hlast
    exact ⟨_, List.mem_append_right _ (List.mem_singleton_self _), rfl⟩

/-- The charge is made at the latest when the payment ends. -/
theorem Stage.posts_charges (hl : g.tokenized? = some l) (hlast : g.Last a t xs) :
    ∃ x ∈ g.exchanges a s ++ xs, a.service.Posts "charges" x := by
  cases hm : g.logged? with
  | some m =>
    have hx := (Stage.mem_exchanges (a := a) (s := s)).2 (.inr (.inr ⟨m, hm, rfl⟩))
    exact ⟨_, List.mem_append_left _ hx, rfl⟩
  | none =>
    cases g <;> cases hm <;> cases hl
    obtain ⟨reply, rfl⟩ := hlast
    exact ⟨_, List.mem_append_right _ (List.mem_singleton_self _), rfl⟩

/-! ### Calls that fail -/

/-- Something was made of all replies on the way to a stage. -/
theorem Stage.not_fails (hg : g.Heard a) (hx : x ∈ g.exchanges a s) : ¬a.service.Fails x := by
  -- Where a call posts says what is to be made of its reply, so it cannot have failed in another way.
  rcases Stage.mem_exchanges.1 hx with ⟨k, reply, hk, hreply, rfl⟩ | ⟨l, hl, rfl⟩ | ⟨m, hm, rfl⟩
  · have hok : customerOf reply = .ok k.payer.customer := hg.known hk reply hreply
    rintro (⟨e, he⟩ | ⟨e, _, he⟩ | ⟨session, e, hposts, _⟩ | ⟨e, hposts, _⟩)
    · rw [customerOf, he] at hok
      cases hok
    · rw [he] at hok
      cases hok
    · exact absurd ((posts_customerCall rfl).1 hposts) (by decide)
    · exact absurd ((posts_customerCall rfl).1 hposts) (by decide)
  · have hok : cardOf a.deviceSession l.cardReply = .ok l.card := (hg.tokenized hl).card
    rintro (⟨e, he⟩ | ⟨e, hposts, _⟩ | ⟨session, e, _, he⟩ | ⟨e, hposts, _⟩)
    · rw [cardOf, he] at hok
      cases hok
    · exact absurd ((posts_cardCall rfl).1 hposts) (by decide)
    · obtain ⟨card, hcard⟩ := cardOf_isOk hok session
      rw [he] at hcard
      cases hcard
    · exact absurd ((posts_cardCall rfl).1 hposts) (by decide)
  · have hok : chargeOf m.chargeReply = .ok m.charge := (hg.logged hm).charge
    rintro (⟨e, he⟩ | ⟨e, hposts, _⟩ | ⟨session, e, hposts, _⟩ | ⟨e, _, he⟩)
    · rw [chargeOf, he] at hok
      cases hok
    · exact absurd ((posts_chargeCall rfl).1 hposts) (by decide)
    · exact absurd ((posts_chargeCall rfl).1 hposts) (by decide)
    · rw [he] at hok
      cases hok

theorem Stage.failed_last (hg : g.Heard a) (hlast : g.Last a t xs)
    (hx : x ∈ g.exchanges a s ++ xs) (hfails : a.service.Fails x) :
    (g.exchanges a s ++ xs).getLast? = some x := by
  -- What is left is the call with which the payment ends.
  rcases List.mem_append.1 hx with hx | hx
  · exact absurd hfails (Stage.not_fails hg hx)
  · rw [(hlast.mem hx).1, List.getLast?_concat]

/-! ### All calls of a payment -/

/-- The calls on the way to a stage and the last one are the first few of a whole payment. -/
theorem Stage.inOrder (hg : g.Agrees a s) (hlast : g.Last a (s.after (a.written g)) xs) :
    (g.exchanges a s ++ xs).map (·.call.url) <+: (callPaths a.request s).map a.service.urlOf := by
  -- Whether the customer is new is what the store says about the name and the address.
  have hknown {k : Known} (hk : k.Agrees a s) : (callPaths a.request s).map a.service.urlOf =
      (k.exchanges a s).map (·.call.url) ++ [a.cardCall.url, a.service.urlOf "charges"] := by
    unfold callPaths Known.exchanges
    cases hfound : s.findCustomer? a.request.name a.request.email with
    | some row =>
      have hold := (hk.found row hfound).1
      rw [Known.isNew, Option.isSome_eq_false_iff, Option.isNone_iff_eq_none] at hold
      rw [hold]
      rfl
    | none =>
      obtain ⟨reply, hreply⟩ := Option.isSome_iff_exists.1 (hk.notFound hfound).1
      rw [hreply]
      rfl
  cases g with
  | begun =>
    obtain rfl : xs = [] := hlast
    exact List.nil_prefix
  | recorded k =>
    rcases hlast with rfl | ⟨hnone, reply, rfl⟩
    · exact List.nil_prefix
    · rw [written, findCustomer?_methodWrite] at hnone
      rw [callPaths, hnone]
      exact ⟨_, rfl⟩
  | known k =>
    obtain rfl : xs = [] := hlast
    rw [hknown hg, List.append_nil]
    exact List.prefix_append _ _
  | owned k =>
    obtain ⟨reply, rfl⟩ := hlast
    rw [hknown hg, List.map_append]
    exact (List.prefix_append_right_inj _).2 ⟨_, rfl⟩
  | tokenized l =>
    obtain ⟨reply, rfl⟩ := hlast
    rw [hknown hg, Stage.exchanges, Tokenized.exchanges, List.append_assoc, List.map_append]
    exact List.prefix_rfl
  | logged m =>
    obtain rfl : xs = [] := hlast
    rw [hknown hg, Stage.exchanges, Logged.exchanges, Tokenized.exchanges, List.append_nil,
      List.append_assoc, List.map_append]
    exact List.prefix_rfl
  | charged m =>
    obtain rfl : xs = [] := hlast
    rw [hknown hg, Stage.exchanges, Logged.exchanges, Tokenized.exchanges, List.append_nil,
      List.append_assoc, List.map_append]
    exact List.prefix_rfl

/-- The name under which the customer is charged is the one that was found out. -/
theorem Stage.namesPayer (hg : g.Agrees a s) (hheard : g.Heard a) (hl : g.tokenized? = some l) :
    a.service.NamesPayer a.request s (g.exchanges a s ++ xs) l.payer.customer.id := by
  have hk : g.known? = some l.toKnown := known?_of_owned? (owned?_of_tokenized? hl)
  have hagrees : l.toKnown.Agrees a s := hg.known hk
  unfold NamesPayer
  cases hfound : s.findCustomer? a.request.name a.request.email with
  | some row =>
    show l.payer.customer.id = .text row.apiCustomerId
    rw [(hagrees.found row hfound).2]
    rfl
  | none =>
    obtain ⟨reply, hreply⟩ := Option.isSome_iff_exists.1 (hagrees.notFound hfound).1
    obtain ⟨fields, hfields, hid⟩ := customerOf_eq_ok (hheard.known hk reply hreply)
    have hx := (Stage.mem_exchanges (a := a) (s := s)).2 (.inl ⟨_, reply, hk, hreply, rfl⟩)
    exact ⟨fields, ⟨_, List.mem_append_left _ hx, rfl, hfields⟩, hid⟩

/-- The charge is ordered for the order of the request, the token and the customer. -/
theorem Stage.ordersCharge (hg : g.Agrees a s) (hheard : g.Heard a) (hl : g.tokenized? = some l) :
    ∃ order, (a.chargeCall l).payload = .object order ∧
      a.service.OrdersCharge a.request s (g.exchanges a s ++ xs) order := by
  obtain ⟨card, hcard, hid⟩ := cardOf_eq_ok (hheard.tokenized hl).card
  have hx := (Stage.mem_exchanges (a := a) (s := s)).2 (.inr (.inl ⟨l, hl, rfl⟩))
  refine ⟨_, rfl, rfl, ⟨card, ⟨_, List.mem_append_left _ hx, rfl, hcard⟩, ?_⟩, _, _,
    Stage.namesPayer hg hheard hl, rfl, ?_⟩
  · rw [← hid]
    rfl
  · -- A name that does not count as present is left out.
    split_ifs with hname <;> rfl

/-- What is to be said of the calls of a payment holds of those on the way to the stage at which it ends
and the last one. -/
theorem Stage.orderlyCalls (hs : s.methods.IsFresh) (hg : g.Agrees a s) (hheard : g.Heard a)
    (hlast : g.Last a (s.after (a.written g)) xs) :
    a.service.OrderlyCalls a.request s (s.after (a.written g)) (g.exchanges a s ++ xs) := by
  have hinOrder := Stage.inOrder hg hlast
  refine ⟨hinOrder, ?_, fun x => Stage.failed_last hheard hlast, ?_, ?_, ?_, ?_, ?_⟩
  · -- The paths of a whole payment are distinct, and so are the addresses.
    have hnodup := List.Nodup.map a.service.injective_urlOf (nodup_callPaths a.request s)
    exact hnodup.sublist (List.IsPrefix.sublist hinOrder)
  · rw [gainsMethodOf_iff hs hg]
    constructor
    · rintro ⟨x, hx, hposts⟩
      obtain ⟨k, hk, _⟩ := Stage.of_posts_cards hlast hx hposts
      rw [hk, Option.isSome_some]
    · intro h
      obtain ⟨k, hk⟩ := Option.isSome_iff_exists.1 h
      exact Stage.posts_cards hk hlast
  · intro x hx hposts
    obtain ⟨k, hk, _, hstore⟩ := Stage.of_posts_cards hlast hx hposts
    rw [hstore, gainsMethodOf_iff hs (g := .owned k) (hg.known (known?_of_owned? hk))]
    rfl
  · rw [gainsTransaction_tokenization_iff]
    constructor
    · rintro ⟨x, hx, hposts⟩
      obtain ⟨l, hl, _⟩ := Stage.of_posts_charges hlast hx hposts
      rw [hl, Option.isSome_some]
    · intro h
      obtain ⟨l, hl⟩ := Option.isSome_iff_exists.1 h
      exact Stage.posts_charges hl hlast
  · intro x hx hposts
    obtain ⟨l, _, _, hstore⟩ := Stage.of_posts_charges hlast hx hposts
    rw [hstore, gainsTransaction_tokenization_iff]
    rfl
  · intro x hx hposts
    obtain ⟨l, hl, hcall, _⟩ := Stage.of_posts_charges hlast hx hposts
    rw [hcall]
    exact Stage.ordersCharge hg hheard hl

end Attempt

variable (s : PaymentService) (now : DateTime) (request : PaymentRequest) (d : Desk)

/-- A payment at a desk where nobody interferes fails before it does anything, or it reaches a stage and halts
there.  Its calls are then those on the way and the one with which it halts. -/
theorem process_halts (hd : d.methodVanishes = false) :
    (∃ e, s.attempt now request = .error e ∧ d.exchanges (s.process now request) = [] ∧
        (d.run (s.process now request)).1 = .error e ∧ (d.run (s.process now request)).2.store = d.store) ∨
      ∃ (a : Attempt) (g : Attempt.Stage) (last : List Deed), a.service = s ∧ a.request = request ∧
        g.IsReached a d.store ∧ g.Heard a ∧ a.Halts g last (d.run (s.process now request)).1 ∧
        (d.store.after (a.written g)).Undergoes last (d.store.after (a.written g)) ∧
        (d.run (s.process now request)).2.store = d.store.after (a.written g) ∧
        d.exchanges (s.process now request) =
          g.exchanges a d.store ++ (d.store.after (a.written g)).exchanges last := by
  rw [d.exchanges_eq _ hd]
  rcases s.process_course now request d hd with
    ⟨e, he, hds, hr, hfinal⟩ | ⟨a, g, before, last, ha, hsteps, hhalts, hds, hreached, hbefore, hlast, hfinal⟩
  · rw [hds]
    exact .inl ⟨e, he, rfl, hr, hfinal⟩
  · obtain ⟨_, _, rfl⟩ := eq_of_attempt ha
    rw [hds, Store.exchanges_append hbefore, hsteps.exchanges hbefore]
    rw [hfinal] at hlast ⊢
    exact .inr ⟨_, g, last, rfl, rfl, hreached, hsteps.heard trivial, hhalts, hlast, rfl, rfl⟩

/-- **The calls of a payment**: they are the first few of creating the customer, exchanging the card and
making the charge, each made once at most, and whatever fails is the last.  The card is only exchanged,
and the charge only made, when the rows of the step before are in the store, and then they always are. -/
theorem process_calls (hd : d.methodVanishes = false) (hfresh : d.store.methods.IsFresh) :
    (d.run (s.process now request)).2.calls =
        d.calls ++ (d.exchanges (s.process now request)).map Exchange.call ∧
      s.OrderlyCalls request d.store (d.run (s.process now request)).2.store
        (d.exchanges (s.process now request)) := by
  refine ⟨d.calls_run _, ?_⟩
  rw [d.exchanges_eq _ hd]
  rcases s.process_course now request d hd with
    ⟨_, _, hds, _, hfinal⟩ | ⟨a, g, before, last, ha, hsteps, hhalts, hds, hreached, hbefore, hlast, hfinal⟩
  · rw [hds, hfinal]
    let a : Attempt := ⟨s, now, request, s.deviceSessionFor request, 0, 0⟩
    exact Attempt.Stage.orderlyCalls (a := a) (g := .begun) hfresh trivial trivial rfl
  · obtain ⟨_, _, rfl⟩ := eq_of_attempt ha
    rw [hds, Store.exchanges_append hbefore, hsteps.exchanges hbefore]
    have hcalls := hhalts.last hlast
    rw [hfinal] at hcalls ⊢
    exact Attempt.Stage.orderlyCalls hfresh hreached.agrees (hsteps.heard trivial) hcalls

/-- The trial payment makes all three calls, as a whole payment does. -/
theorem trial_calls :
    (trialDesk trialCharge).methodVanishes = false ∧ (trialDesk trialCharge).store.methods.IsFresh ∧
      (trialExchanges trialCharge).length = 3 ∧
      trialService.OrderlyCalls Session.trialRequest (trialDesk trialCharge).store
        (trialOutcome trialCharge).2.store (trialExchanges trialCharge) := by
  have hfresh : (trialDesk trialCharge).store.methods.IsFresh := Table.isFresh_empty
  have hlength : (trialExchanges trialCharge).length = 3 := by decide +kernel
  refine ⟨rfl, hfresh, hlength, ?_⟩
  rw [trialOutcome, trialExchanges]
  exact (process_calls trialService trialTime Session.trialRequest (trialDesk trialCharge) rfl hfresh).2

end PaymentService

end CardPayments
