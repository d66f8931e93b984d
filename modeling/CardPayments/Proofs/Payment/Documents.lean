import CardPayments.Proofs.Json.Keys
import CardPayments.Proofs.Payment.Charge
import CardPayments.Proofs.Payment.Owners

/-!
# The documents behind a log

Behind the log of a charge are kept the text of the object that ordered it and the text of the answer.  The
first is the text that was posted, and both are read back as what they were (`DetailsRow.Keeps`), also when
they are nested or hold numbers of either kind.  The number and the check value of a card are never among what
is kept, unless the provider brings such a key with a name, an address or an identifier of its own
(`DetailsRow.HidesCard`).

Texts are whole when no two halves of a surrogate pair stand next to each other.  All texts that come by wire
are, and all texts that can be stored; what is neither is the device session of a request, and the addresses
of the service.  A text that is not whole goes over the wire like the one in which the halves are joined, and is
kept and read back as this one (`Json.writeString_joined`).
-/

namespace CardPayments

open Json Provider Provider.Account

/-! ### What is kept -/

/-- The text of the reply was decoded from bytes, and so holds no halves of surrogate pairs. -/
def Provider.Reply.IsDecoded (reply : Reply) : Prop :=
  ∀ status body, reply = .answered status body → body.IsStorable

instance : DecidablePred Provider.Reply.IsDecoded
  | .broken _ _ => isTrue nofun
  | .answered _ body => decidable_of_iff body.IsStorable
      ⟨fun h _ _ hsame => by cases hsame; exact h, fun h => h _ _ rfl⟩

/-- The documents of a call are kept in a row. -/
structure DetailsRow.Keeps (r : DetailsRow) (x : Exchange) : Prop where
  /-- The request is the text of the payload that was posted, -/
  request : r.postInfo = some x.call.payload.toText
  /-- which can be read, -/
  requestRead : Json.read x.call.payload.toText = .ok x.call.payload.received
  /-- and is read as the payload itself, if its texts are whole. -/
  requestSame : x.call.payload.IsDocument IsWhole → x.call.payload.received = x.call.payload
  /-- The answer is the text of the object with which the provider answered.  It can be read, and is read as
  this object, if the reply was decoded. -/
  answer : ∃ t fields, r.respInfo = some t ∧ answerOf x.reply = .ok (.object fields) ∧
    Json.read t = .ok (Value.object fields).received ∧
    (x.reply.IsDecoded → (Value.object fields).received = .object fields)

/-- The keys under which a card is posted to be exchanged for a token. -/
def secretKeys : List Text := ["card_number", "cvv2"]

/-- The provider answers with an object that has a key inside its identifier, its name or its address. -/
def Exchange.Returns (x : Exchange) (key : Text) : Prop :=
  ∃ fields, answerOf x.reply = .ok (.object fields) ∧
    ∃ name ∈ ["id", "name", "email"].map Text.ofString, (field fields name).HasKey key

/-- The keys of a card are nowhere in the request of a row, but where the provider itself returned them in one
of some calls. -/
def DetailsRow.HidesCard (r : DetailsRow) (xs : List Exchange) : Prop :=
  ∀ t v, r.postInfo = some t → Json.read t = .ok v → ∀ key ∈ secretKeys, v.HasKey key →
    ∃ x ∈ xs, x.Returns key

/-- What the texts of a service are when nothing but texts was said about it. -/
structure PaymentService.HasTextAddresses (s : PaymentService) : Prop where
  redirectUrl : ∃ t, s.redirectUrl = .text t
  defaultDeviceSession : ∃ t, s.defaultDeviceSession = .text t

/-- The texts by which customers are known can be stored. -/
def Store.HasStorableCustomers (s : Store) : Prop :=
  ∀ c ∈ s.customers.rows, c.name.IsStorable ∧ c.email.IsStorable ∧ c.apiCustomerId.IsStorable

/-- What is kept of the calls of a payment that found a store and left another one behind. -/
structure PaymentService.KeepsDocuments (s : PaymentService) (before after : Store) (xs : List Exchange) :
    Prop where
  /-- What was kept before stays. -/
  grows : before.details.rows <+: after.details.rows
  /-- The new rows keep the documents of calls that make charges, and hide the card. -/
  documents : ∃ calls : List Exchange, calls.Sublist (xs.filter fun x => s.Posts "charges" x) ∧
    List.Forall₂ (fun r x => r.Keeps x ∧ r.HidesCard xs) (after.details.since before.details) calls

/-! ### Customers that can be stored -/

namespace Store.HasStorableCustomers

variable {s : Store}

/-- A group of rows that is fit to be written brings no customer that cannot be stored. -/
theorem effect (h : s.HasStorableCustomers) {w : Write} (hw : w.IsFit s) : (w.effect s).HasStorableCustomers := by
  have hrequired {o : Offer} (ho : o.HasStorableText) : o.requiredText.IsStorable := by
    unfold Offer.requiredText
    cases ht : o.text with
    | none => exact Text.isStorable_nil
    | some t => exact ho t ht
  cases w with
  | customer d now =>
    have hsound := hw.1
    simp only [Write.AreSound, CustomerDraft.fields, List.forall_mem_append, List.forall_mem_cons,
      Field.isSound_text] at hsound
    obtain ⟨-, -, ⟨hname, -⟩, ⟨hemail, -⟩, -, ⟨hid, -⟩, -⟩ := hsound
    exact Table.forall_mem_insert h ⟨hrequired hname, hrequired hemail, hrequired hid⟩
  | _ => exact h

theorem after (h : s.HasStorableCustomers) {ws : List Write} (htakes : s.Takes ws) :
    (s.after ws).HasStorableCustomers := by
  induction ws generalizing s with
  | nil => exact h
  | cons w ws ih => exact ih (h.effect htakes.1) htakes.2

end Store.HasStorableCustomers

/-! ### Values -/

section Values

variable {P : Text → Prop} {key name : Text} {v : Value} {fields : List (Text × Value)} {reply : Reply}

/-- Answers are documents, and their texts are whole if the reply was decoded. -/
theorem isDocument_of_answerOf (h : answerOf reply = .ok v) :
    v.IsDocument fun t => reply.IsDecoded → IsWhole t := by
  cases reply with
  | broken kind message => cases h
  | answered status body =>
    rw [answerOf] at h
    split_ifs at h
    refine (isDocument_of_read (mapError_eq_ok.1 h)).mono fun t ht hdecoded => ?_
    exact ht (hdecoded status body rfl)

theorem isDocument_orEmpty (hempty : P []) (h : v.IsDocument P) : v.orEmpty.IsDocument P := by
  unfold Value.orEmpty
  split_ifs
  · exact h
  · exact .text [] hempty

theorem isDocument_field (h : (Value.object fields).IsDocument P) : (field fields name).IsDocument P := by
  cases h with
  | object _ hnodup hnames hfields => exact field_of_forall name .null hfields

theorem Value.hasKey_object : (Value.object fields).HasKey key ↔
    key ∈ fields.map Prod.fst ∨ ∃ f ∈ fields, f.2.HasKey key := by
  constructor
  · rintro (hmem | ⟨hmem, hkey⟩)
    · exact .inl (List.mem_map_of_mem hmem)
    · exact .inr ⟨_, hmem, hkey⟩
  · rintro (hmem | ⟨f, hmem, hkey⟩)
    · obtain ⟨f, hf, rfl⟩ := List.mem_map.1 hmem
      exact .here hf
    · exact .field hmem hkey

theorem hasKey_of_orEmpty (h : v.orEmpty.HasKey key) : v.HasKey key := by
  unfold Value.orEmpty at h
  split_ifs at h
  · exact h
  · cases h

/-- The names of the fields that are posted of a customer. -/
def customerNames : List Text := ["name", "email", "requires_account", "id"]

/-- A customer is posted as some fields with known names. -/
theorem Provider.Customer.exists_fields (c : Customer) :
    ∃ fields, c.toPayload = .object fields ∧ (fields.map Prod.fst).Sublist customerNames ∧
      ∀ f ∈ fields, f.2 = c.name ∨ f.2 = c.email ∨ f.2 = .bool c.requiresAccount ∨ f.2 = c.id := by
  refine ⟨_, rfl, ?_, ?_⟩
  · split_ifs
    · exact List.Sublist.refl _
    · exact List.take_sublist 3 customerNames
  · split_ifs <;> simp

theorem Provider.Customer.isDocument_toPayload {c : Customer} (hP : ∀ t : Text, t.IsStorable → P t)
    (hname : c.name.IsDocument P) (hemail : c.email.IsDocument P) (hid : c.id.IsDocument P) :
    c.toPayload.IsDocument P := by
  obtain ⟨fields, hpayload, hnames, hvalues⟩ := c.exists_fields
  have hstorable : ∀ name ∈ customerNames, name.IsStorable := by decide
  have hnodup : customerNames.Nodup := by decide
  rw [hpayload]
  refine .object fields (hnodup.sublist hnames) (fun f hf => ?_) (fun f hf => ?_)
  · exact hP f.1 (hstorable f.1 (hnames.subset (List.mem_map_of_mem hf)))
  · rcases hvalues f hf with h | h | h | h
    all_goals rw [h]
    · exact hname
    · exact hemail
    · exact .bool _
    · exact hid

theorem Provider.Customer.hasKey_of_toPayload {c : Customer} (hkey : key ∈ secretKeys)
    (h : c.toPayload.HasKey key) : c.name.HasKey key ∨ c.email.HasKey key ∨ c.id.HasKey key := by
  obtain ⟨fields, hpayload, hnames, hvalues⟩ := c.exists_fields
  have hsecret : ∀ key ∈ secretKeys, key ∉ customerNames := by decide
  rw [hpayload, Value.hasKey_object] at h
  rcases h with hname | ⟨f, hf, hinner⟩
  · exact absurd (hnames.subset hname) (hsecret key hkey)
  · rcases hvalues f hf with h | h | h | h
    all_goals rw [h] at hinner
    · exact .inl hinner
    · exact .inr (.inl hinner)
    · cases hinner
    · exact .inr (.inr hinner)

end Values

/-! ### The order of a charge -/

namespace PaymentService

namespace Attempt

open Store

variable {P : Text → Prop} {key : Text} {a : Attempt} {s : Store} {g : Stage} {k : Known} {l : Tokenized}
  {m : Logged} {x : Exchange}

theorem Stage.IsReached.tokenized (h : g.IsReached a s) (hl : g.tokenized? = some l) :
    (Stage.tokenized l).IsReached a s := by
  cases g <;> cases hl
  · exact h
  · exact h.of_logged.1
  · exact h.of_charged.1.of_logged.1

/-- The customer is one that was found, or one that the provider described. -/
theorem Known.customer_cases (hk : k.Agrees a s) (hheard : k.Heard) :
    (∃ row ∈ s.customers.rows, k.payer.customer = (payerOfRow row).customer) ∨
      ∃ reply fields, k.customerReply = some reply ∧ answerOf reply = .ok (.object fields) ∧
        k.payer.customer.name = (field fields "name").orEmpty ∧
        k.payer.customer.email = (field fields "email").orEmpty ∧ k.payer.customer.id = field fields "id" := by
  cases hfound : s.findCustomer? a.request.name a.request.email with
  | some row =>
    refine .inl ⟨row, (findCustomer?_eq_some hfound).1, ?_⟩
    rw [(hk.found row hfound).2]
  | none =>
    obtain ⟨reply, hreply⟩ := Option.isSome_iff_exists.1 (hk.notFound hfound).1
    obtain ⟨answer, hanswer, hcustomer⟩ := bind_eq_ok.1 (hheard reply hreply)
    obtain ⟨fields, date, rfl, -, hc⟩ := Customer.ofPayload_eq_ok.1 hcustomer
    exact .inr ⟨reply, fields, hreply, hanswer, by rw [hc], by rw [hc], by rw [hc]⟩

/-- The names of the fields that order a charge. -/
def orderNames : List Text :=
  ["method", "source_id", "amount", "currency", "description", "device_session_id", "order_id", "use_3d_secure",
    "redirect_url", "customer"]

section Documents

variable (hP : ∀ t : Text, t.IsStorable → P t)
  (hreplies : ∀ x ∈ g.exchanges a s, ∀ v, answerOf x.reply = .ok v → v.IsDocument P)
  (hrows : ∀ c ∈ s.customers.rows, P c.name ∧ P c.email ∧ P c.apiCustomerId)

include hP hreplies hrows

/-- The customer who pays is posted as a document. -/
theorem Known.isDocument_customer (hk : k.Agrees a s) (hheard : k.Heard) (hg : g.known? = some k) :
    k.payer.customer.toPayload.IsDocument P := by
  rcases Known.customer_cases hk hheard with ⟨row, hrow, hc⟩ | ⟨reply, fields, hreply, hanswer, hname, hemail, hid⟩
  · obtain ⟨hname, hemail, hid⟩ := hrows row hrow
    rw [hc]
    exact Customer.isDocument_toPayload hP (.text _ hname) (.text _ hemail) (.text _ hid)
  · have hx := (Stage.mem_exchanges (a := a) (s := s)).2 (.inl ⟨k, reply, hg, hreply, rfl⟩)
    have hfields := hreplies _ hx _ hanswer
    have hempty : P [] := hP [] Text.isStorable_nil
    refine Customer.isDocument_toPayload hP ?_ ?_ ?_
    · rw [hname]
      exact isDocument_orEmpty hempty (isDocument_field hfields)
    · rw [hemail]
      exact isDocument_orEmpty hempty (isDocument_field hfields)
    · rw [hid]
      exact isDocument_field hfields

/-- A charge is ordered by a document. -/
theorem Stage.isDocument_chargePayload (hg : g.IsReached a s) (hheard : g.Heard a) (hl : g.tokenized? = some l)
    (hredirect : a.service.redirectUrl.IsDocument P) (hsession : a.deviceSession.IsDocument P) :
    (a.chargePayload l).IsDocument P := by
  have hnodup : orderNames.Nodup := by decide
  have hnames : ∀ name ∈ orderNames, name.IsStorable := by decide
  have hknown : g.known? = some l.toKnown := known?_of_owned? (owned?_of_tokenized? hl)
  have hcustomer := Known.isDocument_customer hP hreplies hrows (hg.agrees.known hknown) (hheard.known hknown) hknown
  have horder : P a.request.orderId := hP _ (hg.tokenized hl).isStorable.order
  have hdescription : P ("Order: " ++ a.request.orderId) :=
    hP _ (Text.isStorable_append.2 ⟨Text.isStorable_ofString _, (hg.tokenized hl).isStorable.order⟩)
  have hsource : l.card.id.orEmpty.IsDocument P := by
    obtain ⟨fields, hanswer, hid⟩ := cardOf_eq_ok (hheard.tokenized hl).card
    have hx := (Stage.mem_exchanges (a := a) (s := s)).2 (.inr (.inl ⟨l, hl, rfl⟩))
    rw [hid]
    exact isDocument_orEmpty (hP [] Text.isStorable_nil) (isDocument_field (hreplies _ hx _ hanswer))
  refine .object _ hnodup ?_ ?_
  · intro f hf
    exact hP f.1 (hnames f.1 (List.mem_map_of_mem (f := Prod.fst) hf))
  · simp only [List.forall_mem_cons, List.not_mem_nil, false_implies, implies_true, and_true]
    exact ⟨.text _ (hP _ (MethodKind.isStorable_label _)), hsource, .float _,
      .text _ (hP _ (Text.isStorable_ofString _)), .text _ hdescription, hsession, .text _ horder, .bool true,
      hredirect, hcustomer⟩

end Documents

/-- A key of a card that is in the token was returned with it. -/
theorem Stage.exists_returns_token (hheard : g.Heard a) (hl : g.tokenized? = some l)
    (h : l.card.id.orEmpty.HasKey key) : ∃ x ∈ g.exchanges a s, x.Returns key := by
  obtain ⟨fields, hanswer, hid⟩ := cardOf_eq_ok (hheard.tokenized hl).card
  have hx := (Stage.mem_exchanges (a := a) (s := s)).2 (.inr (.inl ⟨l, hl, rfl⟩))
  rw [hid] at h
  exact ⟨_, hx, fields, hanswer, "id", by decide, hasKey_of_orEmpty h⟩

/-- A key of a card that is in the customer who pays was returned with the customer. -/
theorem Known.exists_returns (hk : k.Agrees a s) (hheard : k.Heard) (hg : g.known? = some k)
    (hkey : key ∈ secretKeys) (h : k.payer.customer.toPayload.HasKey key) :
    ∃ x ∈ g.exchanges a s, x.Returns key := by
  have hparts := Customer.hasKey_of_toPayload hkey h
  rcases Known.customer_cases hk hheard with ⟨row, -, hc⟩ | ⟨reply, fields, hreply, hanswer, hname, hemail, hid⟩
  · -- What is stored of a customer are texts.
    rw [hc] at hparts
    rcases hparts with h | h | h <;> cases h
  · have hx := (Stage.mem_exchanges (a := a) (s := s)).2 (.inl ⟨k, reply, hg, hreply, rfl⟩)
    rcases hparts with h | h | h
    · rw [hname] at h
      exact ⟨_, hx, fields, hanswer, "name", by decide, hasKey_of_orEmpty h⟩
    · rw [hemail] at h
      exact ⟨_, hx, fields, hanswer, "email", by decide, hasKey_of_orEmpty h⟩
    · rw [hid] at h
      exact ⟨_, hx, fields, hanswer, "id", by decide, h⟩

/-- A key of a card that is in the order of a charge was returned by the provider. -/
theorem Stage.exists_returns (hg : g.IsReached a s) (hheard : g.Heard a) (hl : g.tokenized? = some l)
    (hredirect : ∃ t, a.service.redirectUrl = .text t) (hsession : ∃ t, a.deviceSession = .text t)
    (hkey : key ∈ secretKeys) (h : (a.chargePayload l).HasKey key) :
    ∃ x ∈ g.exchanges a s, x.Returns key := by
  have hsecret : ∀ key ∈ secretKeys, key ∉ orderNames := by decide
  have hknown : g.known? = some l.toKnown := known?_of_owned? (owned?_of_tokenized? hl)
  obtain ⟨redirect, hredirect⟩ := hredirect
  obtain ⟨session, hsession⟩ := hsession
  rw [chargePayload, hredirect, hsession, Value.hasKey_object] at h
  rcases h with hname | ⟨f, hf, hinner⟩
  · exact absurd hname (hsecret key hkey)
  · -- Only the token and the customer are values that may have keys of their own.
    simp only [List.mem_cons, List.not_mem_nil, or_false] at hf
    rcases hf with rfl | rfl | rfl | rfl | rfl | rfl | rfl | rfl | rfl | rfl
    · cases hinner
    · exact Stage.exists_returns_token hheard hl hinner
    · cases hinner
    · cases hinner
    · cases hinner
    · cases hinner
    · cases hinner
    · cases hinner
    · cases hinner
    · exact Known.exists_returns (hg.agrees.known hknown) (hheard.known hknown) hknown hkey hinner

/-- The text of an order is read, whatever half of a surrogate pair it may hold. -/
theorem Stage.read_chargePayload (hg : g.IsReached a s) (hheard : g.Heard a) (hl : g.tokenized? = some l)
    (hredirect : ∃ t, a.service.redirectUrl = .text t) (hsession : ∃ t, a.deviceSession = .text t)
    (hstandard : (a.chargePayload l).isStandard = true) :
    Json.read (a.chargePayload l).toText = .ok (a.chargePayload l).received := by
  obtain ⟨redirect, hredirect⟩ := hredirect
  obtain ⟨session, hsession⟩ := hsession
  have hdocument : (a.chargePayload l).IsDocument fun _ => True := by
    refine Stage.isDocument_chargePayload (fun _ _ => trivial) (fun x _ v hv => ?_)
      (fun _ _ => ⟨trivial, trivial, trivial⟩) hg hheard hl ?_ ?_
    · exact (isDocument_of_answerOf hv).mono fun _ _ => trivial
    · rw [hredirect]
      exact .text _ trivial
    · rw [hsession]
      exact .text _ trivial
  exact read_toText (hdocument.isWritable hstandard)

/-! ### What a payment keeps -/

/-- The documents of a charge are kept in the row that is written for it. -/
theorem Stage.keeps (hg : g.IsReached a s) (hheard : g.Heard a) (hm : g.logged? = some m)
    (hredirect : ∃ t, a.service.redirectUrl = .text t) (hsession : ∃ t, a.deviceSession = .text t)
    (hx : x.call = a.chargeCall m.toTokenized) (hreply : x.reply = m.chargeReply) {r : DetailsRow}
    (hpost : r.postInfo = documentText (a.chargePayload m.toTokenized))
    (hresp : r.respInfo = documentText m.charge.raw) : r.Keeps x ∧ r.HidesCard (g.exchanges a s) := by
  have hl : g.tokenized? = some m.toTokenized := tokenized?_of_logged? hm
  have hlogged := (hg.logged hm).of_logged
  obtain ⟨-, hrequest, hanswer⟩ := (logWrite_isFit_iff hlogged.1).1 hlogged.2
  have hpayload : x.call.payload = a.chargePayload m.toTokenized := by
    rw [hx]
    rfl
  have hread := Stage.read_chargePayload hg hheard hl hredirect hsession hrequest
  refine ⟨⟨?_, ?_, Value.received_eq_self, ?_⟩, ?_⟩
  · rw [hpost, hpayload]
    rfl
  · rw [hpayload]
    exact hread
  · obtain ⟨answer, hreplied, hcharge⟩ := bind_eq_ok.1 (hheard.logged hm).charge
    obtain ⟨fields, _, _, _, rfl, -⟩ := Charge.ofPayload_eq_ok.1 hcharge
    have hraw : m.charge.raw = .object fields := raw_of_chargeOf (hheard.logged hm).charge hreplied
    have hdocument := isDocument_of_answerOf hreplied
    rw [hraw] at hanswer hresp
    rw [hreply]
    refine ⟨(Value.object fields).toText, fields, hresp, hreplied, read_toText (hdocument.isWritable hanswer), ?_⟩
    exact fun hdecoded => Value.received_eq_self (hdocument.mono fun t ht => ht hdecoded)
  · intro t v ht hv key hkey hhas
    have hplane : ∀ key ∈ secretKeys, ∀ c ∈ key, c.value < 0x10000 := by decide
    rw [hpost] at ht
    obtain rfl : (a.chargePayload m.toTokenized).toText = t := Option.some.inj ht
    rw [hread] at hv
    rw [← Except.ok.inj hv] at hhas
    exact Stage.exists_returns hg hheard hl hredirect hsession hkey
      (Value.hasKey_of_received (hplane key hkey) hhas)

/-- What is kept at the stage at which a payment ends. -/
theorem Stage.documents_after (hg : g.IsReached a s) (hheard : g.Heard a)
    (hredirect : ∃ t, a.service.redirectUrl = .text t) (hsession : ∃ t, a.deviceSession = .text t)
    (xs : List Exchange) :
    a.service.KeepsDocuments s (s.after (a.written g)) (g.exchanges a s ++ xs) := by
  cases hm : g.logged? with
  | none =>
    obtain ⟨-, hdetails⟩ := logs_of_not_logged (a := a) (s := s) hm
    constructor
    · rw [hdetails]
    · rw [hdetails, Table.since_self]
      exact ⟨[], List.nil_sublist _, .nil⟩
  | some m =>
    obtain ⟨-, hdetails⟩ := logs_of_logged (a := a) (s := s) hm
    have hx := (Stage.mem_exchanges (a := a) (s := s)).2 (.inr (.inr ⟨m, hm, rfl⟩))
    obtain ⟨hkeeps, hhides⟩ := Stage.keeps hg hheard hm hredirect hsession
      (x := ⟨a.chargeCall m.toTokenized, m.chargeReply, s.after (a.written (.tokenized m.toTokenized))⟩)
      (r := (a.logDraft m.payer m.method m.charge (PaymentStatus.codeOf m.status)).details
        (a.chargePayload m.toTokenized) m.charge.raw a.now s.logs.next s.details.next)
      rfl rfl rfl rfl
    constructor
    · rw [hdetails]
      exact List.prefix_append _ _
    · rw [hdetails, Table.since_insert_self]
      refine ⟨[_], List.singleton_sublist.2 ?_, .cons ⟨hkeeps, ?_⟩ .nil⟩
      · exact List.mem_filter.2 ⟨List.mem_append_left _ hx, decide_eq_true rfl⟩
      · intro t v ht hv key hkey hhas
        obtain ⟨y, hy, hreturns⟩ := hhides t v ht hv key hkey hhas
        exact ⟨y, List.mem_append_left _ hy, hreturns⟩

/-- Whatever charge is ordered, the texts of the order are whole if those of the request, the service, the store
and the replies are. -/
theorem Stage.isWhole_payload (hg : g.IsReached a s) (hheard : g.Heard a) {xs : List Exchange}
    (hlast : g.Last a (s.after (a.written g)) xs) (hrows : s.HasStorableCustomers)
    (hreplies : ∀ y ∈ g.exchanges a s ++ xs, y.reply.IsDecoded)
    (hredirect : a.service.redirectUrl.IsDocument IsWhole) (hsession : a.deviceSession.IsDocument IsWhole)
    (hx : x ∈ g.exchanges a s ++ xs) (hposts : a.service.Posts "charges" x) :
    x.call.payload.IsDocument IsWhole := by
  obtain ⟨l, hl, hcall, -⟩ := Stage.of_posts_charges hlast hx hposts
  rw [hcall]
  refine Stage.isDocument_chargePayload (fun t ht => isWhole_of_isStorable ht) (fun y hy v hv => ?_)
    (fun c hc => ?_) hg hheard hl hredirect hsession
  · have hdecoded := hreplies y (List.mem_append_left xs hy)
    exact (isDocument_of_answerOf hv).mono fun t ht => ht hdecoded
  · obtain ⟨hname, hemail, hid⟩ := hrows c hc
    exact ⟨isWhole_of_isStorable hname, isWhole_of_isStorable hemail, isWhole_of_isStorable hid⟩

end Attempt

theorem HasTextAddresses.deviceSessionFor {s : PaymentService} (h : s.HasTextAddresses) (request : PaymentRequest) :
    ∃ t, s.deviceSessionFor request = .text t := by
  unfold PaymentService.deviceSessionFor
  split_ifs
  · exact h.defaultDeviceSession
  · exact ⟨_, rfl⟩

variable (s : PaymentService) (now : DateTime) (request : PaymentRequest) (d : Desk)

/-- **What a payment keeps**: if it leaves a row with documents behind, these are the documents of the call that
makes its charge. -/
theorem process_keepsDocuments (hs : s.HasTextAddresses) (hd : d.methodVanishes = false) :
    s.KeepsDocuments d.store (d.run (s.process now request)).2.store (d.exchanges (s.process now request)) := by
  rw [d.exchanges_eq _ hd]
  rcases s.process_course now request d hd with
    ⟨_, _, hds, _, hfinal⟩ | ⟨a, g, before, last, ha, hsteps, hhalts, hds, hreached, hbefore, hlast, hfinal⟩
  · rw [hfinal]
    constructor
    · exact List.prefix_rfl
    · rw [Table.since_self]
      exact ⟨[], List.nil_sublist _, .nil⟩
  · obtain ⟨_, _, rfl⟩ := eq_of_attempt ha
    rw [hds, Store.exchanges_append hbefore, hsteps.exchanges hbefore, hfinal]
    exact Attempt.Stage.documents_after hreached (hsteps.heard trivial) hs.redirectUrl (hs.deviceSessionFor request) _

/-- The texts of a charge that a payment orders are whole if those of the request, the service, the store and the
replies are. -/
theorem process_isWhole (hd : d.methodVanishes = false) (hrows : d.store.HasStorableCustomers)
    (hreplies : ∀ y ∈ d.exchanges (s.process now request), y.reply.IsDecoded)
    (hredirect : s.redirectUrl.IsDocument IsWhole) (hsession : (s.deviceSessionFor request).IsDocument IsWhole)
    {x : Exchange} (hx : x ∈ d.exchanges (s.process now request)) (hposts : s.Posts "charges" x) :
    x.call.payload.IsDocument IsWhole := by
  rw [d.exchanges_eq _ hd] at hreplies hx
  rcases s.process_course now request d hd with
    ⟨_, _, hds, _, _⟩ | ⟨a, g, before, last, ha, hsteps, hhalts, hds, hreached, hbefore, hlast, hfinal⟩
  · rw [hds] at hx
    cases hx
  · obtain ⟨_, _, rfl⟩ := eq_of_attempt ha
    have hcalls := hhalts.last hlast
    rw [hds, Store.exchanges_append hbefore, hsteps.exchanges hbefore] at hreplies hx
    rw [hfinal] at hcalls hreplies hx
    exact Attempt.Stage.isWhole_payload hreached (hsteps.heard trivial) hcalls hrows hreplies hredirect hsession
      hx hposts

theorem process_hasStorableCustomers (hd : d.methodVanishes = false) (h : d.store.HasStorableCustomers) :
    (d.run (s.process now request)).2.store.HasStorableCustomers := by
  rcases s.process_course now request d hd with
    ⟨_, _, _, _, hfinal⟩ | ⟨a, g, _, _, _, _, _, _, hreached, _, _, hfinal⟩
  · rw [hfinal]
    exact h
  · rw [hfinal]
    exact h.after hreached.takes

end PaymentService

end CardPayments
