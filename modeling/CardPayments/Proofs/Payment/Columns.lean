import CardPayments.Proofs.Payment.Form
import CardPayments.Proofs.Payment.Owners
import CardPayments.Store.Check

/-!
# Whether an accepted request fits its columns

The form of a request bounds its texts (`PaymentRequest.isBounded_of_ofBody`), and a payment copies, masks
or cuts them into nine columns, which have bounds of their own.  At every moment of a payment there is room
in these columns for what came from the request, with one exception (`PaymentService.accepted_fits`): the
form lets through e-mail addresses that are longer than the column of the address is wide.
-/

namespace CardPayments

/-! ### Room in a column -/

namespace Entity

/-- The column of a kind of rows is wide enough for a text. -/
def HasRoomFor (e : Entity) (column t : Text) : Prop :=
  ∃ rule, e.textRules.find? (fun r => r.column = column) = some rule ∧ t.length ≤ rule.limit

theorem hasRoomFor_iff {e : Entity} {column t : Text} {rule : TextRule}
    (h : e.textRules.find? (fun r => r.column = column) = some rule) :
    e.HasRoomFor column t ↔ t.length ≤ rule.limit := by
  unfold HasRoomFor
  rw [h]
  constructor
  · rintro ⟨_, hrule, hlength⟩
    rw [Option.some.inj hrule]
    exact hlength
  · exact fun hlength => ⟨rule, rfl, hlength⟩

end Entity

/-- There is room for what a transaction has from the request. -/
structure TransactionRow.HasRoom (r : TransactionRow) : Prop where
  orderId : ∀ t ∈ r.orderId, Entity.transaction.HasRoomFor "order_id" t
  ownerName : Entity.transaction.HasRoomFor "credit_card_owner_name" r.ownerName
  cardNumber : Entity.transaction.HasRoomFor "credit_card_number" r.cardNumber
  cardCheck : Entity.transaction.HasRoomFor "credit_card_cvv2" r.cardCheck

/-- There is room for what a log has from the request. -/
structure LogRow.HasRoom (l : LogRow) : Prop where
  referenceNo : ∀ t ∈ l.referenceNo, Entity.log.HasRoomFor "reference_no" t
  ownerName : ∀ t ∈ l.ownerName, Entity.log.HasRoomFor "card_owner_name" t
  lastFour : ∀ t ∈ l.lastFour, Entity.log.HasRoomFor "last_four_card_nbr" t

/-! ### The lengths of an accepted request -/

/-- A text without faults is no longer than its field allows. -/
theorem FormField.length_le_of_faults {f : FormField} {t : Text} {limit : Nat} (h : f.faults t = [])
    (hlimit : f.limit = some limit) : t.length ≤ limit := by
  unfold faults at h
  rw [hlimit] at h
  by_contra hlong
  simp [Nat.lt_of_not_le hlong] at h

theorem Web.length_le_of_isEmailAddress {t : Text} (h : isEmailAddress t = true) :
    t.length ≤ emailLimit := by
  unfold isEmailAddress at h
  split at h
  · cases h
  · simp only [Bool.and_eq_true, decide_eq_true_eq] at h
    exact h.1.1

theorem PaymentForm.length_le_of_isDigits {least most : Nat} {t : Text}
    (h : isDigits least most t = true) : t.length ≤ most := by
  simp only [isDigits, Bool.and_eq_true, decide_eq_true_eq] at h
  exact h.1.2

namespace Card

theorem length_maskNumber_le (number : Text) : (maskNumber number).length ≤ number.length := by
  rw [length_maskNumber]
  exact List.length_filter_le _ _

theorem length_maskCheck_le (check : Text) : (maskCheck check).length ≤ 4 := by
  simp only [maskCheck, stars, List.length_replicate]
  omega

theorem length_lastFour_le (t : Text) : (lastFour t).length ≤ 4 := by
  simp only [lastFour, List.length_drop]
  omega

end Card

namespace PaymentRequest

/-- The texts of a request are no longer than the form allows. -/
structure IsBounded (r : PaymentRequest) : Prop where
  name : r.name.length ≤ 100
  email : r.email.length ≤ Web.emailLimit
  cardNumber : r.cardNumber.length ≤ 19
  orderId : r.orderId.length ≤ 50

theorem isBounded_of_ofBody {v : Json.Value} {r : PaymentRequest} (h : ofBody v = .ok r) :
    r.IsBounded := by
  obtain ⟨given, _, hname, hemail, _, _, _, _, _, horder⟩ := readFrom_of_ofBody h
  have haddress : Web.isEmailAddress r.email = true :=
    FormField.admits_of_faults (FormField.faults_of_readFrom hemail rfl).2
  constructor
  · exact FormField.length_le_of_faults (FormField.faults_of_readFrom hname rfl).2 rfl
  · exact Web.length_le_of_isEmailAddress haddress
  · exact PaymentForm.length_le_of_isDigits (isDigits_cardNumber h)
  · exact FormField.length_le_of_faults (FormField.faults_of_readFrom horder rfl).2 rfl

end PaymentRequest

/-! ### The rows of a payment -/

/-- Whatever is written, the customers, transactions and logs that are there stay as they are. -/
theorem Store.prefix_after (s : Store) (ws : List Write) :
    s.customers.rows <+: (s.after ws).customers.rows ∧
      s.transactions.rows <+: (s.after ws).transactions.rows ∧
      s.logs.rows <+: (s.after ws).logs.rows := by
  induction ws using List.reverseRecOn with
  | nil => exact ⟨List.prefix_rfl, List.prefix_rfl, List.prefix_rfl⟩
  | append_singleton ws w ih =>
    obtain ⟨hcustomers, htransactions, hlogs⟩ := ih
    rw [after_append, after_singleton]
    cases w with
    | customer d now => exact ⟨hcustomers.trans (List.prefix_append _ _), htransactions, hlogs⟩
    | transaction d notes now => exact ⟨hcustomers, htransactions.trans (List.prefix_append _ _), hlogs⟩
    | log d request answer now => exact ⟨hcustomers, htransactions, hlogs.trans (List.prefix_append _ _)⟩
    | _ => exact ⟨hcustomers, htransactions, hlogs⟩

namespace PaymentService

namespace Attempt

variable {a : Attempt} {s : Store} {g : Stage}

/-- A customer that a payment has written has the name and the address of the request. -/
theorem name_of_mem_since (hg : g.Agrees a s) {c : CustomerRow}
    (hc : c ∈ (s.after (a.written g)).customers.since s.customers) :
    c.name = a.request.name ∧ c.email = a.request.email := by
  rcases customers_cases hg with h | ⟨k, _, _, h⟩
  · rw [h, Table.since_self] at hc
    cases hc
  · rw [h, Table.since_insert_self] at hc
    obtain rfl := List.mem_singleton.1 hc
    exact ⟨rfl, rfl⟩

theorem hasRoom_of_mem_transactions (hrequest : a.request.IsBounded) {r : TransactionRow}
    (hr : r ∈ (s.after (a.written g)).transactions.since s.transactions) : r.HasRoom := by
  -- Both transactions have what is of the request from the same draft.
  have hdraft (h : r.orderId = some a.request.orderId) (howner : r.ownerName = a.request.name)
      (hnumber : r.cardNumber = Card.maskNumber a.request.cardNumber)
      (hcheck : r.cardCheck = Card.maskCheck a.request.check) : r.HasRoom := by
    constructor
    · intro t ht
      obtain rfl := Option.some.inj (h.symm.trans ht)
      exact (Entity.hasRoomFor_iff rfl).2 (hrequest.orderId.trans (by decide))
    · rw [howner]
      exact (Entity.hasRoomFor_iff rfl).2 (hrequest.name.trans (by decide))
    · rw [hnumber]
      refine (Entity.hasRoomFor_iff rfl).2 ((Card.length_maskNumber_le _).trans ?_)
      exact hrequest.cardNumber.trans (by decide)
    · rw [hcheck]
      exact (Entity.hasRoomFor_iff rfl).2 (Card.length_maskCheck_le _)
  obtain ⟨l, _, rfl | ⟨m, rfl, rfl⟩⟩ := transaction_cases hr <;> exact hdraft rfl rfl rfl rfl

theorem hasRoom_of_mem_logs (hrequest : a.request.IsBounded) {l : LogRow}
    (hl : l ∈ (s.after (a.written g)).logs.since s.logs) : l.HasRoom := by
  cases hm : g.logged? with
  | none =>
    rw [(logs_of_not_logged hm).1, Table.since_self] at hl
    cases hl
  | some m =>
    rw [(logs_of_logged hm).1, Table.since_insert_self] at hl
    obtain rfl := List.mem_singleton.1 hl
    constructor
    · intro t ht
      obtain rfl : a.request.orderId = t := Option.some.inj ht
      exact (Entity.hasRoomFor_iff rfl).2 (hrequest.orderId.trans (by decide))
    · intro t ht
      obtain rfl : a.request.name.take loggedNameLimit = t := Option.some.inj ht
      exact (Entity.hasRoomFor_iff rfl).2 (List.length_take_le _ _)
    · intro t ht
      obtain rfl : Card.lastFour a.request.cardNumber = t := Option.some.inj ht
      exact (Entity.hasRoomFor_iff rfl).2 (Card.length_lastFour_le _)

end Attempt

variable {s : PaymentService} {now : DateTime} {request : PaymentRequest} {d : Desk} {ds : List Deed}
  {u : Store} {v : Json.Value}

/-- **Accepted requests and columns**: at every moment of a payment of an accepted request, every
transaction and every log that was not there before has room for all that it has from the request, and
every customer that was not there before has room for its name.  For its address there is room exactly
when the address of the request has at most 254 code points, and the form admits up to 320. -/
theorem accepted_fits (hd : d.methodVanishes = false) (hbody : PaymentRequest.ofBody v = .ok request)
    (h : Desk.Passes (s.process now request) d ds u) :
    (∀ c ∈ u.customers.rows, c ∈ d.store.customers.rows ∨
      Entity.customer.HasRoomFor "name" c.name ∧ c.email.length ≤ Web.emailLimit ∧
        (Entity.customer.HasRoomFor "email" c.email ↔ request.email.length ≤ 254)) ∧
      (∀ r ∈ u.transactions.rows, r ∈ d.store.transactions.rows ∨ r.HasRoom) ∧
      ∀ l ∈ u.logs.rows, l ∈ d.store.logs.rows ∨ l.HasRoom := by
  have hrequest : request.IsBounded := PaymentRequest.isBounded_of_ofBody hbody
  rcases passes_stage hd h with rfl | ⟨a, g, ha, hg, rfl⟩
  · exact ⟨fun c hc => .inl hc, fun r hr => .inl hr, fun l hl => .inl hl⟩
  · obtain ⟨_, _, rfl⟩ := eq_of_attempt ha
    obtain ⟨hcustomers, htransactions, hlogs⟩ := d.store.prefix_after (Attempt.written _ g)
    refine ⟨fun c hc => ?_, fun r hr => ?_, fun l hl => ?_⟩
    · refine (Table.mem_or_mem_since hcustomers hc).imp_right fun hnew => ?_
      obtain ⟨hname, hemail⟩ := Attempt.name_of_mem_since hg.agrees hnew
      rw [hname, hemail]
      have hrule : Entity.customer.textRules.find? (fun r => r.column = Text.ofString "email") =
          some ⟨"email", 254, false, .email⟩ := rfl
      exact ⟨(Entity.hasRoomFor_iff rfl).2 (hrequest.name.trans (by decide)), hrequest.email,
        Entity.hasRoomFor_iff hrule⟩
    · exact (Table.mem_or_mem_since htransactions hr).imp_right
        (Attempt.hasRoom_of_mem_transactions hrequest)
    · exact (Table.mem_or_mem_since hlogs hl).imp_right (Attempt.hasRoom_of_mem_logs hrequest)

/-! ### A trial -/

/-- An address of 262 code points. -/
def trialLongAddress : Text := List.replicate 250 (CodePoint.ofChar 'a') ++ "@example.com"

/-- The body that asks for the trial payment with the long address. -/
def trialLongBody : Json.Value :=
  .object [("name", Session.trialRequest.name), ("email", trialLongAddress),
    ("card_number", Session.trialRequest.cardNumber),
    ("expiration_year", Session.trialRequest.expirationYear),
    ("expiration_month", Session.trialRequest.expirationMonth), ("cvv2", Session.trialRequest.check),
    ("order_id", Session.trialRequest.orderId)]

/-- The request with the long address. -/
def trialLongRequest : PaymentRequest := { Session.trialRequest with email := trialLongAddress }

/-- The store after the payment of the request with the long address. -/
def trialLongStore : Store :=
  ((trialDesk trialCharge).run (trialService.process trialTime trialLongRequest)).2.store

/-- The request with the long address is accepted and paid.  Its customer has an address that is too long
for the column; there is room for everything else. -/
theorem trial_long_address :
    (trialDesk trialCharge).methodVanishes = false ∧
      PaymentRequest.ofBody trialLongBody = .ok trialLongRequest ∧
      trialLongStore.customers.rows.length = 1 ∧ trialLongStore.transactions.rows.length = 2 ∧
      trialLongStore.logs.rows.length = 1 ∧
      (∀ c ∈ trialLongStore.customers.rows,
        Entity.customer.HasRoomFor "name" c.name ∧ ¬Entity.customer.HasRoomFor "email" c.email) ∧
      (∀ r ∈ trialLongStore.transactions.rows, r.HasRoom) ∧
      ∀ l ∈ trialLongStore.logs.rows, l.HasRoom := by
  have hbody : PaymentRequest.ofBody trialLongBody = .ok trialLongRequest := by
    have hread : (PaymentRequest.ofBody trialLongBody).toOption = some trialLongRequest := by
      decide +kernel
    cases hresult : PaymentRequest.ofBody trialLongBody with
    | error e =>
      rw [hresult] at hread
      cases hread
    | ok r =>
      rw [hresult] at hread
      rw [Option.some.inj hread]
  have hlong : ¬trialLongRequest.email.length ≤ 254 := by decide +kernel
  obtain ⟨hcustomers, htransactions, hlogs⟩ := accepted_fits (d := trialDesk trialCharge) rfl hbody
    (Desk.passes_end (trialService.process trialTime trialLongRequest) (trialDesk trialCharge))
  refine ⟨rfl, hbody, by decide +kernel, by decide +kernel, by decide +kernel, fun c hc => ?_,
    fun r hr => ?_, fun l hl => ?_⟩
  · rw [trialLongStore] at hc
    obtain ⟨hname, _, hemail⟩ := (hcustomers c hc).resolve_left List.not_mem_nil
    exact ⟨hname, fun hroom => hlong (hemail.1 hroom)⟩
  · rw [trialLongStore] at hr
    exact (htransactions r hr).resolve_left List.not_mem_nil
  · rw [trialLongStore] at hl
    exact (hlogs l hl).resolve_left List.not_mem_nil

end PaymentService

end CardPayments
