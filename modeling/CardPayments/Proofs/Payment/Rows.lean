import CardPayments.Proofs.Payment.Groups

/-!
# The rows that a payment leaves

Which rows the store has gained when a payment has come to a stage: a payment method with an owner, a
transaction for the token, a log of the charge, a transaction for the charge.  Each is there exactly
from one stage on, and no later step changes it.
-/

namespace CardPayments

/-! ### Gained rows -/

namespace Store

/-- The key of the customer who pays: that of the oldest one of the name and address, or the next one. -/
def payerKey (s : Store) (request : PaymentRequest) : Nat :=
  ((s.findCustomer? request.name request.email).map CustomerRow.id).getD s.customers.next

variable (s : Store)

/-- A store has gained a payment method with an owner. -/
def GainsMethodOf (payer : Nat) (t : Store) : Prop :=
  ∃ r ∈ t.methods.since s.methods, r.audit.createdBy = some (payer : Int) ∧
    r.audit.updatedBy = some (payer : Int)

/-- A store has gained a transaction of a kind with its history. -/
def GainsTransaction (kind : TransactionKind) (t : Store) : Prop :=
  ∃ r ∈ t.transactions.since s.transactions, r.transactionType = kind.label ∧
    ∃ h ∈ t.histories.since s.histories, h.transactionId = r.id

instance (kind : TransactionKind) (t : Store) : Decidable (s.GainsTransaction kind t) :=
  inferInstanceAs (Decidable (∃ r ∈ t.transactions.since s.transactions, r.transactionType = kind.label ∧
    ∃ h ∈ t.histories.since s.histories, h.transactionId = r.id))

/-- A store has gained no transaction of a kind. -/
def LacksTransaction (kind : TransactionKind) (t : Store) : Prop :=
  ∀ r ∈ t.transactions.since s.transactions, r.transactionType ≠ kind.label

/-- A store has gained a log with details that hold an answer. -/
def GainsLog (answer : Json.Value) (t : Store) : Prop :=
  ∃ r ∈ t.logs.since s.logs, ∃ details ∈ t.details.since s.details,
    details.logId = r.id ∧ details.respInfo = documentText answer

end Store

namespace PaymentService

namespace Attempt

open Store

/-! ### How far a payment has come -/

/-- What is known when the customer is, if the payment has come so far. -/
def Stage.known? : Stage → Option Known
  | .known k => some k
  | .owned k => some k
  | .tokenized k => some k.toKnown
  | .logged k => some k.toKnown
  | .charged k => some k.toKnown
  | _ => none

/-- What is known when the payment method has its owner, if the payment has come so far. -/
def Stage.owned? : Stage → Option Known
  | .owned k => some k
  | .tokenized k => some k.toKnown
  | .logged k => some k.toKnown
  | .charged k => some k.toKnown
  | _ => none

/-- What is known when the transaction for the token is written, if the payment has come so far. -/
def Stage.tokenized? : Stage → Option Tokenized
  | .tokenized k => some k
  | .logged k => some k.toTokenized
  | .charged k => some k.toTokenized
  | _ => none

/-- What is known when the log of the charge is written, if the payment has come so far. -/
def Stage.logged? : Stage → Option Logged
  | .logged k => some k
  | .charged k => some k
  | _ => none

variable {a : Attempt} {s : Store} {g : Stage} {k : Known} {l : Tokenized} {m : Logged}

theorem known?_of_owned? (h : g.owned? = some k) : g.known? = some k := by
  cases g <;> cases h <;> rfl

theorem owned?_of_tokenized? (h : g.tokenized? = some l) : g.owned? = some l.toKnown := by
  cases g <;> cases h <;> rfl

theorem tokenized?_of_logged? (h : g.logged? = some m) : g.tokenized? = some m.toTokenized := by
  cases g <;> cases h <;> rfl

theorem Stage.Agrees.known (hg : g.Agrees a s) (h : g.known? = some k) : k.Agrees a s := by
  cases g <;> cases h <;> exact hg

theorem Stage.Heard.logged (hg : g.Heard a) (h : g.logged? = some m) : m.Heard a := by
  cases g <;> cases h <;> exact hg

theorem Stage.Heard.tokenized (hg : g.Heard a) (h : g.tokenized? = some l) : l.Heard a := by
  cases g <;> cases h
  · exact hg
  · exact hg.card
  · exact hg.card

theorem Stage.Heard.known (hg : g.Heard a) (h : g.known? = some k) : k.Heard := by
  cases g <;> cases h
  · exact hg
  · exact hg
  · exact hg.customer
  · exact hg.card.customer
  · exact hg.card.customer

theorem Known.Agrees.payerKey (hk : k.Agrees a s) : k.payer.id = s.payerKey a.request := by
  unfold Store.payerKey
  cases hfound : s.findCustomer? a.request.name a.request.email with
  | some row => rw [(hk.found row hfound).2]; rfl
  | none => exact (hk.notFound hfound).2

/-! ### The payment method -/

theorem methods_known :
    (s.after (a.written (.known k))).methods = s.methods.insert (a.methodDraft k.token).row := by
  rw [written, knownGroups]
  split_ifs <;> rfl

theorem methods_owned (hs : s.methods.IsFresh) (hk : k.Agrees a s) :
    (s.after (a.written (.owned k))).methods = s.methods.insert fun key =>
      ((a.methodDraft k.token).row key).stamped (ownerStamp (keyOffer k.payer.id) a.now) := by
  rw [written_owned, after_append, after_singleton, ownerWrite, Write.effect, methods_known, hk.method]
  -- The owner is that of the row that was just added, and older rows have other keys.
  exact Table.modify_insert hs rfl

/-- After the payment method has its owner, no payment method changes. -/
theorem methods_written (hk : g.owned? = some k) :
    (s.after (a.written g)).methods = (s.after (a.written (.owned k))).methods := by
  cases g <;> cases hk
  · rfl
  · rw [written_tokenized, after_append]
    rfl
  · rw [written_logged, written_tokenized, after_append, after_append]
    rfl
  · rw [written_charged, written_logged, written_tokenized, after_append, after_append, after_append]
    rfl

/-- The store has gained a payment method with its owner exactly when the payment has come so far. -/
theorem gainsMethodOf_iff (hs : s.methods.IsFresh) (hg : g.Agrees a s) :
    s.GainsMethodOf (s.payerKey a.request) (s.after (a.written g)) ↔ g.owned?.isSome = true := by
  cases hk : g.owned? with
  | some k =>
    refine iff_of_true ?_ rfl
    have hagrees : k.Agrees a s := hg.known (known?_of_owned? hk)
    rw [GainsMethodOf, methods_written hk, methods_owned hs hagrees, Table.since_insert_self,
      ← hagrees.payerKey]
    exact ⟨_, List.mem_singleton_self _, rfl, rfl⟩
  | none =>
    refine iff_of_false ?_ Bool.false_ne_true
    rintro ⟨r, hr, hcreated, _⟩
    -- Until then there is no new row at all, or one without an owner.
    cases g with
    | begun =>
      rw [written, after_nil, Table.since_self] at hr
      cases hr
    | recorded k =>
      obtain rfl := List.mem_singleton.1 (Table.since_insert_self (t := s.methods) ▸ hr)
      cases hcreated
    | known k =>
      rw [methods_known, Table.since_insert_self] at hr
      obtain rfl := List.mem_singleton.1 hr
      cases hcreated
    | _ => cases hk

/-! ### Transactions and logs -/

/-- Until the payment method has its owner, there are no new transactions or logs. -/
theorem tables_owned :
    let t := s.after (a.written (.owned k))
    t.transactions = s.transactions ∧ t.histories = s.histories ∧ t.logs = s.logs ∧
      t.details = s.details := by
  intro t
  have ht : t = (a.ownerWrite k).effect (s.after (a.knownGroups k)) := after_append
  rw [ht, knownGroups]
  split_ifs <;> exact ⟨rfl, rfl, rfl, rfl⟩

/-- Until the token is written, there are no new transactions or logs. -/
theorem tables_of_not_tokenized (hl : g.tokenized? = none) :
    let t := s.after (a.written g)
    t.transactions = s.transactions ∧ t.logs = s.logs ∧ t.details = s.details := by
  cases g with
  | begun => exact ⟨rfl, rfl, rfl⟩
  | recorded k => exact ⟨rfl, rfl, rfl⟩
  | known k =>
    rw [written, knownGroups]
    split_ifs <;> exact ⟨rfl, rfl, rfl⟩
  | owned k => exact ⟨tables_owned.1, tables_owned.2.2⟩
  | _ => cases hl

theorem cutNotes_tokenNotes : cutNotes tokenNotes = .ok tokenNotes := rfl

/-- With the token come its transaction and the history of it. -/
theorem tables_tokenized :
    let t := s.after (a.written (.tokenized l))
    let draft := a.tokenDraft l.payer l.card
    t.transactions = s.transactions.insert draft.row ∧
      t.histories = s.histories.insert
        ((draft.firstHistory tokenNotes a.now).row s.transactions.next) ∧
      t.logs = s.logs ∧ t.details = s.details := by
  intro t draft
  obtain ⟨htransactions, hhistories, hlogs, hdetails⟩ := tables_owned (a := a) (s := s) (k := l.toKnown)
  have ht : t = (a.tokenWrite l).effect (s.after (a.written (.owned l.toKnown))) := by
    show s.after (a.written (.tokenized l)) = _
    rw [written_tokenized, after_append]
    rfl
  rw [ht, ← htransactions, ← hhistories, ← hlogs, ← hdetails]
  refine ⟨rfl, ?_, rfl, rfl⟩
  rw [tokenWrite, Write.effect, cutNotes_tokenNotes]
  rfl

/-- With the log come its details. -/
theorem tables_logged :
    let t := s.after (a.written (.logged m))
    let before := s.after (a.written (.tokenized m.toTokenized))
    let draft := a.logDraft m.payer m.method m.charge (PaymentStatus.codeOf m.status)
    t.transactions = before.transactions ∧ t.histories = before.histories ∧
      t.logs = s.logs.insert draft.row ∧
      t.details = s.details.insert
        (draft.details (a.chargePayload m.toTokenized) m.charge.raw a.now s.logs.next) := by
  intro t before draft
  obtain ⟨_, _, hlogs, hdetails⟩ := tables_tokenized (a := a) (s := s) (l := m.toTokenized)
  have ht : t = (a.logWrite m).effect before := by
    show s.after (a.written (.logged m)) = _
    rw [written_logged, after_append]
    rfl
  rw [ht, ← hlogs, ← hdetails]
  exact ⟨rfl, rfl, rfl, rfl⟩

/-- With the charge come its transaction and the history of it. -/
theorem tables_charged :
    let t := s.after (a.written (.charged m))
    let before := s.after (a.written (.logged m))
    let draft := a.chargeDraft m.payer m.charge m.status
    t.transactions = before.transactions.insert draft.row ∧
      (∃ notes, t.histories = before.histories.insert
        ((draft.firstHistory notes a.now).row before.transactions.next)) ∧
      t.logs = before.logs ∧ t.details = before.details := by
  intro t before draft
  have ht : t = (a.chargeWrite m).effect before := by
    show s.after (a.written (.charged m)) = _
    rw [written_charged, after_append]
    rfl
  rw [ht]
  exact ⟨rfl, ⟨_, rfl⟩, rfl, rfl⟩

/-! ### What is gained -/

variable (a s l) in
/-- The row of the transaction for the token. -/
def tokenRow : TransactionRow := (a.tokenDraft l.payer l.card).row s.transactions.next

variable (a s l) in
/-- The history of the transaction for the token. -/
def tokenHistory : HistoryRow :=
  ((a.tokenDraft l.payer l.card).firstHistory tokenNotes a.now).row s.transactions.next
    s.histories.next

theorem since_tokenized :
    let t := s.after (a.written (.tokenized l))
    t.transactions.since s.transactions = [a.tokenRow s l] ∧
      t.histories.since s.histories = [a.tokenHistory s l] := by
  intro t
  obtain ⟨htransactions, hhistories, _⟩ := tables_tokenized (a := a) (s := s) (l := l)
  rw [htransactions, hhistories]
  exact ⟨Table.since_insert_self, Table.since_insert_self⟩

theorem since_logged :
    let t := s.after (a.written (.logged m))
    t.transactions.since s.transactions = [a.tokenRow s m.toTokenized] ∧
      t.histories.since s.histories = [a.tokenHistory s m.toTokenized] := by
  intro t
  obtain ⟨htransactions, hhistories, _⟩ := tables_logged (a := a) (s := s) (m := m)
  rw [htransactions, hhistories]
  exact since_tokenized

theorem since_charged :
    let t := s.after (a.written (.charged m))
    ∃ r h, t.transactions.since s.transactions = [a.tokenRow s m.toTokenized, r] ∧
      t.histories.since s.histories = [a.tokenHistory s m.toTokenized, h] ∧
      r.transactionType = TransactionKind.charge.label ∧ h.transactionId = r.id := by
  intro t
  obtain ⟨htransactions, ⟨notes, hhistories⟩, _⟩ := tables_charged (a := a) (s := s) (m := m)
  obtain ⟨hold, hold', _⟩ := tables_logged (a := a) (s := s) (m := m)
  obtain ⟨htoken, htoken', _⟩ := tables_tokenized (a := a) (s := s) (l := m.toTokenized)
  obtain ⟨hsince, hsince'⟩ := since_logged (a := a) (s := s) (m := m)
  let before := s.after (a.written (.logged m))
  let draft := a.chargeDraft m.payer m.charge m.status
  -- The charge comes behind the token, and so under a key of its own.
  refine ⟨draft.row before.transactions.next,
    (draft.firstHistory notes a.now).row before.transactions.next before.histories.next, ?_, ?_, rfl, rfl⟩
  · rw [htransactions, Table.since_insert, hsince]
    · rfl
    · rw [hold, htoken]
      exact (List.prefix_append _ _).length_le
  · rw [hhistories, Table.since_insert, hsince']
    · rfl
    · rw [hold', htoken']
      exact (List.prefix_append _ _).length_le

/-- The store has gained a transaction for the token exactly when the payment has come so far. -/
theorem gainsTransaction_tokenization_iff :
    s.GainsTransaction .tokenization (s.after (a.written g)) ↔ g.tokenized?.isSome = true := by
  have hgains {t : Store} {later : List TransactionRow} {later' : List HistoryRow} {l : Tokenized}
      (h : t.transactions.since s.transactions = a.tokenRow s l :: later)
      (h' : t.histories.since s.histories = a.tokenHistory s l :: later') :
      s.GainsTransaction .tokenization t := by
    rw [GainsTransaction, h, h']
    exact ⟨_, List.mem_cons_self, rfl, _, List.mem_cons_self, rfl⟩
  cases hl : g.tokenized? with
  | some l =>
    refine iff_of_true ?_ rfl
    cases g with
    | tokenized l => exact hgains since_tokenized.1 since_tokenized.2
    | logged m => exact hgains since_logged.1 since_logged.2
    | charged m =>
      obtain ⟨r, h, hr, hh, _⟩ := since_charged (a := a) (s := s) (m := m)
      exact hgains hr hh
    | _ => cases hl
  | none =>
    refine iff_of_false ?_ Bool.false_ne_true
    rintro ⟨r, hr, _⟩
    rw [(tables_of_not_tokenized hl).1, Table.since_self] at hr
    cases hr

/-- The store has gained a transaction for the charge exactly when the payment has come to its end. -/
theorem gainsTransaction_charge_iff :
    s.GainsTransaction .charge (s.after (a.written g)) ↔ ∃ m, g = .charged m := by
  -- The transaction for the token is of another kind.
  have hlacks {t : Store} {l : Tokenized} (h : t.transactions.since s.transactions = [a.tokenRow s l]) :
      ¬s.GainsTransaction .charge t := by
    rintro ⟨r, hr, hkind, _⟩
    rw [h] at hr
    obtain rfl := List.mem_singleton.1 hr
    exact absurd (show TransactionKind.tokenization.label = TransactionKind.charge.label from hkind)
      (by decide)
  have hnone (hl : g.tokenized? = none) : ¬s.GainsTransaction .charge (s.after (a.written g)) := by
    rintro ⟨r, hr, _⟩
    rw [(tables_of_not_tokenized hl).1, Table.since_self] at hr
    cases hr
  cases g with
  | charged m =>
    obtain ⟨r, h, hr, hh, hkind, hid⟩ := since_charged (a := a) (s := s) (m := m)
    refine iff_of_true ?_ ⟨m, rfl⟩
    rw [GainsTransaction, hr, hh]
    exact ⟨r, List.mem_cons_of_mem _ (List.mem_singleton_self _), hkind, h,
      List.mem_cons_of_mem _ (List.mem_singleton_self _), hid⟩
  | tokenized l => exact iff_of_false (hlacks since_tokenized.1) fun ⟨_, h⟩ => Stage.noConfusion h
  | logged m => exact iff_of_false (hlacks since_logged.1) fun ⟨_, h⟩ => Stage.noConfusion h
  | _ => exact iff_of_false (hnone rfl) fun ⟨_, h⟩ => Stage.noConfusion h

/-- The store has gained a log of an answer exactly when the payment has come so far and the answer is
that which described the charge. -/
theorem gainsLog_iff {answer : Json.Value} :
    s.GainsLog answer (s.after (a.written g)) ↔
      ∃ m, g.logged? = some m ∧ documentText m.charge.raw = documentText answer := by
  have hgains {t : Store} {m : Logged}
      (h : t.logs = (s.after (a.written (.logged m))).logs)
      (h' : t.details = (s.after (a.written (.logged m))).details) :
      s.GainsLog answer t ↔ documentText m.charge.raw = documentText answer := by
    obtain ⟨_, _, hlogs, hdetails⟩ := tables_logged (a := a) (s := s) (m := m)
    rw [GainsLog, h, h', hlogs, hdetails, Table.since_insert_self, Table.since_insert_self]
    constructor
    · rintro ⟨r, hr, details, hdetails, _, hanswer⟩
      obtain rfl := List.mem_singleton.1 hdetails
      exact hanswer
    · intro hanswer
      exact ⟨_, List.mem_singleton_self _, _, List.mem_singleton_self _, rfl, hanswer⟩
  have hlacks {t : Store} (h : t.logs = s.logs) : ¬s.GainsLog answer t := by
    rintro ⟨r, hr, _⟩
    rw [h, Table.since_self] at hr
    cases hr
  cases g with
  | logged m =>
    rw [hgains rfl rfl]
    constructor
    · exact fun h => ⟨m, rfl, h⟩
    · rintro ⟨_, ⟨⟩, h⟩
      exact h
  | charged m =>
    obtain ⟨_, _, hlogs, hdetails⟩ := tables_charged (a := a) (s := s) (m := m)
    rw [hgains hlogs hdetails]
    constructor
    · exact fun h => ⟨m, rfl, h⟩
    · rintro ⟨_, ⟨⟩, h⟩
      exact h
  | tokenized l => exact iff_of_false (hlacks tables_tokenized.2.2.1) fun ⟨_, h, _⟩ => Option.some_ne_none _ h.symm
  | _ => exact iff_of_false (hlacks (tables_of_not_tokenized rfl).2.1) fun ⟨_, h, _⟩ => Option.some_ne_none _ h.symm

/-- Until the log is written, there are no new logs. -/
theorem logs_of_not_logged (hm : g.logged? = none) :
    let t := s.after (a.written g)
    t.logs = s.logs ∧ t.details = s.details := by
  cases g with
  | tokenized l => exact tables_tokenized.2.2
  | logged m => cases hm
  | charged m => cases hm
  | _ => exact (tables_of_not_tokenized rfl).2

/-- Every transaction that the store has gained comes with its history. -/
theorem exists_history {r : TransactionRow}
    (hr : r ∈ (s.after (a.written g)).transactions.since s.transactions) :
    ∃ h ∈ (s.after (a.written g)).histories.since s.histories, h.transactionId = r.id := by
  have htoken {t : Store} {l : Tokenized} (h : t.transactions.since s.transactions = [a.tokenRow s l])
      (h' : t.histories.since s.histories = [a.tokenHistory s l])
      (hr : r ∈ t.transactions.since s.transactions) :
      ∃ h ∈ t.histories.since s.histories, h.transactionId = r.id := by
    rw [h] at hr
    rw [h']
    obtain rfl := List.mem_singleton.1 hr
    exact ⟨_, List.mem_singleton_self _, rfl⟩
  have hnone (hl : g.tokenized? = none) : False := by
    rw [(tables_of_not_tokenized hl).1, Table.since_self] at hr
    cases hr
  cases g with
  | tokenized l => exact htoken since_tokenized.1 since_tokenized.2 hr
  | logged m => exact htoken since_logged.1 since_logged.2 hr
  | charged m =>
    obtain ⟨charge, history, hrows, hhistories, _, hid⟩ := since_charged (a := a) (s := s) (m := m)
    rw [hrows] at hr
    rw [hhistories]
    rcases List.mem_cons.1 hr with rfl | hr
    · exact ⟨_, List.mem_cons_self, rfl⟩
    · obtain rfl := List.mem_singleton.1 hr
      exact ⟨history, List.mem_cons_of_mem _ (List.mem_singleton_self _), hid⟩
  | _ => exact (hnone rfl).elim

/-- There is no transaction without its history, and so a kind of which there is none with it is lacking. -/
theorem lacksTransaction_of_not_gains {kind : TransactionKind}
    (h : ¬s.GainsTransaction kind (s.after (a.written g))) :
    s.LacksTransaction kind (s.after (a.written g)) := by
  intro r hr hkind
  exact h ⟨r, hr, hkind, exists_history hr⟩

end Attempt

end PaymentService

end CardPayments
