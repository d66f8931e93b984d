import CardPayments.Proofs.Payment.Owners

/-!
# The ledger of transactions

A payment adds to the transactions nothing, a token, or a token and behind it a charge of the same card,
customer and order; no charge comes without its log, no log without its token, and no token without its
payment method (`LedgerEntry`).  Since payments are taken one after the other, the transactions of all of
them are a sequence of such entries (`IsLedger`), at every moment of every payment
(`PaymentService.keepsLedger_passes`).
-/

namespace CardPayments

/-! ### Ledgers -/

/-- A transaction is of a kind. -/
def TransactionRow.IsOf (kind : TransactionKind) (r : TransactionRow) : Prop :=
  r.transactionType = kind.label

instance (kind : TransactionKind) (r : TransactionRow) : Decidable (r.IsOf kind) :=
  inferInstanceAs (Decidable (r.transactionType = kind.label))

theorem TransactionRow.not_isOf_charge {r : TransactionRow} (h : r.IsOf .tokenization) :
    ¬r.IsOf .charge := by
  intro hcharge
  exact absurd (h.symm.trans hcharge) (by decide)

theorem TransactionRow.not_isOf_tokenization {r : TransactionRow} (h : r.IsOf .charge) :
    ¬r.IsOf .tokenization := fun htoken => not_isOf_charge htoken h

/-- A charge is one of the card, the customer and the order of a token. -/
structure TransactionRow.Charges (c t : TransactionRow) : Prop where
  customerId : c.customerId = t.customerId
  transactionCustomerId : c.transactionCustomerId = t.transactionCustomerId
  orderId : c.orderId = t.orderId
  ownerName : c.ownerName = t.ownerName
  expireYear : c.expireYear = t.expireYear
  expireMonth : c.expireMonth = t.expireMonth
  cardNumber : c.cardNumber = t.cardNumber
  cardCheck : c.cardCheck = t.cardCheck
  createdBy : c.audit.createdBy = t.audit.createdBy

/-- Transactions in which every charge comes right behind a token of the same card, customer and order. -/
inductive IsLedger : List TransactionRow → Prop where
  | nil : IsLedger []
  /-- A token comes to the ledger. -/
  | token {rows : List TransactionRow} {t : TransactionRow} :
      IsLedger rows → t.IsOf .tokenization → IsLedger (rows ++ [t])
  /-- A token and its charge come to the ledger. -/
  | charge {rows : List TransactionRow} {t c : TransactionRow} :
      IsLedger rows → t.IsOf .tokenization → c.IsOf .charge → c.Charges t → IsLedger (rows ++ [t, c])

/-- The number of transactions of a kind for an order. -/
def countOf (kind : TransactionKind) (order : Option Text) (rows : List TransactionRow) : Nat :=
  rows.countP fun r => r.IsOf kind ∧ r.orderId = order

/-- The number of tokens. -/
def countTokens (rows : List TransactionRow) : Nat := rows.countP fun r => r.IsOf .tokenization

/-- The number of logs for an order. -/
def countLogs (order : Option Text) (logs : List LogRow) : Nat := logs.countP fun l => l.referenceNo = order

/-- The transactions of a store are a ledger, in the order of their keys; for no order there are more
charges than logs or more logs than tokens, and there are no more tokens than payment methods. -/
structure Store.KeepsLedger (s : Store) : Prop where
  sorted : s.transactions.IsSorted
  ledger : IsLedger s.transactions.rows
  charges_le : ∀ order, countOf .charge order s.transactions.rows ≤ countLogs order s.logs.rows
  logs_le : ∀ order, countLogs order s.logs.rows ≤ countOf .tokenization order s.transactions.rows
  tokens_le : countTokens s.transactions.rows ≤ s.methods.rows.length

/-! ### Entries -/

/-- The transactions and the logs that one payment adds. -/
inductive LedgerEntry : List TransactionRow → List LogRow → Prop where
  | nothing : LedgerEntry [] []
  /-- The card was exchanged. -/
  | token {t : TransactionRow} : t.IsOf .tokenization → LedgerEntry [t] []
  /-- The charge was made, and its log is written. -/
  | log {t : TransactionRow} {l : LogRow} :
      t.IsOf .tokenization → l.referenceNo = t.orderId → LedgerEntry [t] [l]
  /-- The transaction for the charge is written, too. -/
  | charge {t c : TransactionRow} {l : LogRow} :
      t.IsOf .tokenization → l.referenceNo = t.orderId → c.IsOf .charge → c.Charges t →
      LedgerEntry [t, c] [l]

section

variable {rows rows' : List TransactionRow} {logs : List LogRow} {order : Option Text}

theorem IsLedger.append (h : IsLedger rows) (hentry : LedgerEntry rows' logs) :
    IsLedger (rows ++ rows') := by
  cases hentry with
  | nothing =>
    rw [List.append_nil]
    exact h
  | token ht => exact .token h ht
  | log ht _ => exact .token h ht
  | charge ht _ hc hcharges => exact .charge h ht hc hcharges

/-- In an entry there are no more charges than logs, no more logs than tokens, and at most one token. -/
theorem LedgerEntry.counts (h : LedgerEntry rows logs) (order : Option Text) :
    countOf .charge order rows ≤ countLogs order logs ∧
      countLogs order logs ≤ countOf .tokenization order rows ∧ countTokens rows ≤ 1 := by
  have hno {r : TransactionRow} (hr : r.IsOf .tokenization) : ¬r.IsOf .charge :=
    TransactionRow.not_isOf_charge hr
  cases h with
  | nothing => simp [countOf, countLogs, countTokens]
  | token ht => simp [countOf, countLogs, countTokens, List.countP_cons, ht, hno ht]
  | log ht hl => simp [countOf, countLogs, countTokens, List.countP_cons, ht, hno ht, hl]
  | charge ht hl hc hcharges =>
    simp [countOf, countLogs, countTokens, List.countP_cons, ht, hno ht, hl, hc,
      TransactionRow.not_isOf_tokenization hc, hcharges.orderId]

end

namespace Store

variable {s t : Store} {rows : List TransactionRow} {logs : List LogRow}

/-- A store to which an entry comes keeps its ledger. -/
theorem KeepsLedger.append (h : s.KeepsLedger) (hentry : LedgerEntry rows logs)
    (hsorted : t.transactions.IsSorted) (hrows : t.transactions.rows = s.transactions.rows ++ rows)
    (hlogs : t.logs.rows = s.logs.rows ++ logs)
    (hmethods : s.methods.rows.length + countTokens rows ≤ t.methods.rows.length) : t.KeepsLedger := by
  refine ⟨hsorted, ?_, ?_, ?_, ?_⟩
  · rw [hrows]
    exact h.ledger.append hentry
  · intro order
    have hold := h.charges_le order
    have hnew := (hentry.counts order).1
    simp only [countOf, countLogs] at hold hnew
    rw [hrows, hlogs, countOf, countLogs, List.countP_append, List.countP_append]
    omega
  · intro order
    have hold := h.logs_le order
    have hnew := (hentry.counts order).2.1
    simp only [countOf, countLogs] at hold hnew
    rw [hrows, hlogs, countOf, countLogs, List.countP_append, List.countP_append]
    omega
  · have hold := h.tokens_le
    simp only [countTokens] at hold hmethods
    rw [hrows, countTokens, List.countP_append]
    omega

/-- Whatever is written, the transactions stand in the order of their keys. -/
theorem isSorted_transactions_after (h : s.transactions.IsSorted) (ws : List Write) :
    (s.after ws).transactions.IsSorted := by
  induction ws generalizing s with
  | nil => exact h
  | cons w ws ih =>
    refine ih ?_
    cases w with
    | transaction d notes now => exact h.insert rfl
    | _ => exact h

end Store

namespace PaymentService

namespace Attempt

open Store

variable {a : Attempt} {s : Store} {g : Stage}

/-- The transaction for the charge is one of the same card, customer and order as that for the token. -/
theorem charges_tokenRow (m : Logged) : (a.chargeRow s m).Charges (a.tokenRow s m.toTokenized) := by
  constructor <;> rfl

/-- What a payment has added when it has come to a stage. -/
theorem exists_entry :
    LedgerEntry ((s.after (a.written g)).transactions.since s.transactions)
      ((s.after (a.written g)).logs.since s.logs) := by
  have hlog (m : Logged) (hm : g.logged? = some m) :
      (s.after (a.written g)).logs.since s.logs = [a.logRow s m] := by
    rw [(logs_of_logged hm).1]
    exact Table.since_insert_self
  have hnolog (hm : g.logged? = none) : (s.after (a.written g)).logs.since s.logs = [] := by
    rw [(logs_of_not_logged hm).1]
    exact Table.since_self
  cases hl : g.tokenized? with
  | none =>
    have hm : g.logged? = none := by
      cases g <;> first | rfl | cases hl
    rw [hnolog hm, (tables_of_not_tokenized hl).1, Table.since_self]
    exact .nothing
  | some l =>
    cases g with
    | tokenized l =>
      rw [hnolog rfl, since_tokenized.1]
      exact .token rfl
    | logged m =>
      rw [hlog m rfl, since_logged.1]
      exact .log rfl rfl
    | charged m =>
      rw [hlog m rfl, since_whole.1]
      exact .charge rfl rfl rfl (charges_tokenRow m)
    | _ => cases hl

/-- With a token there comes a payment method. -/
theorem length_methods_after (hs : s.methods.IsFresh) (hg : g.Agrees a s) :
    s.methods.rows.length + countTokens ((s.after (a.written g)).transactions.since s.transactions) ≤
      (s.after (a.written g)).methods.rows.length := by
  cases hl : g.tokenized? with
  | none =>
    rw [(tables_of_not_tokenized hl).1, Table.since_self]
    exact (hg.extends hs).methods.length_le
  | some l =>
    have htokens := ((exists_entry (a := a) (s := s) (g := g)).counts none).2.2
    rw [methods_of_owned hs hg (owned?_of_tokenized? hl), Table.insert, List.length_append,
      List.length_singleton]
    omega

/-- At every stage of a payment the transactions are a ledger if they were one before. -/
theorem keepsLedger_after (hs : s.methods.IsFresh) (hledger : s.KeepsLedger) (hg : g.Agrees a s) :
    (s.after (a.written g)).KeepsLedger := by
  have hextends := hg.extends hs
  exact hledger.append exists_entry (isSorted_transactions_after hledger.sorted _)
    (Table.rows_eq_append_since hextends.transactions) (Table.rows_eq_append_since hextends.logs)
    (length_methods_after hs hg)

end Attempt

/-- At every moment of a payment the transactions are a ledger if they were one before. -/
theorem keepsLedger_passes {s : PaymentService} {now : DateTime} {request : PaymentRequest} {d : Desk}
    {ds : List Deed} {u : Store} (hd : d.methodVanishes = false) (hs : d.store.methods.IsFresh)
    (hledger : d.store.KeepsLedger) (h : Desk.Passes (s.process now request) d ds u) :
    u.KeepsLedger := by
  rcases passes_stage hd h with rfl | ⟨a, g, _, hg, rfl⟩
  · exact hledger
  · exact Attempt.keepsLedger_after hs hledger hg.agrees

end PaymentService

end CardPayments
