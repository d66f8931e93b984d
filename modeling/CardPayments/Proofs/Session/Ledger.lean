import CardPayments.Proofs.Payment.Ledger
import CardPayments.Proofs.Session.Owners

/-!
# The ledger over many payments

Payments that are taken one after the other, each succeeding or failing anywhere, leave a ledger behind:
every charge comes right behind the token with which it was made.  This is so at every moment, also in the
middle of a payment (`Session.reaches_keepsLedger`).
-/

namespace CardPayments

theorem Store.HasNoPayments.keepsLedger {s : Store} (h : s.HasNoPayments) : s.KeepsLedger := by
  constructor
  · exact Table.isSorted_of_rows_eq_nil h.transactions
  · rw [h.transactions]
    exact .nil
  · simp [h.transactions, countOf]
  · simp [h.logs, countLogs]
  · simp [h.transactions, countTokens]

namespace Session

variable {s : Session} {t : Task} {ts : List Task} {ds : List Deed} {u : Store}

/-- The transactions of a session are a ledger, and new payment methods get keys of their own. -/
def KeepsLedger (s : Session) : Prop := s.desk.store.methods.IsFresh ∧ s.desk.store.KeepsLedger

/-- At every moment of such a task the transactions are a ledger. -/
theorem keepsLedger_during (hs : s.KeepsLedger) (ht : t.IsPayment)
    (h : Desk.Passes (t.program s) (t.desk s) ds u) : u.KeepsLedger := by
  cases t with
  | pay p =>
    rw [Task.program, Desk.passes_forget] at h
    exact PaymentService.keepsLedger_passes (d := (Task.pay p).desk s) rfl hs.1 hs.2 h
  | passTime now =>
    cases h with
    | here => exact hs.2
  | _ => exact ht.elim

theorem keepsLedger_perform (hs : s.KeepsLedger) (ht : t.IsPayment) : (s.perform t).KeepsLedger := by
  have hkeeps : ∀ entity key, t ≠ .delete entity key := by
    rintro entity key rfl
    exact ht
  have hfresh : (t.desk s).store.methods.IsFresh := by
    rw [store_desk]
    exact hs.1
  rw [perform_eq hkeeps]
  exact ⟨Desk.isFresh_run (t.program s) (t.desk s) hfresh,
    keepsLedger_during hs ht (Desk.passes_end (t.program s) (t.desk s))⟩

/-- **The ledger**: in a session in which nobody has paid yet and only payments are taken, at every moment
the transactions are tokens and charges, every charge right behind the token with which it shares card,
customer and order, no order has more charges than logs or more logs than tokens, and there are no more
tokens than payment methods. -/
theorem reaches_keepsLedger (hs : s.desk.store.HasNoPayments) (hts : ∀ t ∈ ts, t.IsPayment)
    (h : s.Reaches ts ds u) : u.KeepsLedger := by
  have hstart : s.KeepsLedger := ⟨hs.hasKeys.methods.fresh, hs.keepsLedger⟩
  have hmoment := Reaches.induct (I := fun s _ => s.KeepsLedger) (P := fun _ u => u.KeepsLedger)
    (fun s past hs => hs.2) (fun s past t ds u ht hs hpasses => keepsLedger_during hs ht hpasses)
    (fun s past t ht hs => keepsLedger_perform hs ht) hts [] hstart h
  exact hmoment

/-! ### A trial -/

/-- A payment whose charge is declined. -/
def trialDeclined : Payment :=
  { trialReturn with replies := [.answered 201 "\x7b\"id\": \"tok_2\"\x7d", .answered 402 "\x7b\x7d"] }

/-- A payment that fails before its token, one of which only the token is left, and three that are made. -/
def trialLedger : List Task := .pay trialRefused :: trialPayments ++ [.pay trialDeclined]

/-- The transactions of the trial, and what is so of them. -/
theorem trial_keepsLedger :
    trialSession.desk.store.HasNoPayments ∧ (∀ t ∈ trialLedger, t.IsPayment) ∧
      (trialSession.performAll trialLedger).desk.store.transactions.rows.map
        TransactionRow.transactionType =
          ["tokenization", "charge", "tokenization", "charge", "tokenization", "charge",
            "tokenization"].map Text.ofString ∧
      (trialSession.performAll trialLedger).desk.store.KeepsLedger := by
  have hpayments : ∀ t ∈ trialLedger, t.IsPayment := by
    simp [trialLedger, trialPayments, Task.IsPayment]
  refine ⟨hasNoPayments_trialSession, hpayments, by decide +kernel, ?_⟩
  exact reaches_keepsLedger hasNoPayments_trialSession hpayments (reaches_end trialSession trialLedger)

end Session

end CardPayments
