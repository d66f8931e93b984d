import CardPayments.Proofs.Store.Amount
import CardPayments.Proofs.Store.Write
import CardPayments.Proofs.Time.Shown

/-!
# Reports that can be given

A report shows amounts and instants, and there is none when one of them cannot be shown.  Where the dates at
which rows were written can be shown (`Store.HasShowableDates`), a transaction can be reported if and only if its
amount and its own date can (`Report.transaction_isOk_iff`), and a customer if and only if all of its transactions
can (`Report.customer_isOk_iff`).
-/

namespace CardPayments

/-- A stored instant, if there is one, is not too early to be shown. -/
def CanShow (t : Option LocalTime) : Prop := ∀ x, t = some x → Zone.earliest ≤ x.ticks

theorem canShow_none : CanShow none := nofun

/-- What is stored of a date and time that can be shown can be shown. -/
theorem DateTime.IsShowable.canShow {d : DateTime} (h : d.IsShowable) : CanShow (Offer.time d).instant := by
  intro t ht
  have hread : (Offer.toUniversal d).toOption = some t := by
    rw [← ht, Offer.instant, Offer.readInstant]
    cases Offer.toUniversal d <;> rfl
  have hticks : (t.ticks : Int) = Zone.instantOf d := by
    cases hstored : Offer.toUniversal d with
    | error e =>
      rw [hstored] at hread
      cases hread
    | ok t' =>
      rw [hstored] at hread
      cases hread
      exact Offer.toUniversal_eq_ok hstored
  rw [hticks]
  exact h.1

/-- The amount and the date of a transaction can be shown. -/
structure TransactionRow.IsReportable (r : TransactionRow) : Prop where
  amount : r.amount.size < Amount.limit
  date : CanShow r.transactionDate

/-- The dates at which customers, transactions and histories were written can be shown. -/
structure Store.HasShowableDates (s : Store) : Prop where
  customers : ∀ r ∈ s.customers.rows, CanShow r.audit.createdDate
  transactions : ∀ r ∈ s.transactions.rows, CanShow r.audit.createdDate ∧ CanShow r.audit.updatedDate
  histories : ∀ r ∈ s.histories.rows, CanShow r.audit.createdDate

namespace Report

variable {s : Store}

theorem instant_isOk_iff {t : Option LocalTime} : (instant t).isOk = true ↔ CanShow t := by
  cases t with
  | none => exact iff_of_true rfl canShow_none
  | some t =>
    have hinstant : Zone.instantOf (.aware t Offset.utc) = t.ticks := Int.sub_zero _
    have hlt : (t.ticks : Int) < (Date.dayCount * ticksPerDay : Nat) := by exact_mod_cast t.isLt
    rw [instant, Shown.time_isOk_iff, DateTime.IsShowable, hinstant]
    constructor
    · rintro ⟨hlow, -⟩ _ ⟨⟩
      exact hlow
    · exact fun h => ⟨h t rfl, hlt⟩

theorem status_isOk_iff {r : HistoryRow} : (status r).isOk = true ↔ CanShow r.audit.createdDate := by
  have hparts : (status r).isOk = ((instant r.audit.createdDate).isOk && true) := isOk_bind_of fun _ => rfl
  rw [hparts, Bool.and_true, instant_isOk_iff]

/-- **Reports of transactions**: a transaction can be reported if and only if its amount and its date can. -/
theorem transaction_isOk_iff (hs : s.HasShowableDates) {r : TransactionRow} (hr : r ∈ s.transactions.rows) :
    (transaction s r).isOk = true ↔ r.IsReportable := by
  have hparts : (transaction s r).isOk = ((amount r.amount).isOk && (((s.historyOf r.id).mapM status).isOk &&
      ((instant r.audit.createdDate).isOk && ((instant r.audit.updatedDate).isOk &&
        ((instant r.transactionDate).isOk && true))))) :=
    isOk_bind_of fun _ => isOk_bind_of fun _ => isOk_bind_of fun _ => isOk_bind_of fun _ =>
      isOk_bind_of fun _ => rfl
  have hhistory : ((s.historyOf r.id).mapM status).isOk = true := by
    rw [isOk_mapM, List.all_eq_true]
    intro h hh
    exact status_isOk_iff.2 (hs.histories h (List.mem_of_mem_filter hh))
  obtain ⟨hcreated, hupdated⟩ := hs.transactions r hr
  rw [hparts, hhistory, instant_isOk_iff.2 hcreated, instant_isOk_iff.2 hupdated]
  simp only [Bool.true_and, Bool.and_true, Bool.and_eq_true, amount_isOk_iff, instant_isOk_iff]
  exact ⟨fun ⟨ha, hd⟩ => ⟨ha, hd⟩, fun h => ⟨h.amount, h.date⟩⟩

theorem transactions_isOk_iff (hs : s.HasShowableDates) {rows : List TransactionRow}
    (hrows : rows ⊆ s.transactions.rows) :
    (transactions s rows).isOk = true ↔ ∀ r ∈ rows, r.IsReportable := by
  rw [transactions, isOk_mapM, List.all_eq_true]
  exact forall₂_congr fun r hr => transaction_isOk_iff hs (hrows hr)

/-- **Reports of customers**: a customer can be reported if and only if all of its transactions can. -/
theorem customer_isOk_iff (hs : s.HasShowableDates) {c : CustomerRow} (hc : c ∈ s.customers.rows) :
    (customer s c).isOk = true ↔ ∀ r ∈ s.transactionsOf c.id, r.IsReportable := by
  by_cases hreadable : ∀ r ∈ s.transactionsOf c.id, r.IsReadable
  · have hparts : (customer s c).isOk =
        ((transactions s (s.transactionsOf c.id)).isOk && ((instant c.audit.createdDate).isOk && true)) := by
      rw [customer, Store.loadTransactionsOf, Store.loadTransactions_of_forall hreadable]
      exact isOk_bind_of (x := transactions s (s.transactionsOf c.id)) fun _ => isOk_bind_of fun _ => rfl
    rw [hparts, instant_isOk_iff.2 (hs.customers c hc), Bool.and_true, Bool.and_true]
    exact transactions_isOk_iff hs (List.filter_subset_self _)
  · rw [customer, Store.loadTransactionsOf, Store.loadTransactions_of_not_forall hreadable]
    exact iff_of_false Bool.false_ne_true fun h => hreadable fun r hr => (h r hr).amount

end Report

/-! ### Dates that are written -/

/-- The dates that a group of rows leaves can be shown. -/
def Write.HasShowableDates : Write → Prop
  | .customer d _ => CanShow d.audit.createdDate.instant
  | .transaction d _ now => CanShow d.audit.createdDate.instant ∧ CanShow d.audit.updatedDate.instant ∧
      CanShow (Offer.time now).instant
  | _ => True

theorem Store.HasShowableDates.effect {s : Store} {w : Write} (hs : s.HasShowableDates)
    (hw : w.HasShowableDates) : (w.effect s).HasShowableDates := by
  cases w with
  | customer d now =>
    exact ⟨Table.forall_mem_insert hs.customers hw, hs.transactions, hs.histories⟩
  | transaction d notes now =>
    obtain ⟨hcreated, hupdated, hnow⟩ := hw
    exact ⟨hs.customers, Table.forall_mem_insert hs.transactions ⟨hcreated, hupdated⟩,
      Table.forall_mem_insert hs.histories hnow⟩
  | _ => exact ⟨hs.customers, hs.transactions, hs.histories⟩

/-- Groups of rows whose dates can be shown keep it so. -/
theorem Store.HasShowableDates.after {s : Store} {ws : List Write} (hs : s.HasShowableDates)
    (hws : ∀ w ∈ ws, w.HasShowableDates) : (s.after ws).HasShowableDates := by
  induction ws generalizing s with
  | nil => exact hs
  | cons w ws ih =>
    rw [List.forall_mem_cons] at hws
    exact ih (hs.effect hws.1) hws.2

end CardPayments
