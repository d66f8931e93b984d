import CardPayments.Proofs.Payment.Answer
import CardPayments.Proofs.Payment.Secrecy
import CardPayments.Proofs.Session.Integrity
import CardPayments.Proofs.Store.Report

/-!
# Reports on payments

The dates at which rows are written come from the clock; the amount and the date of a charge come from the
provider, and they are stored whenever they are a finite number and an instant of the calendar.  Neither makes
sure that they can be shown again: an instant in the first hours of the calendar has no local time there, and an
amount with too many digits is not read back.  `Session.reportsExactly` says that nothing else ever stands in the
way of sending a result or of reporting on a customer.
-/

namespace CardPayments

theorem Store.HasNoPayments.hasShowableDates {s : Store} (h : s.HasNoPayments) : s.HasShowableDates := by
  constructor
  · simp [h.customers]
  · simp [h.transactions]
  · simp [h.histories]

namespace PaymentService

namespace Attempt

variable {a : Attempt} {s : Store} {g : Stage} {k : Logged}

/-- The rows of a payment are dated by the clock. -/
theorem hasShowableDates_groups (hnow : a.now.IsShowable) (k : Logged) :
    ∀ w ∈ a.groups k, w.HasShowableDates := by
  have hclock : CanShow (Offer.time a.now).instant := hnow.canShow
  have hcustomer (method : Nat) (created : Provider.Customer) :
      (a.customerWrite method created).HasShowableDates := hclock
  have htoken : (a.tokenWrite k.toTokenized).HasShowableDates := ⟨hclock, canShow_none, hclock⟩
  have hcharge : (a.chargeWrite k).HasShowableDates := ⟨hclock, canShow_none, hclock⟩
  rw [groups, knownGroups, List.cons_append, List.forall_mem_cons, List.forall_mem_append]
  refine ⟨trivial, ?_, ?_⟩
  · split_ifs
    · exact List.forall_mem_singleton.2 (hcustomer _ _)
    · exact List.forall_mem_nil _
  · simp only [List.forall_mem_cons, List.not_mem_nil, false_implies, implies_true, and_true]
    exact ⟨trivial, htoken, trivial, hcharge⟩

theorem hasShowableDates_after (hs : s.HasShowableDates) (hnow : a.now.IsShowable) (hg : g.Agrees a s) :
    (s.after (a.written g)).HasShowableDates := by
  obtain ⟨k, _, hfirst, _⟩ := hg.exists_groups
  exact hs.after fun w hw => hasShowableDates_groups hnow k w (hfirst.subset hw)

/-- The result of a whole payment can be sent unless the charge was made too early. -/
theorem result_isOk_iff (hnow : a.now.IsShowable)
    (hdate : ∀ x, k.charge.creationDate = some x → (Offer.toUniversal x).isOk = true) :
    (a.result k.payer k.charge).toJson.isOk = true ↔
      Zone.earliest ≤ Zone.instantOf (a.result k.payer k.charge).createdAt := by
  set created : DateTime := k.charge.creationDate.getD a.now with hcreated
  have hhigh : Zone.instantOf created < (Date.dayCount * ticksPerDay : Nat) := by
    rw [hcreated]
    cases hmade : k.charge.creationDate with
    | none => exact hnow.2
    | some x =>
      obtain ⟨t, ht⟩ := isOk_iff.1 (hdate x hmade)
      have hlt : (t.ticks : Int) < (Date.dayCount * ticksPerDay : Nat) := by exact_mod_cast t.isLt
      rwa [Offer.toUniversal_eq_ok ht] at hlt
  have hparts : (a.result k.payer k.charge).toJson.isOk =
      ((Shown.amount chargeAmount).isOk && ((Shown.time created).isOk && true)) :=
    isOk_bind_of fun _ => isOk_bind_of fun _ => rfl
  rw [hparts, show (Shown.amount chargeAmount).isOk = true from Shown.amount_isOk (by decide), Bool.true_and,
    Bool.and_true, Shown.time_isOk_iff]
  exact and_iff_left hhigh

end Attempt

variable {s : PaymentService} {now : DateTime} {request : PaymentRequest} {d : Desk}

theorem hasShowableDates_passes {ds : List Deed} {u : Store} (hd : d.methodVanishes = false)
    (hs : d.store.HasShowableDates) (hnow : now.IsShowable)
    (h : Desk.Passes (s.process now request) d ds u) : u.HasShowableDates := by
  rcases passes_stage hd h with rfl | ⟨a, g, ha, hg, rfl⟩
  · exact hs
  · obtain ⟨year, month, rfl⟩ := eq_of_attempt ha
    exact Attempt.hasShowableDates_after hs hnow hg.agrees

theorem process_result_isOk_iff (hd : d.methodVanishes = false) (hnow : now.IsShowable)
    {result : PaymentResult} (hresult : (d.run (s.process now request)).1 = .ok result) :
    result.toJson.isOk = true ↔ Zone.earliest ≤ Zone.instantOf result.createdAt := by
  rcases s.process_course now request d hd with
    ⟨e, _, _, hr, _⟩ | ⟨a, g, before, last, ha, hsteps, hhalts, _, hreached, _, _, _⟩
  · rw [hresult] at hr
    cases hr
  · rw [hresult] at hhalts
    obtain ⟨k, rfl⟩ := hhalts.ok_iff.1 ⟨result, rfl⟩
    obtain ⟨year, month, rfl⟩ := eq_of_attempt ha
    have hid := Attempt.id_ne_null_of_chargeOf (hsteps.heard trivial).charge
    obtain ⟨hlogged, hfit⟩ := hreached.of_charged
    have hbookable := (Attempt.chargeWrite_isFit_iff hlogged hid).1 hfit
    cases hhalts with
    | paid => exact Attempt.result_isOk_iff hnow hbookable.date

end PaymentService

namespace Session

variable {s : Session} {t : Task} {ts : List Task} {ds : List Deed} {u : Store}

/-- A payment, or the clock comes to show another time that can be shown. -/
def Task.IsTimely : Task → Prop
  | .pay _ => True
  | .passTime now => Zone.earliest ≤ now.ticks
  | _ => False

/-- What carries reports through a session: its time and the dates in its store can be shown, and references
are intact. -/
structure KeepsDates (s : Session) : Prop where
  now : s.now.IsShowable
  dates : s.desk.store.HasShowableDates
  sound : s.desk.store.IsSound

theorem hasShowableDates_during (hs : s.KeepsDates) (ht : t.IsTimely)
    (h : Desk.Passes (t.program s) (t.desk s) ds u) : u.HasShowableDates := by
  cases t with
  | pay p =>
    rw [Task.program, Desk.passes_forget] at h
    exact PaymentService.hasShowableDates_passes (d := (Task.pay p).desk s) rfl hs.dates hs.now h
  | passTime now =>
    cases h with
    | here => exact hs.dates
  | _ => exact ht.elim

theorem KeepsDates.perform (hs : s.KeepsDates) (ht : t.IsTimely) : (s.perform t).KeepsDates := by
  have hkeeps : ∀ entity key, t ≠ .delete entity key := by
    rintro entity key rfl
    exact ht
  refine ⟨?_, ?_, isSound_perform hs.sound t⟩
  · rw [now_perform]
    cases t with
    | passTime now =>
      have hinstant : Zone.instantOf (.aware now Offset.utc) = now.ticks := Int.sub_zero _
      show DateTime.IsShowable (.aware now Offset.utc)
      rw [DateTime.IsShowable, hinstant]
      exact ⟨ht, by exact_mod_cast now.isLt⟩
    | _ => exact hs.now
  · rw [perform_eq hkeeps]
    exact hasShowableDates_during hs ht (Desk.passes_end (t.program s) (t.desk s))

theorem KeepsDates.performAll (hs : s.KeepsDates) (hts : ∀ t ∈ ts, t.IsTimely) : (s.performAll ts).KeepsDates := by
  induction ts generalizing s with
  | nil => exact hs
  | cons t ts ih =>
    rw [List.forall_mem_cons] at hts
    exact ih (hs.perform hts.1) hts.2

/-- What can be reported in the course of some tasks. -/
structure ReportsExactly (s : Session) (ts : List Task) : Prop where
  /-- A result can be sent unless the charge was made too early. -/
  results : ∀ before p after result, ts = before ++ .pay p :: after →
    (s.performAll before).resultOf p = .ok result →
      (result.toJson.isOk = true ↔ Zone.earliest ≤ Zone.instantOf result.createdAt)
  /-- At every moment a transaction can be reported unless its amount is too large or its date too early. -/
  transactions : ∀ ds u, s.Reaches ts ds u → ∀ r ∈ u.transactions.rows,
    ((Report.transaction u r).isOk = true ↔ r.IsReportable)
  /-- Transactions can be listed if all that are asked for can be reported. -/
  lists : ∀ ds u, s.Reaches ts ds u → ∀ filter,
    ((Report.transactions u (u.listTransactions filter)).isOk = true ↔
      ∀ r ∈ u.listTransactions filter, r.IsReportable)
  /-- A customer can be reported if all of its transactions can. -/
  customers : ∀ ds u, s.Reaches ts ds u → ∀ c ∈ u.customers.rows,
    ((Report.customerWithKey u (.int c.id)).isOk = true ↔ ∀ r ∈ u.transactionsOf c.id, r.IsReportable)

/-- **Reports**: in a session in which nobody has paid yet, and only payments are taken while the clock shows times
that can be shown, a result can be sent if and only if its charge was not made too early.  At every moment a
transaction can be reported if and only if it is not dated too early and its amount is not too large, and a
customer, or a list of transactions, if and only if each transaction in it can. -/
theorem reportsExactly (hs : s.desk.store.HasNoPayments) (hproviders : s.desk.store.providers.IsKeyed)
    (hnow : s.now.IsShowable) (hts : ∀ t ∈ ts, t.IsTimely) : s.ReportsExactly ts := by
  have hsound : s.desk.store.IsSound := hs.isSound hproviders
  have hstart : s.KeepsDates := ⟨hnow, hs.hasShowableDates, hsound⟩
  have hmoment (ds : List Deed) (u : Store) (h : s.Reaches ts ds u) : u.HasShowableDates :=
    Reaches.induct (I := fun s _ => s.KeepsDates) (P := fun _ u => u.HasShowableDates)
      (fun s past hs => hs.dates) (fun s past t ds u ht hs hpasses => hasShowableDates_during hs ht hpasses)
      (fun s past t ht hs => hs.perform ht) hts [] hstart h
  constructor
  · rintro before p after result rfl hresult
    have hbefore := hstart.performAll fun t ht => hts t (List.mem_append_left _ ht)
    exact PaymentService.process_result_isOk_iff (d := (Task.pay p).desk (s.performAll before)) rfl
      hbefore.now hresult
  · exact fun ds u h r hr => Report.transaction_isOk_iff (hmoment ds u h) hr
  · exact fun ds u h filter => Report.transactions_isOk_iff (hmoment ds u h) (List.filter_subset_self _)
  · intro ds u h c hc
    have hfound : Store.getRow .customer u.customers (.int c.id) = .ok c :=
      Store.getRow_eq_ok.2 ⟨c.id, Store.keyOf?_int c.id, (h.isSound hsound).keys.customers.find?_key hc⟩
    rw [Report.customerWithKey, hfound]
    exact Report.customer_isOk_iff (hmoment ds u h) hc

/-! ### A trial -/

/-- A charge that was made with the calendar. -/
def trialEarly : Payment :=
  trialPaymentOf ("\x7b\"id\": \"ch_1\", \"status\": \"completed\", \"amount\": 100, " ++
    "\"creation_date\": \"0001-01-01T00:00:00Z\"\x7d")

/-- In the trial both payments have a result, the second result can be sent, and no report on the customer can be
given. -/
theorem trial_reportsExactly :
    trialSession.desk.store.HasNoPayments ∧ trialSession.desk.store.providers.IsKeyed ∧
      trialSession.now.IsShowable ∧ (∀ t ∈ [Task.pay trialEarly, .pay trialVast], t.IsTimely) ∧
      trialSession.ReportsExactly [.pay trialEarly, .pay trialVast] := by
  have hproviders : trialSession.desk.store.providers.IsKeyed := by
    refine ⟨fun r hr => ?_, List.nodup_singleton _⟩
    rw [List.mem_singleton.1 hr]
    decide
  have hnow : trialSession.now.IsShowable := ⟨by decide, by decide⟩
  have htimely : ∀ t ∈ [Task.pay trialEarly, .pay trialVast], t.IsTimely := by
    simp [Task.IsTimely]
  exact ⟨hasNoPayments_trialSession, hproviders, hnow, htimely,
    reportsExactly hasNoPayments_trialSession hproviders hnow htimely⟩

/-- A session cannot report on its customers and some of its transactions. -/
def Unreported (s : Session) : Prop :=
  (∃ r ∈ s.desk.store.transactions.rows, (Report.transaction s.desk.store r).isOk = false) ∧
    ∃ c ∈ s.desk.store.customers.rows, (Report.customerWithKey s.desk.store (.int c.id)).isOk = false

instance (s : Session) : Decidable s.Unreported :=
  inferInstanceAs (Decidable ((∃ r ∈ s.desk.store.transactions.rows, (Report.transaction s.desk.store r).isOk = false) ∧
    ∃ c ∈ s.desk.store.customers.rows, (Report.customerWithKey s.desk.store (.int c.id)).isOk = false))

/-- An accepted request is paid by a charge that was made with the calendar: there is a result that cannot be sent,
and no report can be given.  When it is paid by a charge of an amount with too many digits, the result can be
sent, but still no report can be given. -/
theorem trial_unreported :
    PaymentRequest.ofBody (PaymentService.trialBody trialRequest.cardNumber trialRequest.check) =
        .ok trialRequest ∧ trialEarly.request = trialRequest ∧ trialVast.request = trialRequest ∧
      (∃ result, trialSession.resultOf trialEarly = .ok result ∧ result.toJson.isOk = false) ∧
      (trialSession.perform (.pay trialEarly)).Unreported ∧
      (∃ result, trialSession.resultOf trialVast = .ok result ∧ result.toJson.isOk = true) ∧
      (trialSession.perform (.pay trialVast)).Unreported := by
  have hearly : (trialSession.resultOf trialEarly).isOk = true := by decide +kernel
  have hunsent : (trialSession.resultOf trialEarly >>= PaymentResult.toJson).isOk = false := by decide +kernel
  have hvast : (trialSession.resultOf trialVast >>= PaymentResult.toJson).isOk = true := by decide +kernel
  refine ⟨rfl, rfl, rfl, ?_, by decide +kernel, ?_, by decide +kernel⟩
  · obtain ⟨result, hresult⟩ := isOk_iff.1 hearly
    rw [hresult] at hunsent
    exact ⟨result, hresult, hunsent⟩
  · obtain ⟨answer, hanswer⟩ := isOk_iff.1 hvast
    obtain ⟨result, hresult, hsent⟩ := bind_eq_ok.1 hanswer
    exact ⟨result, hresult, isOk_iff.2 ⟨answer, hsent⟩⟩

end Session

end CardPayments
