import CardPayments.Proofs.Payment.Answer
import CardPayments.Proofs.Payment.Charge
import CardPayments.Proofs.Payment.Owners
import CardPayments.Proofs.Payment.Status
import CardPayments.Proofs.Store.AmountPlaces

/-!
# The amount of a charge in both ledgers

The amount that the provider took is offered to the log of the charge first and to its transaction after that.
Both columns take any finite decimal: digits are counted only when an amount is read, never when it is written.
So what the log has taken the transaction takes as well, and an amount is never the reason for a log without
its transaction (`PaymentService.amounts_fit_both`).  An answer without an amount leaves none in the log, and in
the transaction the amount that was ordered.
-/

namespace CardPayments

open Json Provider Provider.Account

theorem Offer.amount_ofDecimal? {amount : Option Decimal} :
    (Offer.ofDecimal? amount).amount = amount.bind Amount.ofDecimal? := by
  cases amount with
  | none => rfl
  | some x => cases x <;> rfl

theorem Offer.requiredAmount_decimal {x : Decimal} (h : x.isFinite = true) :
    some (Offer.decimal x).requiredAmount = Amount.ofDecimal? x := by
  cases x with
  | finite negative coefficient exponent => rfl
  | _ => cases h

/-- Nothing but null and the empty text is read as no amount. -/
theorem Provider.readAmount_eq_none {v : Value} {amount : Option Decimal} (h : readAmount v = .ok amount) :
    amount = none ↔ v = .null ∨ v = .text [] := by
  have hnone : readAmount v = .ok none ↔ v = .null ∨ v = .text [] := by
    unfold readAmount
    split
    · simp
    · simp
    · next hnull hempty =>
      refine iff_of_false (fun hread => ?_) (not_or.2 ⟨hnull, hempty⟩)
      obtain ⟨x, -, hx⟩ := map_eq_ok.1 (mapError_eq_ok.1 hread)
      cases hx
  rw [← hnone, h, Except.ok.injEq]

namespace PaymentService

/-- What is read of the amount of a charge in a log and in a transaction. -/
structure ReadsAlike (l : LogRow) (r : TransactionRow) (amount : Option Decimal) : Prop where
  /-- Without an amount, none is in the log, and the one that was ordered is in the transaction. -/
  ordered : amount = none → l.amountFromApi = none ∧ r.amount.read? transactionPlaces = some chargeAmount
  /-- An amount that can be read in the log can be read in the transaction.  The two differ by half of either
  last place at most, and not at all if the amount is one of whole hundredths. -/
  near : ∀ u, l.amountFromApi = some u → r.amount = u ∧ ∀ x, u.read? logPlaces = some x →
    ∃ y, r.amount.read? transactionPlaces = some y ∧ |x.toRat - y.toRat| ≤ 505 / 100000 ∧
      ((∃ n : Nat, u.size = n / 100) → x.toRat = y.toRat)

/-- What a payment leaves of the amount of a charge in the store behind the one that it found. -/
structure KeepsAmount (before after : Store) (charge : Charge) : Prop where
  /-- A log has the amount as the provider gave it, or none; -/
  logged : ∀ l ∈ after.logs.since before.logs, l.amountFromApi = charge.amount.bind Amount.ofDecimal?
  /-- a transaction has the same, or the amount that was ordered. -/
  booked : ∀ r ∈ after.transactions.since before.transactions, r.transactionType = TransactionKind.charge.label →
    some r.amount = Amount.ofDecimal? (charge.amount.getD chargeAmount)
  /-- What is read of the two is alike. -/
  alike : ∀ l ∈ after.logs.since before.logs, ∀ r ∈ after.transactions.since before.transactions,
    r.transactionType = TransactionKind.charge.label → ReadsAlike l r charge.amount
  /-- When there is a log, the column of the transaction takes its amount; -/
  taken : after.logs.since before.logs ≠ [] →
    (Field.amount "amount" true (.decimal (charge.amount.getD chargeAmount))).IsSound
  /-- and when there is no transaction for it, there would be none with any other amount. -/
  alone : after.logs.since before.logs ≠ [] → before.LacksTransaction .charge after →
    ∀ other, ¬({ charge with amount := other } : Charge).IsBookable

theorem readsAlike {l : LogRow} {r : TransactionRow} {amount : Option Decimal}
    (hlogged : l.amountFromApi = amount.bind Amount.ofDecimal?)
    (hbooked : some r.amount = Amount.ofDecimal? (amount.getD chargeAmount)) : ReadsAlike l r amount := by
  cases amount with
  | none =>
    have hordered : (⟨false, 10000, -2⟩ : Amount).read? transactionPlaces = some chargeAmount := by
      decide +kernel
    rw [← Option.some.inj hbooked] at hordered
    refine ⟨fun _ => ⟨hlogged, hordered⟩, fun u hu => ?_⟩
    rw [hlogged] at hu
    cases hu
  | some a =>
    refine ⟨nofun, fun u hu => ?_⟩
    obtain rfl : r.amount = u := Option.some.inj (hbooked.trans (hlogged.symm.trans hu))
    exact ⟨rfl, fun x hx => Amount.read?_places hx⟩

namespace Attempt

open Store

variable {a : Attempt} {s : Store} {g : Stage} {m : Logged} {x : Exchange} {last : List Deed} {charge : Charge}

theorem logged?_of_charge_exchange {r : Except Failure PaymentResult} {t : Store} (hheard : g.Heard a)
    (hhalts : a.Halts g last r) (ht : t.Undergoes last t) (hx : x ∈ g.exchanges a s ++ t.exchanges last)
    (hposts : a.service.Posts "charges" x) (hcharge : chargeOf x.reply = .ok charge) (hm : g.logged? = some m) :
    m.charge = charge := by
  rcases List.mem_append.1 hx with hx | hx
  · obtain ⟨m', hm', -, hreply⟩ := Stage.charge_exchange hx hposts
    obtain rfl := Option.some.inj (hm.symm.trans hm')
    rw [hreply] at hcharge
    exact Except.ok.inj ((hheard.logged hm).charge.symm.trans hcharge)
  · obtain ⟨l, rfl, -⟩ := hhalts.charge_exchange ht hx hposts
    cases hm

/-- What is left of the amount at the stage at which a payment ends. -/
theorem Stage.keepsAmount {r : Except Failure PaymentResult} (hg : g.IsReached a s) (hheard : g.Heard a)
    (hhalts : a.Halts g last r) (ht : (s.after (a.written g)).Undergoes last (s.after (a.written g)))
    (hx : x ∈ g.exchanges a s ++ (s.after (a.written g)).exchanges last)
    (hposts : a.service.Posts "charges" x) (hcharge : chargeOf x.reply = .ok charge) :
    KeepsAmount s (s.after (a.written g)) charge := by
  cases hm : g.logged? with
  | none =>
    have hlogs : (s.after (a.written g)).logs.since s.logs = [] := by
      rw [(logs_of_not_logged hm).1, Table.since_self]
    constructor
    case booked =>
      -- There is no transaction for the charge without its log.
      intro r hr hkind
      obtain ⟨m, rfl⟩ := exists_charged_of_mem_since hr hkind
      cases hm
    all_goals simp [hlogs]
  | some m =>
    obtain rfl := logged?_of_charge_exchange hheard hhalts ht hx hposts hcharge hm
    have hlogged := hg.logged hm
    have hlogs : (s.after (a.written g)).logs.since s.logs = [a.logRow s m] := by
      rw [(logs_of_logged hm).1, Table.since_insert_self]
      rfl
    -- The log was taken, and with it the amount.
    have hfinite : (m.charge.amount.getD chargeAmount).isFinite = true :=
      isFinite_amount.2 ((logWrite_isFit_iff hlogged.of_logged.1).1 hlogged.of_logged.2).1.2.2.2
    have hlog : ∀ l ∈ (s.after (a.written g)).logs.since s.logs,
        l.amountFromApi = m.charge.amount.bind Amount.ofDecimal? := by
      rw [hlogs, List.forall_mem_singleton]
      exact Offer.amount_ofDecimal?
    have htransaction : ∀ r ∈ (s.after (a.written g)).transactions.since s.transactions,
        r.transactionType = TransactionKind.charge.label →
          some r.amount = Amount.ofDecimal? (m.charge.amount.getD chargeAmount) := by
      intro r hr hkind
      obtain ⟨m', rfl, -, rfl⟩ := charged_of_gained (hlogs ▸ List.mem_singleton_self _) hr hkind
      obtain rfl := Option.some.inj hm
      exact Offer.requiredAmount_decimal hfinite
    refine ⟨hlog, htransaction, fun l hl r hr hkind => readsAlike (hlog l hl) (htransaction r hr hkind),
      fun _ => Field.isSound_amount.2 hfinite, fun _ hlacks other hbookable => ?_⟩
    -- Whether a charge is bookable does not depend on its amount.
    have hbookable : m.charge.IsBookable := ⟨hbookable.status, hbookable.date, hbookable.url, hbookable.message,
      hbookable.notes⟩
    obtain ⟨r, hr, hkind, -⟩ := (Stage.gainsTransaction_iff_isBookable hg hheard hhalts ht hm).2 hbookable
    exact hlacks r hr hkind

end Attempt

variable (s : PaymentService) (now : DateTime) (request : PaymentRequest) (d : Desk)

/-- **An amount in both ledgers**: of an amount that is read in an answer, the columns of the log and of the
transaction take the same ones, which are those that are finite.  So an amount is never the reason for a log
without its transaction; and of a charge that has both, the same amount is stored and read in the two. -/
theorem amounts_fit_both (hd : d.methodVanishes = false) :
    (∀ v amount, readAmount v = .ok amount →
      (amount = none ↔ v = .null ∨ v = .text []) ∧
        ((Field.amount "amount_from_api" false (.ofDecimal? amount)).IsSound ↔
          ∀ x, amount = some x → x.isFinite = true) ∧
        ((Field.amount "amount" true (.decimal (amount.getD chargeAmount))).IsSound ↔
          ∀ x, amount = some x → x.isFinite = true)) ∧
      ∀ x ∈ d.exchanges (s.process now request), s.Posts "charges" x →
        ∀ charge, chargeOf x.reply = .ok charge →
          (∃ fields, answerOf x.reply = .ok (.object fields) ∧
            readAmount (field fields "amount") = .ok charge.amount) ∧
          KeepsAmount d.store (d.run (s.process now request)).2.store charge := by
  refine ⟨fun v amount hread => ⟨readAmount_eq_none hread, Field.isSound_amount_ofDecimal?, ?_⟩,
    fun x hx hposts charge hcharge => ?_⟩
  · rw [Field.isSound_amount]
    cases amount with
    | none => exact iff_of_true rfl nofun
    | some x => simp
  · obtain ⟨fields, hanswer, -, hread⟩ := Attempt.fields_of_chargeOf hcharge
    refine ⟨⟨fields, hanswer, hread⟩, ?_⟩
    rcases s.process_halts now request d hd with
      ⟨e, -, hcalls, -, -⟩ | ⟨a, g, last, rfl, rfl, hreached, hheard, hhalts, hlast, hfinal, hcalls⟩
    · rw [hcalls] at hx
      cases hx
    · rw [hcalls] at hx
      rw [hfinal]
      exact Attempt.Stage.keepsAmount hreached hheard hhalts hlast hx hposts hcharge

/-- A charge with half a hundredth in its amount. -/
def trialHalfCharge : Text := "\x7b\"id\": \"ch_1\", \"status\": \"completed\", \"amount\": \"100.005\"\x7d"

/-- An amount with half a hundredth is in both ledgers, and is read alike in them. -/
theorem trial_amounts :
    (trialDesk trialHalfCharge).methodVanishes = false ∧
      ∃ x ∈ trialExchanges trialHalfCharge, trialService.Posts "charges" x ∧
        ∃ charge, chargeOf x.reply = .ok charge ∧
          ∃ l ∈ (trialOutcome trialHalfCharge).2.store.logs.rows,
            ∃ r ∈ (trialOutcome trialHalfCharge).2.store.transactions.rows,
              l.amountFromApi = some ⟨false, 100005, -3⟩ ∧ r.amount = ⟨false, 100005, -3⟩ ∧
                ReadsAlike l r charge.amount := by
  have hcall : ∃ x ∈ trialExchanges trialHalfCharge, trialService.Posts "charges" x ∧
      (chargeOf x.reply).isOk = true := by
    decide +kernel
  have hgains : (∃ l ∈ (trialOutcome trialHalfCharge).2.store.logs.since
        (trialDesk trialHalfCharge).store.logs, l.amountFromApi = some ⟨false, 100005, -3⟩) ∧
      ∃ r ∈ (trialOutcome trialHalfCharge).2.store.transactions.since
        (trialDesk trialHalfCharge).store.transactions,
        r.transactionType = TransactionKind.charge.label := by
    decide +kernel
  rw [trialOutcome] at hgains ⊢
  rw [trialExchanges] at *
  obtain ⟨x, hx, hposts, hcharge⟩ := hcall
  obtain ⟨charge, hcharge⟩ := isOk_iff.1 hcharge
  obtain ⟨⟨l, hl, hamount⟩, r, hr, hkind⟩ := hgains
  obtain ⟨-, hkeeps⟩ := (amounts_fit_both trialService trialTime Session.trialRequest
    (trialDesk trialHalfCharge) rfl).2 x hx hposts charge hcharge
  have halike := hkeeps.alike l hl r hr hkind
  exact ⟨rfl, x, hx, hposts, charge, hcharge, l, List.mem_of_mem_drop hl, r, List.mem_of_mem_drop hr, hamount,
    (halike.near _ hamount).1, halike⟩

/-- A charge whose amount has more digits than a log is read with. -/
def trialGreatCharge : Text :=
  "\x7b\"id\": \"ch_1\", \"status\": \"completed\", \"amount\": 1000000000000000\x7d"

/-- Digits are not counted when an amount is written: one that has too many with four places is stored. -/
theorem trial_great_amount_stored :
    (trialOutcome trialGreatCharge).1.isOk = true ∧
      (∃ l ∈ (trialOutcome trialGreatCharge).2.store.logs.rows,
        l.amountFromApi = some ⟨false, 1000000000000000, 0⟩) ∧
      ¬∀ v a, readAmount v = .ok (some a) →
        ((Field.amount "amount_from_api" false (.ofDecimal? (some a))).IsSound ↔
          a.isFinite = true ∧ (a.quantize? Amount.columnDigits logPlaces).isSome = true) := by
  have hread : (readAmount (.int 1000000000000000)).toOption = some (some (.finite false 1000000000000000 0)) := by
    decide +kernel
  have hquantized : ((Decimal.finite false 1000000000000000 0).quantize? Amount.columnDigits logPlaces).isSome =
      false := by
    decide +kernel
  refine ⟨by decide +kernel, by decide +kernel, fun h => ?_⟩
  cases hamount : readAmount (.int 1000000000000000) with
  | error e =>
    rw [hamount] at hread
    cases hread
  | ok amount =>
    rw [hamount] at hread
    obtain rfl := Option.some.inj hread
    have hsound := (h _ _ hamount).1 (Field.isSound_amount_ofDecimal?.2 fun x hx => by
      rw [← Option.some.inj hx]
      rfl)
    rw [hquantized] at hsound
    exact Bool.false_ne_true hsound.2

end PaymentService

end CardPayments
