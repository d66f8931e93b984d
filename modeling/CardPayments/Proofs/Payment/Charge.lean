import CardPayments.Proofs.Payment.Calls
import CardPayments.Proofs.Payment.Drafts

/-!
# What is left of a charge

The provider may accept a charge and describe it by an object that cannot be read, or that the columns
do not take.  `PaymentService.accepted_logged_iff` says exactly which objects leave a log, and
`PaymentService.process_leaves` after which logs the transaction for the charge is missing.
-/

namespace CardPayments

open Json Provider Provider.Account

/-! ### Objects that describe a charge -/

/-- What has to be so about the object that describes an accepted charge for the charge to be logged. -/
structure IsLoggable (fields : List (Text × Value)) : Prop where
  /-- The amount can be read, and if there is one, it is finite. -/
  amount : ∃ amount, readAmount (field fields "amount") = .ok amount ∧
    ∀ x, amount = some x → x.isFinite = true
  /-- The date can be read. -/
  date : ∃ date, readDate (field fields "creation_date") = .ok date
  /-- The method of payment does not count as present or is an object. -/
  method : (field fields "payment_method").isTruthy = true →
    ∃ inner, field fields "payment_method" = .object inner
  /-- The status is null or a text. -/
  status : field fields "status" = .null ∨ ∃ t, field fields "status" = .text t
  /-- The identifier can be stored. -/
  id : (field fields "id").display.IsStorable
  /-- All numbers are finite. -/
  standard : (Value.object fields).isStandard = true

theorem methodFieldsOf_isOk {fields : List (Text × Value)} :
    (∃ inner, methodFieldsOf fields = .ok inner) ↔
      ((field fields "payment_method").isTruthy = true →
        ∃ inner, field fields "payment_method" = .object inner) := by
  unfold methodFieldsOf
  split_ifs with h
  · simp only [fieldsOf_eq_ok, h, forall_const]
  · exact iff_of_true ⟨[], rfl⟩ fun hpresent => absurd hpresent h

namespace PaymentService

/-- What a payment that made some calls leaves of its charge in the store behind the one that it found. -/
inductive Leaves (s : PaymentService) (before after : Store) (xs : List Exchange) : Prop where
  /-- Nothing. -/
  | nothing : after.logs = before.logs → after.details = before.details →
      before.LacksTransaction .charge after → Leaves s before after xs
  /-- A log and a transaction, of a charge that is bookable. -/
  | both {x : Exchange} {charge : Charge} : x ∈ xs → s.Posts "charges" x →
      chargeOf x.reply = .ok charge → charge.IsBookable → before.GainsLog charge.raw after →
      before.GainsTransaction .charge after → Leaves s before after xs
  /-- A log alone, of a charge that is not bookable. -/
  | logAlone {x : Exchange} {charge : Charge} : x ∈ xs → s.Posts "charges" x →
      chargeOf x.reply = .ok charge → ¬charge.IsBookable → before.GainsLog charge.raw after →
      before.LacksTransaction .charge after → Leaves s before after xs

namespace Attempt

open Store

theorem statusText_isOk {v : Value} :
    (∃ status, statusText v = .ok status) ↔ v = .null ∨ ∃ t, v = .text t := by
  cases v <;> simp [statusText]

/-- Which objects describe a charge whose status is a text and whose log is taken. -/
theorem isLoggable_iff {reply : Reply} {fields : List (Text × Value)}
    (h : answerOf reply = .ok (.object fields)) :
    IsLoggable fields ↔ ∃ charge status, chargeOf reply = .ok charge ∧
      statusText charge.status = .ok status ∧ charge.id.display.IsStorable ∧
      (∀ x, charge.amount = some x → x.isFinite = true) ∧ charge.raw.isStandard = true := by
  have hcharge {charge : Charge} : chargeOf reply = .ok charge ↔
      Charge.ofPayload (.object fields) = .ok charge := by
    rw [chargeOf, h]
    rfl
  simp only [hcharge, Charge.ofPayload_eq_ok, Value.object.injEq]
  constructor
  · rintro ⟨⟨amount, hamount, hfinite⟩, ⟨date, hdate⟩, hmethod, hstatus, hid, hstandard⟩
    obtain ⟨inner, hinner⟩ := methodFieldsOf_isOk.2 hmethod
    obtain ⟨status, hstatus⟩ := statusText_isOk.2 hstatus
    exact ⟨_, status, ⟨fields, amount, date, inner, rfl, hamount, hdate, hinner, rfl⟩, hstatus,
      Value.isStorable_display_orEmpty.2 hid, hfinite, hstandard⟩
  · rintro ⟨_, status, ⟨_, amount, date, inner, rfl, hamount, hdate, hinner, rfl⟩, hstatus, hid,
      hfinite, hstandard⟩
    exact ⟨⟨amount, hamount, hfinite⟩, ⟨date, hdate⟩, methodFieldsOf_isOk.1 ⟨inner, hinner⟩,
      statusText_isOk.1 ⟨status, hstatus⟩, Value.isStorable_display_orEmpty.1 hid, hstandard⟩

theorem raw_of_chargeOf {reply : Reply} {charge : Charge} {answer : Value}
    (hcharge : chargeOf reply = .ok charge) (hanswer : answerOf reply = .ok answer) :
    charge.raw = answer := by
  rw [chargeOf, hanswer] at hcharge
  obtain ⟨_, _, _, _, _, _, _, _, rfl⟩ := Charge.ofPayload_eq_ok.1 hcharge
  rfl

theorem id_ne_null_of_chargeOf {reply : Reply} {charge : Charge} (hcharge : chargeOf reply = .ok charge) :
    charge.id ≠ .null := by
  obtain ⟨_, _, hpayload⟩ := bind_eq_ok.1 hcharge
  obtain ⟨_, _, _, _, _, _, _, _, rfl⟩ := Charge.ofPayload_eq_ok.1 hpayload
  exact Value.orEmpty_ne_null

/-! ### The call that makes the charge -/

variable {a : Attempt} {s t : Store} {g : Stage} {k : Known} {l : Tokenized} {m : Logged}
  {x : Exchange} {last : List Deed}

theorem Stage.IsReached.logged (h : g.IsReached a s) (hm : g.logged? = some m) :
    (Stage.logged m).IsReached a s := by
  cases g <;> cases hm
  · exact h
  · exact h.of_charged.1

/-- If the call that makes the charge is on the way to a stage, its log is written there. -/
theorem Stage.charge_exchange (hx : x ∈ g.exchanges a s) (hposts : a.service.Posts "charges" x) :
    ∃ m, g.logged? = some m ∧ x.call = a.chargeCall m.toTokenized ∧ x.reply = m.chargeReply := by
  rcases Stage.mem_exchanges.1 hx with ⟨_, _, _, _, rfl⟩ | ⟨_, _, rfl⟩ | ⟨m, hm, rfl⟩
  · exact absurd ((posts_customerCall rfl).1 hposts) (by decide)
  · exact absurd ((posts_cardCall rfl).1 hposts) (by decide)
  · exact ⟨m, hm, rfl, rfl⟩

/-- If a payment ends with the call that makes the charge, its reply describes no charge of which the log
is taken. -/
theorem Halts.charge_exchange {r : Except Failure PaymentResult} (h : a.Halts g last r)
    (ht : t.Undergoes last t) (hx : x ∈ t.exchanges last) (hposts : a.service.Posts "charges" x) :
    ∃ l, g = .tokenized l ∧ x.call = a.chargeCall l ∧
      ∀ charge status, chargeOf x.reply = .ok charge → statusText charge.status = .ok status →
        ¬(a.logWrite ⟨l, x.reply, charge, status⟩).IsFit t := by
  have hcall {c : Provider.Call} {reply : Reply} {w : Write} {answer : Except Failure (Option Nat)} :
      t.exchanges [.call c reply, .write w answer] = [⟨c, reply, t⟩] := by
    rw [Store.exchanges, exchanges_write]
  have hlast := h.last ht
  cases h with
  | @chargeFailed l reply e hreply =>
    obtain rfl := List.mem_singleton.1 hx
    refine ⟨l, rfl, rfl, fun charge status hcharge _ => ?_⟩
    rw [hreply] at hcharge
    cases hcharge
  | @statusFailed l reply described e hreply hfailed =>
    obtain rfl := List.mem_singleton.1 hx
    refine ⟨l, rfl, rfl, fun charge status hcharge hstatus => ?_⟩
    obtain rfl : described = charge := Except.ok.inj (hreply.symm.trans hcharge)
    rw [hfailed] at hstatus
    cases hstatus
  | @logRefused l reply described described' e hreply hdescribed =>
    rw [hcall] at hx
    obtain rfl := List.mem_singleton.1 hx
    refine ⟨l, rfl, rfl, fun charge status hcharge hstatus => ?_⟩
    obtain rfl : described = charge := Except.ok.inj (hreply.symm.trans hcharge)
    obtain rfl : described' = status := Except.ok.inj (hdescribed.symm.trans hstatus)
    exact (undergoes_call.1 ht).not_isFit
  | _ =>
    -- At the other stages the last call, if there is one, posts elsewhere.
    rcases (hlast.mem hx).2 with ⟨_, _, _, hcall⟩ | ⟨_, _, hcall, _⟩ | ⟨_, hstage, _⟩
    · exact absurd ((posts_customerCall hcall).1 hposts) (by decide)
    · exact absurd ((posts_cardCall hcall).1 hposts) (by decide)
    · exact Stage.noConfusion hstage

/-! ### What is left behind -/

/-- An accepted charge that an object describes is logged exactly when the object is loggable, the request
is a standard document, and the provider's name and the key of the payment method can be stored. -/
theorem Stage.gainsLog_iff_isLoggable {r : Except Failure PaymentResult} {fields : List (Text × Value)}
    (hg : g.IsReached a s) (hheard : g.Heard a) (hhalts : a.Halts g last r)
    (ht : (s.after (a.written g)).Undergoes last (s.after (a.written g)))
    (hx : x ∈ g.exchanges a s ++ (s.after (a.written g)).exchanges last)
    (hposts : a.service.Posts "charges" x) (hanswer : answerOf x.reply = .ok (.object fields)) :
    s.GainsLog (.object fields) (s.after (a.written g)) ↔
      IsLoggable fields ∧ x.call.payload.isStandard = true ∧
        a.service.provider.name.IsStorable ∧ Offer.fits s.methods.next = true := by
  rw [gainsLog_iff, isLoggable_iff hanswer]
  rcases List.mem_append.1 hx with hx | hx
  · -- The charge is logged, and so its log was fit for the store.
    obtain ⟨m, hm, hcall, hreply⟩ := Stage.charge_exchange hx hposts
    have hlogged := hg.logged hm
    have hmethod : m.method = s.methods.next := Known.Agrees.method hlogged.agrees
    obtain ⟨_, hcharge, hstatus⟩ := hheard.logged hm
    rw [hreply] at hanswer ⊢
    obtain ⟨⟨hfits, hname, hid, hfinite⟩, hrequest, hstandard⟩ :=
      (logWrite_isFit_iff hlogged.of_logged.1).1 hlogged.of_logged.2
    refine iff_of_true ⟨m, hm, ?_⟩ ⟨⟨m.charge, m.status, hcharge, hstatus, hid, hfinite, hstandard⟩, ?_,
      hname, ?_⟩
    · rw [raw_of_chargeOf hcharge hanswer]
    · rw [hcall]
      exact hrequest
    · rw [← hmethod]
      exact hfits
  · -- The payment ends with the charge, which was not described or whose log was not fit.
    obtain ⟨l, rfl, hcall, hunfit⟩ := hhalts.charge_exchange ht hx hposts
    have hmethod : l.method = s.methods.next := Known.Agrees.method hg.agrees
    refine iff_of_false (fun ⟨_, hm, _⟩ => Option.some_ne_none _ hm.symm) ?_
    rintro ⟨⟨charge, status, hcharge, hstatus, hid, hfinite, hstandard⟩, hrequest, hname, hfits⟩
    refine hunfit charge status hcharge hstatus ((logWrite_isFit_iff hg).2 ?_)
    rw [hcall] at hrequest
    rw [← hmethod] at hfits
    exact ⟨⟨hfits, hname, hid, hfinite⟩, hrequest, hstandard⟩

/-- When a charge is logged, its transaction is written exactly when the charge is bookable. -/
theorem Stage.gainsTransaction_iff_isBookable {r : Except Failure PaymentResult} (hg : g.IsReached a s)
    (hheard : g.Heard a) (hhalts : a.Halts g last r)
    (ht : (s.after (a.written g)).Undergoes last (s.after (a.written g))) (hm : g.logged? = some m) :
    s.GainsTransaction .charge (s.after (a.written g)) ↔ m.charge.IsBookable := by
  have hid : m.charge.id ≠ .null := id_ne_null_of_chargeOf (hheard.logged hm).charge
  rw [gainsTransaction_charge_iff]
  cases g with
  | logged k =>
    cases hm
    -- The payment ends here, and this it only does when the transaction is refused.
    have hunfit : ¬(a.chargeWrite m).IsFit (s.after (a.written (.logged m))) := by
      cases hhalts with
      | chargeRefused e => exact ht.not_isFit
    rw [chargeWrite_isFit_iff hg hid] at hunfit
    exact iff_of_false (fun ⟨_, h⟩ => Stage.noConfusion h) hunfit
  | charged k =>
    cases hm
    obtain ⟨hlogged, hfit⟩ := hg.of_charged
    exact iff_of_true ⟨m, rfl⟩ ((chargeWrite_isFit_iff hlogged hid).1 hfit)
  | _ => cases hm

/-- What is left of a charge at the stage at which a payment ends. -/
theorem Stage.leaves {r : Except Failure PaymentResult} (hg : g.IsReached a s) (hheard : g.Heard a)
    (hhalts : a.Halts g last r)
    (ht : (s.after (a.written g)).Undergoes last (s.after (a.written g))) :
    a.service.Leaves s (s.after (a.written g))
      (g.exchanges a s ++ (s.after (a.written g)).exchanges last) := by
  cases hm : g.logged? with
  | some m =>
    have hx := (Stage.mem_exchanges (a := a) (s := s)).2 (.inr (.inr ⟨m, hm, rfl⟩))
    have hx := List.mem_append_left ((s.after (a.written g)).exchanges last) hx
    have hcharge : chargeOf m.chargeReply = .ok m.charge := (hheard.logged hm).charge
    have hlog : s.GainsLog m.charge.raw (s.after (a.written g)) := gainsLog_iff.2 ⟨m, hm, rfl⟩
    have hiff := Stage.gainsTransaction_iff_isBookable hg hheard hhalts ht hm
    by_cases hbookable : m.charge.IsBookable
    · exact .both hx rfl hcharge hbookable hlog (hiff.2 hbookable)
    · exact .logAlone hx rfl hcharge hbookable hlog (lacksTransaction_of_not_gains (mt hiff.1 hbookable))
  | none =>
    obtain ⟨hlogs, hdetails⟩ := logs_of_not_logged (a := a) (s := s) hm
    refine .nothing hlogs hdetails (lacksTransaction_of_not_gains ?_)
    rw [gainsTransaction_charge_iff]
    rintro ⟨m, rfl⟩
    cases hm

end Attempt

variable (s : PaymentService) (now : DateTime) (request : PaymentRequest) (d : Desk)

/-- **The log of an accepted charge**: when the provider accepts a charge and answers with an object, the
payment leaves a log with this object behind exactly when the object is loggable, the request is a standard
document, and the provider's name and the key of the payment method can be stored. -/
theorem accepted_logged_iff (hd : d.methodVanishes = false) {x : Exchange}
    (hx : x ∈ d.exchanges (s.process now request)) (hposts : s.Posts "charges" x) {status : Int}
    {body : Text} (hreply : x.reply = .answered status body) (haccepted : status = 200 ∨ status = 201)
    {fields : List (Text × Value)} (hbody : Json.read body = .ok (.object fields)) :
    d.store.GainsLog (.object fields) (d.run (s.process now request)).2.store ↔
      IsLoggable fields ∧ x.call.payload.isStandard = true ∧ s.provider.name.IsStorable ∧
        Offer.fits d.store.methods.next = true := by
  have hanswer : answerOf x.reply = .ok (.object fields) := by
    rw [hreply]
    exact answerOf_of_read haccepted hbody
  rw [d.exchanges_eq _ hd] at hx
  rcases s.process_course now request d hd with
    ⟨_, _, hds, _, _⟩ | ⟨a, g, before, last, ha, hsteps, hhalts, hds, hreached, hbefore, hlast, hfinal⟩
  · rw [hds] at hx
    cases hx
  · obtain ⟨_, _, rfl⟩ := eq_of_attempt ha
    rw [hds, Store.exchanges_append hbefore, hsteps.exchanges hbefore] at hx
    rw [hfinal] at hx hlast ⊢
    exact Attempt.Stage.gainsLog_iff_isLoggable hreached (hsteps.heard trivial) hhalts hlast hx hposts
      hanswer

/-- A charge with a number as its status. -/
def trialNumberedCharge : Text := "\x7b\"id\": \"ch_1\", \"status\": 7, \"amount\": 100\x7d"

/-- A charge with a number as its status is accepted and leaves no log. -/
theorem trial_numbered_not_logged :
    ∃ x ∈ trialExchanges trialNumberedCharge, trialService.Posts "charges" x ∧
      x.reply = .answered 200 trialNumberedCharge ∧ ∃ fields,
        Json.read trialNumberedCharge = .ok (.object fields) ∧ ¬IsLoggable fields ∧
        ¬(trialDesk trialNumberedCharge).store.GainsLog (.object fields)
          (trialOutcome trialNumberedCharge).2.store := by
  have hcall : ∃ x ∈ trialExchanges trialNumberedCharge, trialService.Posts "charges" x ∧
      x.reply = .answered 200 trialNumberedCharge ∧ x.call.payload.isStandard = true := by
    decide +kernel
  have hobject : ((Json.read trialNumberedCharge).mapError .json >>= fieldsOf).isOk = true := by
    decide +kernel
  have hnone : (trialOutcome trialNumberedCharge).2.store.logs.rows.isEmpty = true := by
    decide +kernel
  obtain ⟨x, hx, hposts, hreply, hstandard⟩ := hcall
  obtain ⟨fields, hfields⟩ := isOk_iff.1 hobject
  obtain ⟨_, hread, hfields⟩ := bind_eq_ok.1 hfields
  obtain rfl := fieldsOf_eq_ok.1 hfields
  have hbody := mapError_eq_ok.1 hread
  have hlacks : ¬(trialDesk trialNumberedCharge).store.GainsLog (.object fields)
      (trialOutcome trialNumberedCharge).2.store := by
    rintro ⟨r, hr, _⟩
    rw [Table.since, List.isEmpty_iff.1 hnone, List.drop_nil] at hr
    cases hr
  refine ⟨x, hx, hposts, hreply, fields, hbody, fun hloggable => hlacks ?_, hlacks⟩
  rw [trialExchanges] at hx
  rw [trialOutcome]
  exact (accepted_logged_iff trialService trialTime Session.trialRequest (trialDesk trialNumberedCharge)
    rfl hx hposts hreply (.inl rfl) hbody).2 ⟨hloggable, hstandard, by decide, by decide⟩

/-- **The rows of a charge**: a payment leaves nothing of its charge, or a log and a transaction, or a log
alone, and the last exactly when the charge is not bookable.  A log always comes with its details, and a
transaction with its history. -/
theorem process_leaves (hd : d.methodVanishes = false) :
    s.Leaves d.store (d.run (s.process now request)).2.store (d.exchanges (s.process now request)) := by
  rw [d.exchanges_eq _ hd]
  rcases s.process_course now request d hd with
    ⟨_, _, hds, _, hfinal⟩ | ⟨a, g, before, last, ha, hsteps, hhalts, hds, hreached, hbefore, hlast, hfinal⟩
  · rw [hfinal]
    refine .nothing rfl rfl fun r hr => ?_
    rw [Table.since_self] at hr
    cases hr
  · obtain ⟨_, _, rfl⟩ := eq_of_attempt ha
    rw [hfinal] at hlast
    rw [hds, Store.exchanges_append hbefore, hsteps.exchanges hbefore, hfinal]
    exact Attempt.Stage.leaves hreached (hsteps.heard trivial) hhalts hlast

/-- A charge in the last second of the calendar, by local time. -/
def trialLateCharge : Text :=
  "\x7b\"id\": \"ch_1\", \"status\": \"completed\", \"amount\": 100, " ++
    "\"creation_date\": \"9999-12-31T23:59:59\"\x7d"

/-- A charge in the last second of the calendar is logged and leaves no transaction. -/
theorem trial_late_not_booked :
    (trialDesk trialLateCharge).methodVanishes = false ∧
      ∃ x ∈ trialExchanges trialLateCharge, trialService.Posts "charges" x ∧
        ∃ charge, chargeOf x.reply = .ok charge ∧ ¬charge.IsBookable ∧
          (trialDesk trialLateCharge).store.GainsLog charge.raw (trialOutcome trialLateCharge).2.store ∧
          (trialDesk trialLateCharge).store.LacksTransaction .charge
            (trialOutcome trialLateCharge).2.store := by
  have hlogs : (trialOutcome trialLateCharge).2.store.logs.rows.isEmpty = false := by decide +kernel
  have hlacks : ¬(trialDesk trialLateCharge).store.GainsTransaction .charge
      (trialOutcome trialLateCharge).2.store := by decide +kernel
  rw [trialOutcome] at hlogs hlacks ⊢
  rw [trialExchanges]
  refine ⟨rfl, ?_⟩
  rcases process_leaves trialService trialTime Session.trialRequest (trialDesk trialLateCharge) rfl with
    ⟨hsame, _, _⟩ | ⟨_, _, _, _, _, hgains⟩ | ⟨hx, hposts, hcharge, hbookable, hlog, hnone⟩
  · rw [hsame] at hlogs
    cases hlogs
  · exact absurd hgains hlacks
  · exact ⟨_, hx, hposts, _, hcharge, hbookable, hlog, hnone⟩

end PaymentService

end CardPayments
