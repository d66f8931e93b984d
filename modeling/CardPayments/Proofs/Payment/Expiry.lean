import CardPayments.Proofs.Payment.Documents
import CardPayments.Proofs.Payment.Success

/-!
# Payments with an expiry that cannot be used

The expiry of a card is read before a payment leaves any trace, but whether its year and its month have room in
their columns is only found out when the transaction for the token is written.  A payment with an expiry that
cannot be used always fails, and there is never a charge.  It leaves no trace at all exactly when the expiry
cannot be read, or when the payment method cannot be written for another reason
(`PaymentService.process_rejects`).
-/

namespace CardPayments

/-- The expiry of a request is not in two integers. -/
def PaymentRequest.HasUnreadableExpiry (r : PaymentRequest) : Prop :=
  (Numeral.readInteger r.expirationYear).isOk = false ∨ (Numeral.readInteger r.expirationMonth).isOk = false

/-- The expiry of a request is not in two integers that have room in their columns. -/
def PaymentRequest.HasUnusableExpiry (r : PaymentRequest) : Prop :=
  ∀ year month, Numeral.readInteger r.expirationYear = .ok year →
    Numeral.readInteger r.expirationMonth = .ok month → Offer.fits year = false ∨ Offer.fits month = false

namespace PaymentService

variable {s : PaymentService} {now : DateTime} {request : PaymentRequest}

/-- An expiry that cannot be read is all that can be wrong before a payment begins. -/
theorem attempt_cases (s : PaymentService) (now : DateTime) (request : PaymentRequest) :
    (request.HasUnreadableExpiry ∧ ∃ fault, s.attempt now request = .error (.numeral fault)) ∨
      ¬request.HasUnreadableExpiry ∧ ∃ a, s.attempt now request = .ok a ∧
        Numeral.readInteger request.expirationYear = .ok a.expireYear ∧
        Numeral.readInteger request.expirationMonth = .ok a.expireMonth := by
  unfold attempt PaymentRequest.HasUnreadableExpiry
  cases Numeral.readInteger request.expirationYear with
  | error fault => exact .inl ⟨.inl rfl, fault, rfl⟩
  | ok year =>
    cases Numeral.readInteger request.expirationMonth with
    | error fault => exact .inl ⟨.inr rfl, fault, rfl⟩
    | ok month =>
      refine .inr ⟨?_, _, rfl, rfl, rfl⟩
      rintro (⟨⟨⟩⟩ | ⟨⟨⟩⟩)

namespace Attempt

open Store

variable {a : Attempt} {s : Store} {g i : Stage} {ds : List Deed}

/-- A payment that has begun has written its payment method. -/
theorem methods_next (hg : g ≠ .begun) : (s.after (a.written g)).methods.next = s.methods.next + 1 := by
  have howned {k : Known} (hk : g.owned? = some k) :
      (s.after (a.written g)).methods.next = s.methods.next + 1 := by
    rw [methods_written hk, written_owned, after_append, after_singleton, ownerWrite, Write.effect]
    show (s.after (a.written (.known k))).methods.next = _
    rw [methods_known]
    rfl
  cases g with
  | begun => exact absurd rfl hg
  | recorded k => rfl
  | known k => rw [methods_known]; rfl
  | _ => exact howned rfl

/-- Until the token is written, there are no new statuses either. -/
theorem histories_of_not_tokenized (hl : g.tokenized? = none) :
    (s.after (a.written g)).histories = s.histories := by
  cases g with
  | begun => rfl
  | recorded k => rfl
  | known k =>
    rw [written, knownGroups]
    split_ifs <;> rfl
  | owned k => exact tables_owned.2.1
  | _ => cases hl

/-- The first deed of a payment that has begun has written its payment method. -/
theorem Steps.exists_head (h : a.Steps .begun ds g) (hg : g ≠ .begun) :
    ∃ token key rest, ds = .write (a.methodWrite token) (.ok key) :: rest := by
  -- Steps are added at the end, so the first deed of several steps is that of fewer, unless there are none.
  generalize hfirst : Stage.begun = first at h
  induction h with
  | refl => exact absurd hfirst.symm hg
  | @tail g' i before ds hsteps hstep ih =>
    by_cases hbegun : g' = .begun
    · subst hbegun
      obtain rfl := hfirst
      obtain rfl := hsteps.eq_nil_of_begun
      cases hstep with
      | record token key => exact ⟨token, key, [], rfl⟩
    · obtain ⟨token, key, rest, rfl⟩ := ih hbegun
      exact ⟨token, key, rest ++ ds, rfl⟩

/-- A payment comes beyond its beginning exactly when its payment method is fit to be written. -/
theorem ne_begun_iff {last : List Deed} {r : Except Failure PaymentResult} {token : Text}
    {answer : Except Failure (Option Nat)} {rest : List Deed} {t : Store} (hsteps : a.Steps .begun ds g)
    (hhalts : a.Halts g last r) (hfirst : ds ++ last = .write (a.methodWrite token) answer :: rest)
    (ht : s.Undergoes (ds ++ last) t) : g ≠ .begun ↔ (a.methodWrite token).IsFit s := by
  constructor
  · intro hg
    obtain ⟨token', key, rest', rfl⟩ := hsteps.exists_head hg
    rw [List.cons_append] at hfirst ht
    obtain ⟨hdeed, _⟩ := List.cons.inj hfirst
    obtain ⟨hwrite, rfl⟩ := Deed.write.inj hdeed
    rw [hwrite] at ht
    exact (undergoes_written.1 ht).1
  · rintro hfit rfl
    obtain rfl := hsteps.eq_nil_of_begun
    rw [List.nil_append] at hfirst ht
    rw [hfirst] at hhalts ht
    cases hhalts with
    | methodRefused token e => exact ht.not_isFit hfit

/-- A payment whose expiry has no room in its columns never gets beyond the exchange of the card. -/
theorem Stage.tokenized?_eq_none (hg : g.IsReached a s)
    (h : Offer.fits a.expireYear = false ∨ Offer.fits a.expireMonth = false) : g.tokenized? = none := by
  cases hl : g.tokenized? with
  | none => rfl
  | some l =>
    have hstorable := (hg.tokenized hl).isStorable
    rw [hstorable.year, hstorable.month] at h
    obtain ⟨⟨⟩⟩ | ⟨⟨⟩⟩ := h

end Attempt

variable (s : PaymentService) (now : DateTime) (request : PaymentRequest) (d : Desk)

/-- What is to be said of a payment with an expiry that cannot be used. -/
structure Rejects : Prop where
  /-- It fails. -/
  fails : ∃ e, (d.run (s.process now request)).1 = .error e
  /-- It fails at once, with nothing done, when the expiry cannot be read. -/
  unreadable : request.HasUnreadableExpiry →
    (∃ fault, (d.run (s.process now request)).1 = .error (.numeral fault)) ∧
      d.deeds (s.process now request) = []
  /-- There is no charge. -/
  uncharged : ∀ x ∈ d.exchanges (s.process now request), ¬s.Posts "charges" x
  /-- Neither a transaction nor a log is written. -/
  unbooked : (d.run (s.process now request)).2.store.transactions = d.store.transactions ∧
    (d.run (s.process now request)).2.store.histories = d.store.histories ∧
    (d.run (s.process now request)).2.store.logs = d.store.logs ∧
    (d.run (s.process now request)).2.store.details = d.store.details
  /-- The store is as it was, and there is no call, exactly when the expiry cannot be read, or the payment method
  cannot be written for another reason. -/
  untouched_iff : (d.run (s.process now request)).2.store = d.store ∧
      (d.run (s.process now request)).2.calls = d.calls ↔
    request.HasUnreadableExpiry ∨
      ∃ a, s.attempt now request = .ok a ∧ ¬(a.methodWrite d.chooseToken.1).IsFit d.store

variable {s now request d}

/-- A payment that has begun leaves the store as it was, and makes no call, exactly when its payment method is
refused. -/
theorem untouched_iff_of_attempt (hd : d.methodVanishes = false) {a : Attempt}
    (ha : s.attempt now request = .ok a) :
    (d.run (s.process now request)).2.store = d.store ∧ (d.run (s.process now request)).2.calls = d.calls ↔
      ¬(a.methodWrite d.chooseToken.1).IsFit d.store := by
  obtain ⟨g, before, last, hsteps, hhalts, hds, _, hbefore, hlast, hfinal⟩ :=
    s.course_of_attempt now request d hd ha
  have hbegun : g ≠ .begun ↔ (a.methodWrite d.chooseToken.1).IsFit d.store := by
    obtain ⟨answer, rest, hfirst⟩ := Attempt.exists_deeds_process ha d
    rw [hds] at hfirst
    exact Attempt.ne_begun_iff hsteps hhalts hfirst (Store.undergoes_append.2 ⟨_, hbefore, hlast⟩)
  rw [← hbegun, not_not]
  constructor
  · rintro ⟨hstore, _⟩
    by_contra hg
    -- The next key for a payment method tells that one was written.
    have hnext := Attempt.methods_next (a := a) (s := d.store) hg
    rw [← hfinal, hstore] at hnext
    omega
  · rintro rfl
    obtain rfl := hsteps.eq_nil_of_begun
    have hnone : (d.run (s.process now request)).2.store.exchanges last = [] := hhalts.last hlast
    have hexchanges : d.exchanges (s.process now request) = [] := by
      rw [d.exchanges_eq _ hd, hds, Store.exchanges_append hbefore, hnone]
      rfl
    have hcalls := d.calls_run (s.process now request)
    rw [hexchanges, List.map_nil, List.append_nil] at hcalls
    exact ⟨hfinal, hcalls⟩

/-- A payment whose expiry cannot be read is rejected before anything is done. -/
theorem rejects_of_unreadable (hd : d.methodVanishes = false) (h : request.HasUnreadableExpiry) :
    s.Rejects now request d := by
  obtain ⟨_, fault, hfault⟩ | ⟨hreadable, _⟩ := s.attempt_cases now request
  swap
  · exact absurd h hreadable
  rcases s.process_course now request d hd with ⟨e, he, hds, hr, hfinal⟩ | ⟨a, _, _, _, ha, _⟩
  swap
  · rw [hfault] at ha
    cases ha
  rw [hfault] at he
  obtain rfl := Except.error.inj he
  have hexchanges : d.exchanges (s.process now request) = [] := by
    rw [d.exchanges_eq _ hd, hds]
    rfl
  have hcalls := d.calls_run (s.process now request)
  rw [hexchanges, List.map_nil, List.append_nil] at hcalls
  refine ⟨⟨_, hr⟩, fun _ => ⟨⟨fault, hr⟩, hds⟩, ?_, ?_, iff_of_true ⟨hfinal, hcalls⟩ (.inl h)⟩
  · rw [hexchanges]
    exact List.forall_mem_nil _
  · rw [hfinal]
    exact ⟨rfl, rfl, rfl, rfl⟩

/-- A payment that has begun with an expiry that cannot be used gets no further than to the exchange of the
card. -/
theorem rejects_of_attempt (hd : d.methodVanishes = false) (h : request.HasUnusableExpiry) {a : Attempt}
    (ha : s.attempt now request = .ok a) : s.Rejects now request d := by
  obtain ⟨_, fault, hfault⟩ | ⟨hreadable, a', ha', hyear, hmonth⟩ := s.attempt_cases now request
  · rw [ha] at hfault
    cases hfault
  obtain rfl : a = a' := Except.ok.inj (ha.symm.trans ha')
  obtain ⟨g, before, last, hsteps, hhalts, hds, hreached, hbefore, hlast, hfinal⟩ :=
    s.course_of_attempt now request d hd ha
  have htokenized : g.tokenized? = none := Attempt.Stage.tokenized?_eq_none hreached (h _ _ hyear hmonth)
  refine ⟨?_, fun hunreadable => absurd hunreadable hreadable, ?_, ?_, (untouched_iff_of_attempt hd ha).trans ?_⟩
  · cases hr : (d.run (s.process now request)).1 with
    | error e => exact ⟨e, rfl⟩
    | ok result =>
      -- A payment with a result has been tokenized on the way.
      rw [hr] at hhalts
      obtain ⟨m, rfl⟩ := hhalts.ok_iff.1 ⟨result, rfl⟩
      cases htokenized
  · obtain ⟨_, _, rfl⟩ := eq_of_attempt ha
    have hlastCalls := hhalts.last hlast
    rw [d.exchanges_eq _ hd, hds, Store.exchanges_append hbefore, hsteps.exchanges hbefore]
    intro x hx hposts
    rw [hfinal] at hx hlastCalls
    obtain ⟨l, hl, _⟩ := Attempt.Stage.of_posts_charges hlastCalls hx hposts
    rw [htokenized] at hl
    cases hl
  · obtain ⟨htransactions, hlogs, hdetails⟩ := Attempt.tables_of_not_tokenized (a := a) (s := d.store) htokenized
    rw [hfinal]
    exact ⟨htransactions, Attempt.histories_of_not_tokenized htokenized, hlogs, hdetails⟩
  · constructor
    · exact fun hunfit => .inr ⟨a, ha, hunfit⟩
    · rintro (hunreadable | ⟨a', ha', hunfit⟩)
      · exact absurd hunreadable hreadable
      · obtain rfl : a = a' := Except.ok.inj (ha.symm.trans ha')
        exact hunfit

/-- **An expiry that cannot be used**: a payment with it fails and is never charged or booked, and an expiry that
cannot be read leaves no trace.  One that can be read, but has no room in its columns, leaves its payment method,
and whatever comes after it up to the exchange of the card, unless the payment method itself is refused. -/
theorem process_rejects (s : PaymentService) (now : DateTime) (request : PaymentRequest) (d : Desk)
    (hd : d.methodVanishes = false) (h : request.HasUnusableExpiry) : s.Rejects now request d := by
  obtain ⟨hunreadable, _⟩ | ⟨_, a, ha, _⟩ := s.attempt_cases now request
  · exact rejects_of_unreadable hd hunreadable
  · exact rejects_of_attempt hd h ha

/-- The trial request with a year that has no room in its column. -/
def trialFarExpiry : PaymentRequest := { Session.trialRequest with expirationYear := "99999999999999999999" }

/-- A payment that expires in a year with twenty digits writes a payment method and a customer, and calls
twice. -/
theorem trial_far_expiry :
    (trialDesk trialCharge).methodVanishes = false ∧ trialFarExpiry.HasUnusableExpiry ∧
      ¬trialFarExpiry.HasUnreadableExpiry ∧
      ((trialDesk trialCharge).run (trialService.process trialTime trialFarExpiry)).2.calls.length = 2 ∧
      ((trialDesk trialCharge).run (trialService.process trialTime trialFarExpiry)).2.store.rowCount = 4 ∧
      trialService.Rejects trialTime trialFarExpiry (trialDesk trialCharge) := by
  have hread : Numeral.readInteger trialFarExpiry.expirationYear = .ok 99999999999999999999 := rfl
  have hunusable : trialFarExpiry.HasUnusableExpiry := by
    intro year month hyear _
    obtain rfl := Except.ok.inj (hread.symm.trans hyear)
    exact .inl (by decide)
  have hreadable : ¬trialFarExpiry.HasUnreadableExpiry := by
    unfold PaymentRequest.HasUnreadableExpiry
    decide +kernel
  exact ⟨rfl, hunusable, hreadable, by decide +kernel, by decide +kernel, process_rejects _ _ _ _ rfl hunusable⟩

end PaymentService

end CardPayments
