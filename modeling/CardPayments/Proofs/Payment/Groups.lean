import CardPayments.Proofs.Payment.Course
import CardPayments.Proofs.Store.Write
import CardPayments.Session.Trial

/-!
# What a payment writes

The groups of rows of a payment stand in a fixed order, and `Attempt.groups` lists them.  A payment that
ends, at whatever place and for whatever reason, has written the first few of them and nothing else:
every step writes the groups of its stage (`Step.undergoes`), and halting writes none
(`Halts.undergoes`).  For a whole payment this is `PaymentService.process_writes_take`.
-/

namespace CardPayments

namespace Store

theorem askCustomer_eq_ok {s : Store} {name email : Text} {found : Option CustomerRow}
    (h : s.askCustomer name email = .ok found) : found = s.findCustomer? name email := by
  unfold askCustomer at h
  split at h
  · cases h
  · exact (Except.ok.inj h).symm

variable {s t : Store} {w : Write} {ds : List Deed}

/-- A group of rows that a store took was fit for it, and the store has its rows. -/
theorem undergoes_written {key : Option Nat} :
    s.Undergoes (.write w (.ok key) :: ds) t ↔
      w.IsFit s ∧ key = w.key? s ∧ (w.effect s).Undergoes ds t := by
  rw [undergoes_taken]
  constructor
  · rintro ⟨s', hw, h⟩
    obtain ⟨hfit, hkey, rfl⟩ := Write.apply_eq_ok.1 hw
    exact ⟨hfit, hkey, h⟩
  · rintro ⟨hfit, hkey, h⟩
    exact ⟨_, Write.apply_eq_ok.2 ⟨hfit, hkey, rfl⟩, h⟩

/-- A group of rows that a store refused was not fit for it. -/
theorem Undergoes.not_isFit {e : Failure} (h : s.Undergoes (.write w (.error e) :: ds) t) :
    ¬w.IsFit s := by
  intro hfit
  have hw := (undergoes_refused.1 h).1
  rw [Write.apply_eq_ok.2 ⟨hfit, rfl, rfl⟩] at hw
  cases hw

end Store

/-! ### What is kept at a desk -/

namespace Desk

section

variable {P : Store → Prop} (hremove : ∀ {s t : Store} {id : Nat}, P s → s.removeMethod id = .ok t → P t)
  (heffect : ∀ {s : Store} {w : Write}, P s → w.IsFit s → P (w.effect s))
include hremove heffect

/-- What is kept by every group of rows that a store takes, and by the removal of a payment method, is kept
by every action, even if someone else interferes. -/
theorem perform_keeps (d : Desk) (a : Action) (hd : P d.store) : P (d.perform a).2.store := by
  have hbefore {w : Write} {before : Store} (h : d.storeBefore w = .ok before) : P before := by
    unfold storeBefore at h
    split at h
    · split_ifs at h
      · exact hremove hd h
      · cases h
        exact hd
    · cases h
      exact hd
  cases a with
  | note entry => exact hd
  | chooseToken =>
    show P d.chooseToken.2.store
    unfold chooseToken
    split <;> exact hd
  | call c =>
    show P (d.call c).2.store
    unfold Desk.call
    dsimp only
    split <;> exact hd
  | findCustomer name email => exact hd
  | commit w =>
    show P (d.commit w).2.store
    unfold commit
    split
    · exact hd
    · next before h =>
      split
      · exact hbefore h
      · next key after hwrite =>
        obtain ⟨hfit, _, rfl⟩ := Write.apply_eq_ok.1 hwrite
        exact heffect (hbefore h) hfit

theorem run_keeps {α : Type} (p : Program α) (d : Desk) (hd : P d.store) : P (d.run p).2.store := by
  induction p generalizing d with
  | done x => exact hd
  | fail e => exact hd
  | act a next ih => exact ih _ _ (perform_keeps hremove heffect d a hd)

end

/-- A store whose next payment method has a key of its own is left behind as such a store by every
program: someone else who deletes a payment method does not make its key a new one. -/
theorem isFresh_run {α : Type} (p : Program α) (d : Desk) (hd : d.store.methods.IsFresh) :
    (d.run p).2.store.methods.IsFresh := by
  refine run_keeps (P := fun s => s.methods.IsFresh) ?_ ?_ p d hd
  · intro s t id hs h
    unfold Store.removeMethod at h
    split_ifs at h
    cases h
    exact hs.keep
  · exact fun hs _ => Write.isFresh_methods_effect hs

end Desk

namespace PaymentService

namespace Attempt

open Store

variable (a : Attempt)

/-! ### The groups of rows -/

/-- The groups that are written until the customer is known. -/
def knownGroups (k : Known) : List Write :=
  a.methodWrite k.token :: if k.isNew then [a.customerWrite k.method k.payer.customer] else []

/-- The groups of a whole payment, in order. -/
def groups (k : Logged) : List Write :=
  a.knownGroups k.toKnown ++
    [a.ownerWrite k.toKnown, a.tokenWrite k.toTokenized, a.logWrite k, a.chargeWrite k]

/-- The groups that are written when a payment has come to a stage. -/
def written : Stage → List Write
  | .begun => []
  | .recorded k => [a.methodWrite k.token]
  | .known k => a.knownGroups k
  | .owned k => a.knownGroups k ++ [a.ownerWrite k]
  | .tokenized k => a.knownGroups k.toKnown ++ [a.ownerWrite k.toKnown, a.tokenWrite k]
  | .logged k =>
    a.knownGroups k.toKnown ++ [a.ownerWrite k.toKnown, a.tokenWrite k.toTokenized, a.logWrite k]
  | .charged k => a.groups k

/-! ### What the store says about a payment -/

/-- What the store in which a payment began says about its payment method and its customer: the customer
is the oldest one of the name and address, and a new one if there is none. -/
structure Known.Agrees (s : Store) (k : Known) : Prop where
  /-- The key of the payment method is the next one. -/
  method : k.method = s.methods.next
  /-- A customer that is there is not new. -/
  found : ∀ row, s.findCustomer? a.request.name a.request.email = some row →
    k.isNew = false ∧ k.payer = payerOfRow row
  /-- A customer that is not there is new, and its key is the next one. -/
  notFound : s.findCustomer? a.request.name a.request.email = none →
    k.isNew = true ∧ k.payer.id = s.customers.next

/-- What the store in which a payment began says about a stage of it. -/
def Stage.Agrees (s : Store) : Stage → Prop
  | .begun => True
  | .recorded k => k.method = s.methods.next
  | .known k => k.Agrees a s
  | .owned k => k.Agrees a s
  | .tokenized k => k.toKnown.Agrees a s
  | .logged k => k.toKnown.Agrees a s
  | .charged k => k.toKnown.Agrees a s

variable {a : Attempt} {s t : Store} {g i : Stage} {ds : List Deed}

/-- A payment method does not change which customer is found. -/
theorem findCustomer?_methodWrite {token name email : Text} :
    (s.after [a.methodWrite token]).findCustomer? name email = s.findCustomer? name email := rfl

theorem written_owned {k : Known} :
    a.written (.owned k) = a.written (.known k) ++ [a.ownerWrite k] := rfl

theorem written_tokenized {k : Tokenized} :
    a.written (.tokenized k) = a.written (.owned k.toKnown) ++ [a.tokenWrite k] := by
  simp only [written, List.append_assoc, List.cons_append, List.nil_append]

theorem written_logged {k : Logged} :
    a.written (.logged k) = a.written (.tokenized k.toTokenized) ++ [a.logWrite k] := by
  simp only [written, List.append_assoc, List.cons_append, List.nil_append]

theorem written_charged {k : Logged} :
    a.written (.charged k) = a.written (.logged k) ++ [a.chargeWrite k] := by
  simp only [written, groups, List.append_assoc, List.cons_append, List.nil_append]

variable (a s g) in
/-- A payment that began in a store has come to a stage: what the store says about the stage is so, and
the groups that are written there were fit to be. -/
structure Stage.IsReached : Prop where
  agrees : g.Agrees a s
  takes : s.Takes (a.written g)

/-- A step writes the groups that its stage has more than the one before. -/
theorem Step.undergoes (h : a.Step g ds i) (hg : g.IsReached a s)
    (ht : (s.after (a.written g)).Undergoes ds t) : i.IsReached a s ∧ t = s.after (a.written i) := by
  obtain ⟨hagrees, htakes⟩ := hg
  have hconcat {ws : List Write} {w : Write} (hws : s.Takes ws) (hfit : w.IsFit (s.after ws)) :
      s.Takes (ws ++ [w]) := takes_concat.2 ⟨hws, hfit⟩
  cases h with
  | record token key =>
    obtain ⟨hfit, rfl, hlast⟩ := undergoes_written.1 ht
    exact ⟨⟨rfl, hfit, trivial⟩, undergoes_nil.1 hlast⟩
  | @reuse k row =>
    obtain ⟨hrow, hlast⟩ := undergoes_lookup.1 ht
    have hfound : s.findCustomer? a.request.name a.request.email = some row :=
      (askCustomer_eq_ok hrow.symm).symm
    refine ⟨⟨⟨hagrees, ?_, ?_⟩, htakes⟩, undergoes_nil.1 hlast⟩
    · intro row' h
      rw [hfound] at h
      cases h
      exact ⟨rfl, rfl⟩
    · intro h
      rw [hfound] at h
      cases h
  | @create k reply created key hreply =>
    obtain ⟨hanswer, hrest⟩ := undergoes_lookup.1 ht
    have hnone : s.findCustomer? a.request.name a.request.email = none :=
      (askCustomer_eq_ok hanswer.symm).symm
    obtain ⟨hfit, rfl, hlast⟩ := undergoes_written.1 (undergoes_call.1 hrest)
    refine ⟨⟨⟨hagrees, ?_, fun _ => ⟨rfl, rfl⟩⟩, hconcat htakes hfit⟩, undergoes_nil.1 hlast⟩
    intro row h
    rw [hnone] at h
    cases h
  | @own k key =>
    obtain ⟨hfit, _, hlast⟩ := undergoes_written.1 ht
    rw [undergoes_nil.1 hlast, written_owned, after_append]
    exact ⟨⟨hagrees, hconcat htakes hfit⟩, rfl⟩
  | @tokenize k reply card key hreply =>
    obtain ⟨hfit, _, hlast⟩ := undergoes_written.1 (undergoes_call.1 ht)
    refine ⟨⟨hagrees, ?_⟩, ?_⟩
    · rw [written_tokenized]
      exact hconcat htakes hfit
    · rw [undergoes_nil.1 hlast, written_tokenized, after_append]
      rfl
  | @log k reply charge status key hreply hstatus =>
    obtain ⟨hfit, _, hlast⟩ := undergoes_written.1 (undergoes_call.1 ht)
    refine ⟨⟨hagrees, ?_⟩, ?_⟩
    · rw [written_logged]
      exact hconcat htakes hfit
    · rw [undergoes_nil.1 hlast, written_logged, after_append]
      rfl
  | @charge k key =>
    obtain ⟨hfit, _, hlast⟩ := undergoes_written.1 ht
    refine ⟨⟨hagrees, ?_⟩, ?_⟩
    · rw [written_charged]
      exact hconcat htakes hfit
    · rw [undergoes_nil.1 hlast, written_charged, after_append]
      rfl

/-- Some steps, one after the other, write the groups of the stage to which they lead. -/
theorem Steps.undergoes (h : a.Steps .begun ds g) (ht : s.Undergoes ds t) :
    g.IsReached a s ∧ t = s.after (a.written g) := by
  generalize hfirst : Stage.begun = first at h
  induction h generalizing t with
  | refl =>
    subst hfirst
    exact ⟨⟨trivial, trivial⟩, undergoes_nil.1 ht⟩
  | tail _ hstep ih =>
    -- Being reached is what carries the induction: it says which store the next step finds.
    obtain ⟨m, hm, hlast⟩ := undergoes_append.1 ht
    obtain ⟨hg, rfl⟩ := ih hm
    exact hstep.undergoes hg hlast

/-- Halting writes nothing. -/
theorem Halts.undergoes {r : Except Failure PaymentResult} (h : a.Halts g ds r)
    (ht : s.Undergoes ds t) : t = s := by
  cases h with
  | @methodGone k =>
    obtain ⟨_, hkey, hlast⟩ := undergoes_written.1 ht
    rw [undergoes_nil.1 hlast]
    exact Write.effect_of_key?_eq_none hkey.symm
  | _ => simp_all only [undergoes_nil, undergoes_call, undergoes_lookup, undergoes_refused]

/-! ### Whole payments -/

/-- What the store says about the customer can be said as soon as the payment method is written. -/
theorem Recorded.exists_known (k : Recorded) (hk : k.method = s.methods.next) :
    ∃ k' : Known, k'.toRecorded = k ∧ k'.Agrees a s := by
  cases hfound : s.findCustomer? a.request.name a.request.email with
  | some row =>
    refine ⟨⟨k, none, payerOfRow row⟩, rfl, hk, ?_, fun h => ?_⟩
    · intro row' h
      rw [hfound] at h
      cases h
      exact ⟨rfl, rfl⟩
    · rw [hfound] at h
      cases h
  | none =>
    refine ⟨⟨k, some default, default, s.customers.next⟩, rfl, hk, fun row h => ?_, fun _ => ⟨rfl, rfl⟩⟩
    rw [hfound] at h
    cases h

/-- What is written at a stage is the beginning of the groups of a whole payment, and it is all of them
only at the last stage. -/
theorem Stage.Agrees.exists_groups (hg : g.Agrees a s) :
    ∃ k : Logged, k.toKnown.Agrees a s ∧ a.written g <+: a.groups k ∧
      ((a.written g).length = (a.groups k).length ↔ ∃ k', g = .charged k') := by
  cases g with
  -- What the payment would have found out later is arbitrary, apart from what the store says.
  | begun =>
    obtain ⟨k, _, hk⟩ := Recorded.exists_known (a := a) ⟨[], s.methods.next⟩ rfl
    refine ⟨⟨⟨k, default, default⟩, default, default, none⟩, hk, List.nil_prefix, ?_⟩
    simp [written, groups]
  | recorded k =>
    obtain ⟨k, rfl, hk⟩ := k.exists_known hg
    refine ⟨⟨⟨k, default, default⟩, default, default, none⟩, hk, ?_, ?_⟩
    · exact ⟨_, rfl⟩
    · simp [written, groups, knownGroups]
  | known k =>
    refine ⟨⟨⟨k, default, default⟩, default, default, none⟩, hg, List.prefix_append _ _, ?_⟩
    simp [written, groups]
  | owned k =>
    refine ⟨⟨⟨k, default, default⟩, default, default, none⟩, hg, ?_, ?_⟩
    · exact ⟨_, List.append_assoc ..⟩
    · simp [written, groups]
  | tokenized k =>
    refine ⟨⟨k, default, default, none⟩, hg, ?_, ?_⟩
    · exact ⟨_, List.append_assoc ..⟩
    · simp [written, groups]
  | logged k =>
    refine ⟨k, hg, ?_, ?_⟩
    · exact ⟨_, List.append_assoc ..⟩
    · simp [written, groups]
  | charged k => exact ⟨k, hg, List.prefix_rfl, iff_of_true rfl ⟨k, rfl⟩⟩

/-- A payment has a result exactly when it halts at the last stage. -/
theorem Halts.ok_iff {r : Except Failure PaymentResult} (h : a.Halts g ds r) :
    (∃ result, r = .ok result) ↔ ∃ k, g = .charged k := by
  cases h with
  | paid => exact iff_of_true ⟨_, rfl⟩ ⟨_, rfl⟩
  | _ => simp only [reduceCtorEq, exists_false]

/-- Of the groups of a payment only one changes a row, and this is its own payment method. -/
theorem spares_groups (k : Logged) : ∀ w ∈ a.groups k, w.SparesBelow k.method := by
  rw [groups, knownGroups, List.cons_append, List.forall_mem_cons, List.forall_mem_append]
  refine ⟨trivial, ?_, ?_⟩
  · split_ifs
    · rw [List.forall_mem_singleton]
      trivial
    · simp only [List.not_mem_nil, false_implies, implies_true]
  · simp only [List.forall_mem_cons, List.not_mem_nil, false_implies, implies_true, and_true]
    exact ⟨le_rfl, trivial, trivial, trivial⟩

end Attempt

/-- An attempt is one of the service, the time and the request. -/
theorem eq_of_attempt {s : PaymentService} {now : DateTime} {request : PaymentRequest} {a : Attempt}
    (h : s.attempt now request = .ok a) :
    ∃ year month, a = ⟨s, now, request, s.deviceSessionFor request, year, month⟩ := by
  unfold attempt at h
  obtain ⟨year, _, h⟩ := bind_eq_ok.1 h
  obtain ⟨month, _, h⟩ := bind_eq_ok.1 h
  exact ⟨year, month, pure_eq_ok.1 h⟩

variable (s : PaymentService) (now : DateTime) (request : PaymentRequest) (d : Desk)

/-- The course of a payment at a desk where nobody interferes: it fails before its first deed and leaves
the store as it is, or it comes to a stage, leaves behind what is written there, and halts. -/
theorem process_course (hd : d.methodVanishes = false) :
    let p := s.process now request
    let final := (d.run p).2.store
    (∃ e, s.attempt now request = .error e ∧ d.deeds p = [] ∧ (d.run p).1 = .error e ∧
        final = d.store) ∨
      ∃ a g before last, s.attempt now request = .ok a ∧ a.Steps .begun before g ∧
        a.Halts g last (d.run p).1 ∧ d.deeds p = before ++ last ∧ g.IsReached a d.store ∧
        d.store.Undergoes before final ∧ final.Undergoes last final ∧
        final = d.store.after (a.written g) := by
  intro p final
  have hstore : d.store.Undergoes (d.deeds p) final := d.run_undergoes p hd
  rcases process_does (d.run_does p) with ⟨e, he, hds, hr⟩ | ⟨a, ha, g, before, last, hsteps, hhalts, hds⟩
  · rw [hds] at hstore
    exact .inl ⟨e, he, hds, hr, Store.undergoes_nil.1 hstore⟩
  · rw [hds] at hstore
    obtain ⟨t, hbefore, hlast⟩ := Store.undergoes_append.1 hstore
    obtain ⟨hreached, ht⟩ := hsteps.undergoes hbefore
    have hfinal : final = t := hhalts.undergoes hlast
    rw [← hfinal] at hbefore hlast ht
    exact .inr ⟨a, g, before, last, ha, hsteps, hhalts, hds, hreached, hbefore, hlast, ht⟩

/-- The course of a payment that has begun. -/
theorem course_of_attempt (hd : d.methodVanishes = false) {a : Attempt} (ha : s.attempt now request = .ok a) :
    let p := s.process now request
    let final := (d.run p).2.store
    ∃ g before last, a.Steps .begun before g ∧ a.Halts g last (d.run p).1 ∧ d.deeds p = before ++ last ∧
      g.IsReached a d.store ∧ d.store.Undergoes before final ∧ final.Undergoes last final ∧
      final = d.store.after (a.written g) := by
  rcases s.process_course now request d hd with ⟨e, he, _⟩ | ⟨a', g, before, last, ha', hcourse⟩
  · rw [ha] at he
    cases he
  · obtain rfl : a = a' := Except.ok.inj (ha.symm.trans ha')
    exact ⟨g, before, last, hcourse⟩

/-- **The prefix law**: a payment, at whatever place and for whatever reason it ends, has written the
first few of the groups of rows of a whole payment and nothing else; it has written all of them exactly
when it has a result.  The customer is the oldest one of the name and address in the store, and a group
of its own only when there is none.  All older rows of all tables are as they were. -/
theorem process_writes_take (hd : d.methodVanishes = false) (hfresh : d.store.methods.IsFresh) :
    ∃ (a : Attempt) (k : Attempt.Logged) (n : Nat),
      (a.service = s ∧ a.now = now ∧ a.request = request) ∧
      (∀ b, s.attempt now request = .ok b → a = b) ∧
      k.toKnown.Agrees a d.store ∧
      n ≤ (a.groups k).length ∧
      (d.run (s.process now request)).2.store = d.store.after ((a.groups k).take n) ∧
      (n = (a.groups k).length ↔ ∃ result, (d.run (s.process now request)).1 = .ok result) ∧
      d.store.Extends (d.run (s.process now request)).2.store := by
  obtain ⟨a, g, hservice, hattempt, hagrees, hfinal, hresult⟩ :
      ∃ (a : Attempt) (g : Attempt.Stage), (a.service = s ∧ a.now = now ∧ a.request = request) ∧
        (∀ b, s.attempt now request = .ok b → a = b) ∧ g.Agrees a d.store ∧
        (d.run (s.process now request)).2.store = d.store.after (a.written g) ∧
        ((∃ result, (d.run (s.process now request)).1 = .ok result) ↔ ∃ k, g = .charged k) := by
    rcases s.process_course now request d hd with
      ⟨e, he, _, hr, hfinal⟩ | ⟨a, g, _, _, ha, _, hhalts, _, hreached, _, _, hfinal⟩
    · refine ⟨⟨s, now, request, s.deviceSessionFor request, 0, 0⟩, .begun, ⟨rfl, rfl, rfl⟩, ?_, trivial,
        hfinal, ?_⟩
      · intro b hb
        rw [he] at hb
        cases hb
      · simp only [hr, reduceCtorEq, exists_false]
    · refine ⟨a, g, ?_, ?_, hreached.agrees, hfinal, hhalts.ok_iff⟩
      · obtain ⟨_, _, rfl⟩ := eq_of_attempt ha
        exact ⟨rfl, rfl, rfl⟩
      · intro b hb
        rw [ha] at hb
        exact Except.ok.inj hb
  obtain ⟨k, hk, hfirst, hlength⟩ := hagrees.exists_groups
  refine ⟨a, k, (a.written g).length, hservice, hattempt, hk, hfirst.length_le, ?_, ?_, ?_⟩
  · rw [hfinal, ← List.prefix_iff_eq_take.1 hfirst]
  · rw [hresult, hlength]
  · rw [hfinal]
    refine Store.extends_after hfresh fun w hw => ?_
    rw [← hk.method]
    exact Attempt.spares_groups k w (List.IsPrefix.subset hfirst hw)

/-! ### A trial -/

/-- The service with which payments are tried out. -/
def trialService : PaymentService where
  redirectUrl := "https://shop.example.com/payments/return"
  defaultDeviceSession := "test-device-session"
  provider := ⟨1, some 1, none, providerName, Provider.Account.productionRoot, false, true⟩
  account := ⟨"mtest0000000000000000", "sk_test_0000000000000000", false, .int 20⟩

/-- The time at which payments are tried out. -/
def trialTime : DateTime := .aware ⟨63000000000000000, by decide⟩ Offset.utc

/-- A desk with the provider alone at which a customer, a card and a charge are accepted. -/
def trialDesk (charge : Text) : Desk where
  store := { Store.empty with providers := ⟨[trialService.provider], 2⟩ }
  replies := [.answered 200 "\x7b\"id\": \"cus_1\"\x7d", .answered 201 "\x7b\"id\": \"tok_1\"\x7d",
    .answered 200 charge]

/-- A charge as it should be. -/
def trialCharge : Text := "\x7b\"id\": \"ch_1\", \"status\": \"completed\", \"amount\": 100\x7d"

/-- What comes of the trial payment when a charge is accepted with an answer. -/
def trialOutcome (charge : Text) : Except Failure PaymentResult × Desk :=
  (trialDesk charge).run (trialService.process trialTime Session.trialRequest)

/-- The calls of the trial payment when a charge is accepted with an answer. -/
def trialExchanges (charge : Text) : List Exchange :=
  (trialDesk charge).exchanges (trialService.process trialTime Session.trialRequest)

/-- The trial payment of a charge that is as it should be writes all groups. -/
theorem trial_writes_all :
    (trialDesk trialCharge).methodVanishes = false ∧ (trialDesk trialCharge).store.methods.IsFresh ∧
      ∃ (a : Attempt) (k : Attempt.Logged), a.request = Session.trialRequest ∧
        (trialOutcome trialCharge).2.store = (trialDesk trialCharge).store.after (a.groups k) := by
  have hfresh : (trialDesk trialCharge).store.methods.IsFresh := Table.isFresh_empty
  have hok : (trialOutcome trialCharge).1.isOk = true := by decide +kernel
  rw [trialOutcome] at hok ⊢
  obtain ⟨result, hresult⟩ := isOk_iff.1 hok
  obtain ⟨a, k, n, ⟨_, _, hrequest⟩, _, _, _, hstore, hall, _⟩ := process_writes_take trialService trialTime
    Session.trialRequest (trialDesk trialCharge) rfl hfresh
  rw [hall.2 ⟨result, hresult⟩, List.take_length] at hstore
  exact ⟨rfl, hfresh, a, k, hrequest, hstore⟩

end PaymentService

end CardPayments
