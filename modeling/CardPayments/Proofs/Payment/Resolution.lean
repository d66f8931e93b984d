import CardPayments.Proofs.Payment.Customer
import CardPayments.Proofs.Program.Parts

/-!
# Where a payment ends

A payment that ends when its method is written has failed to resolve its customer, and a payment that ends
anywhere else has not (`Attempt.steps_course`).  A payment never ends between the moment in which its
customer is known and the moment in which its method has its owner: the owner is always taken
(`Attempt.Halts.isSettled`).  This is what `PaymentService.process_settles` says of whole payments.
-/

namespace CardPayments

namespace PaymentService

/-- The entry with which a payment begins. -/
def firstEntry (request : PaymentRequest) : Journal.Entry :=
  Journal.info .payment
    ("Starting combined customer, card, and payment process for order " ++ request.orderId)

/-- A payment at a desk fails while its customer is resolved: its method was written, and the customer
could neither be found nor created. -/
def FailsResolving (s : PaymentService) (now : DateTime) (request : PaymentRequest) (d : Desk) : Prop :=
  ∃ a method d' e, s.attempt now request = .ok a ∧
    (d.note (firstEntry request)).run a.createMethod = (.ok method, d') ∧
    (d'.run (a.resolvePayer method)).1 = .error e

namespace Attempt

open Store Desk

variable {a : Attempt} {s t : Store} {g i : Stage} {ds : List Deed} {k : Known}

/-- A payment that knows its customer does not forget it. -/
theorem Steps.known? (h : a.Steps g ds i) (hg : g.known?.isSome = true) : i.known?.isSome = true := by
  induction h with
  | refl => exact hg
  | tail _ hstep ih =>
    cases hstep with
    | record token key => cases ih
    | _ => rfl

/-- The course of the steps of an attempt at a desk: it ends when the payment method is written exactly
when the customer could not be resolved. -/
theorem steps_course (a : Attempt) (d : Desk) :
    ∃ g before last, a.Steps .begun before g ∧ a.Halts g last (d.run a.steps).1 ∧
      d.deeds a.steps = before ++ last ∧
      ((∃ k, g = .recorded k) ↔ ∃ method d' e, d.run a.createMethod = (.ok method, d') ∧
        (d'.run (a.resolvePayer method)).1 = .error e) := by
  rw [steps]
  have hmethod := createMethod_cases (d.run_does a.createMethod)
  rcases hfirst : d.run a.createMethod with ⟨e | method, d'⟩
  · -- The payment method is not written.
    rw [hfirst] at hmethod
    rcases hmethod with ⟨_, ⟨⟩, hhalts⟩ | ⟨_, _, ⟨⟩, _⟩
    refine ⟨.begun, [], d.deeds a.createMethod, .refl _, ?_, ?_, ?_⟩
    · rw [run_bind_of_error hfirst]
      exact hhalts
    · rw [deeds_bind_of_error hfirst]
      rfl
    · refine iff_of_false ?_ ?_
      · rintro ⟨_, ⟨⟩⟩
      · rintro ⟨_, _, _, ⟨⟩, _⟩
  rw [hfirst] at hmethod
  rcases hmethod with ⟨_, ⟨⟩, _⟩ | ⟨token, _, ⟨⟩, hrecord⟩
  rw [run_bind_of_ok hfirst, deeds_bind_of_ok hfirst]
  have hpayer := resolvePayer_cases (k := ⟨token, method⟩) (d'.run_does (a.resolvePayer method))
  rcases hsecond : d'.run (a.resolvePayer method) with ⟨e | payer, d''⟩
  · -- The customer is not resolved.
    rw [hsecond] at hpayer
    rcases hpayer with ⟨_, ⟨⟩, hhalts⟩ | ⟨_, _, ⟨⟩, _⟩
    refine ⟨_, _, d'.deeds (a.resolvePayer method), .head hrecord (.refl _), ?_, ?_, ?_⟩
    · rw [run_bind_of_error hsecond]
      exact hhalts
    · rw [deeds_bind_of_error hsecond, List.append_nil]
    · exact iff_of_true ⟨_, rfl⟩ ⟨method, d', e, rfl, by rw [hsecond]⟩
  · -- The customer is known, and stays so.
    rw [hsecond] at hpayer
    rcases hpayer with ⟨_, ⟨⟩, _⟩ | ⟨reply, _, ⟨⟩, hresolve⟩
    rw [run_bind_of_ok hsecond, deeds_bind_of_ok hsecond]
    obtain ⟨g, before, last, hsteps, hhalts, hds⟩ :=
      ends_of_known (k := ⟨⟨token, method⟩, reply, payer⟩) (d''.run_does _)
    refine ⟨g, _, last, .head hrecord (.head hresolve hsteps), hhalts, ?_, ?_⟩
    · rw [hds]
      simp only [List.append_assoc]
    · refine iff_of_false ?_ ?_
      · rintro ⟨k, rfl⟩
        have hforgotten := hsteps.known? rfl
        cases hforgotten
      · rintro ⟨_, _, _, ⟨⟩, hfails⟩
        rw [hsecond] at hfails
        cases hfails

/-! ### The owner is always taken -/

/-- A payment does not end between knowing its customer and giving its method an owner. -/
def Stage.IsSettled (g : Stage) : Prop := ∀ k, g ≠ .known k

/-- The time of a payment whose method was written is an instant of the calendar. -/
theorem isOk_now {token : Text} (h : (a.methodWrite token).IsFit s) :
    (Offer.toUniversal a.now).isOk = true := by
  have hsound := h.1
  simp only [Write.AreSound, MethodDraft.fields, AuditDraft.fields, methodDraft, List.cons_append,
    List.nil_append, List.forall_mem_cons, Field.isSound_instant] at hsound
  exact hsound.2.1

theorem Stage.IsReached.isFit_methodWrite (h : (Stage.known k).IsReached a s) :
    (a.methodWrite k.token).IsFit s := by
  have htakes := h.takes
  rw [written, knownGroups] at htakes
  exact htakes.1

/-- The payment method is there when the customer is known. -/
theorem Stage.IsReached.has_method_known (h : (Stage.known k).IsReached a s) :
    (s.after (a.written (.known k))).methods.has k.method = true := by
  have hagrees : k.Agrees a s := h.agrees
  rw [methods_known, hagrees.method]
  exact Table.has_insert.2 (.inr rfl)

/-- The owner of the payment method is taken as long as its key is one that can be stored. -/
theorem Stage.IsReached.isFit_ownerWrite (h : (Stage.known k).IsReached a s)
    (hid : Offer.fits k.payer.id = true) :
    (a.ownerWrite k).IsFit (s.after (a.written (.known k))) := by
  intro _
  have hnow : (Offer.toUniversal a.now).isOk = true := isOk_now h.isFit_methodWrite
  simp only [Write.AreSound, ownerStamp, AuditDraft.fields, List.forall_mem_cons, keyOffer]
  simp [hid, hnow]

theorem Halts.isSettled {r : Except Failure PaymentResult} (h : a.Halts g ds r)
    (hg : g.IsReached a s) (ht : (s.after (a.written g)).Undergoes ds t)
    (hid : ∀ k, g.known? = some k → Offer.fits k.payer.id = true) : g.IsSettled := by
  rintro k rfl
  cases h with
  | ownerRefused e => exact ht.not_isFit (hg.isFit_ownerWrite (hid k rfl))
  | methodGone =>
    obtain ⟨_, hkey, _⟩ := undergoes_written.1 ht
    rw [ownerWrite, Write.key?, if_pos hg.has_method_known] at hkey
    cases hkey

end Attempt

variable {s : PaymentService} {now : DateTime} {request : PaymentRequest}

/-- **Where a payment ends**: as long as the keys of the customers can be stored, a payment at a desk where
nobody interferes fails before its first deed, or leaves behind what is written at a stage that is not the
one in which the customer is known and the method has no owner yet; and it ends when its method is written
exactly when its customer could not be resolved. -/
theorem process_settles (d : Desk) (hd : d.methodVanishes = false) (hkeyed : d.store.customers.IsKeyed)
    (hkeys : ∀ c ∈ (d.run (s.process now request)).2.store.customers.rows, Offer.fits c.id = true) :
    ((d.run (s.process now request)).2.store = d.store ∧ ¬s.FailsResolving now request d) ∨
      ∃ a g, s.attempt now request = .ok a ∧ g.IsReached a d.store ∧
        (d.run (s.process now request)).2.store = d.store.after (a.written g) ∧ g.IsSettled ∧
        (s.FailsResolving now request d ↔ ∃ k, g = .recorded k) := by
  let entry (e : Failure) : Journal.Entry :=
    Journal.error .payment ("Error in combined payment process for order " ++ request.orderId) e
  let first := d.note (firstEntry request)
  have hundergoes : d.store.Undergoes (d.deeds (s.process now request))
      (d.run (s.process now request)).2.store := d.run_undergoes _ hd
  have hrun : d.run (s.process now request) =
      first.run ((Program.ofExcept (s.attempt now request) >>= Attempt.steps).noting entry) := rfl
  have hdeeds : d.deeds (s.process now request) =
      first.deeds ((Program.ofExcept (s.attempt now request) >>= Attempt.steps).noting entry) := rfl
  obtain ⟨_, hstore⟩ :=
    first.store_run_noting entry (.ofExcept (s.attempt now request) >>= Attempt.steps)
  rw [hdeeds, Desk.deeds_noting] at hundergoes
  rw [hrun, hstore] at hundergoes hkeys ⊢
  cases hattempt : s.attempt now request with
  | error e =>
    refine .inl ⟨rfl, ?_⟩
    rintro ⟨_, _, _, _, ha, _⟩
    rw [hattempt] at ha
    cases ha
  | ok a =>
    have hfails : s.FailsResolving now request d ↔ ∃ method d' e,
        first.run a.createMethod = (.ok method, d') ∧ (d'.run (a.resolvePayer method)).1 = .error e := by
      constructor
      · rintro ⟨a', method, d', e, ha, h⟩
        rw [hattempt] at ha
        obtain rfl := Except.ok.inj ha
        exact ⟨method, d', e, h⟩
      · rintro ⟨method, d', e, h⟩
        exact ⟨a, method, d', e, hattempt, h⟩
    have hsteps : (Program.ofExcept (.ok a) >>= Attempt.steps) = a.steps := rfl
    rw [hattempt, hsteps] at hundergoes hkeys
    rw [hsteps]
    obtain ⟨g, before, last, hbefore, hhalts, hds, hrecorded⟩ := a.steps_course first
    rw [hds] at hundergoes
    obtain ⟨t, hpart, hlast⟩ := Store.undergoes_append.1 hundergoes
    obtain ⟨hreached, rfl⟩ := hbefore.undergoes hpart
    have hfinal : (first.run a.steps).2.store = d.store.after (a.written g) := hhalts.undergoes hlast
    refine .inr ⟨a, g, rfl, hreached, hfinal, hhalts.isSettled hreached hlast ?_, ?_⟩
    · -- The key of the payer is that of a row, and so one that can be stored.
      intro k hk
      obtain ⟨c, hc, _⟩ := (hreached.agrees.known hk).exists_row hkeyed hk
      rw [← hfinal] at hc
      rw [← Table.key_of_find? hc]
      exact hkeys c (List.mem_of_find?_eq_some hc)
    · rw [hfails, hrecorded]

end PaymentService

end CardPayments
