import CardPayments.Proofs.Payment.Moments
import CardPayments.Proofs.Payment.Rows

/-!
# Payments in progress

When other payments are taken at the same time, nothing about the store can be said from what one payment
does.  What the payment knows, however, is owed to the deeds that it has done (`Stage.IsAttested`): its
payment method and its customer got their keys from the answers, and every group of rows that it wrote is one
of the stage that it has reached.  Whatever the answers were, and however few of its deeds a payment has done,
they attest a stage (`PaymentService.exists_attested`).
-/

namespace CardPayments

/-- A deed is no look for a customer of another name or address. -/
def Deed.Seeks (name email : Text) : Deed → Prop
  | .lookup name' email' _ => name' = name ∧ email' = email
  | _ => True

namespace PaymentService

namespace Attempt

/-! ### What a stage knows of what was written -/

/-- What is known when the payment method is written, if the payment has come so far. -/
def Stage.recorded? : Stage → Option Recorded
  | .begun => none
  | .recorded k => some k
  | .known k => some k.toRecorded
  | .owned k => some k.toRecorded
  | .tokenized k => some k.toRecorded
  | .logged k => some k.toRecorded
  | .charged k => some k.toRecorded

variable {a : Attempt} {g i : Stage} {ds past : List Deed}

theorem recorded?_of_known? {k : Known} (h : g.known? = some k) : g.recorded? = some k.toRecorded := by
  cases g <;> cases h <;> rfl

variable (a) in
/-- What a stage knows of a group of rows that was written under a key on the way to it. -/
def Stage.Accounts (g : Stage) : Write → Nat → Prop
  | .method d, key => ∃ k, g.recorded? = some k ∧ key = k.method ∧ d = a.methodDraft k.token
  | .customer d _, key => ∃ k, g.known? = some k ∧ key = k.payer.id ∧
      d = a.customerDraft k.method k.payer.customer ∧ k.isNew = true
  | .owner method who _, _ => ∃ k, g.owned? = some k ∧ method = k.method ∧ who = keyOffer k.payer.id
  | .transaction d _ _, _ => ∃ k, g.tokenized? = some k ∧ d.customer = keyOffer k.payer.id ∧
      d.audit.createdBy = keyOffer k.payer.id
  | .log d _ _ _, _ => ∃ k, g.logged? = some k ∧ d.method = keyOffer k.method ∧
      d.audit.createdBy = keyOffer k.payer.id

/-- A step forgets nothing. -/
theorem Step.accounts_of_accounts (hstep : a.Step g ds i) {w : Write} {key : Nat}
    (h : g.Accounts a w key) : i.Accounts a w key := by
  cases w <;> obtain ⟨k, hk, hrest⟩ := h <;> refine ⟨k, ?_, hrest⟩ <;>
    cases hstep <;> first | exact hk | cases hk

/-- A step knows of what it writes. -/
theorem Step.accounts (hstep : a.Step g ds i) {w : Write} {key : Nat}
    (hd : .write w (.ok (some key)) ∈ ds) : i.Accounts a w key := by
  cases hstep <;>
    simp only [List.mem_cons, List.not_mem_nil, or_false, reduceCtorEq, false_or, Deed.write.injEq,
      Except.ok.injEq] at hd
  case record token key' =>
    obtain ⟨rfl, rfl⟩ := hd
    exact ⟨_, rfl, rfl, rfl⟩
  case create k reply created key' hreply =>
    obtain ⟨rfl, rfl⟩ := hd
    exact ⟨_, rfl, rfl, rfl, rfl⟩
  case own k key' =>
    obtain ⟨rfl, _⟩ := hd
    exact ⟨_, rfl, rfl, rfl⟩
  case tokenize k reply card key' hreply =>
    obtain ⟨rfl, _⟩ := hd
    exact ⟨_, rfl, rfl, rfl⟩
  case log k reply charge status key' hreply hstatus =>
    obtain ⟨rfl, _⟩ := hd
    exact ⟨_, rfl, rfl, rfl⟩
  case charge k key' =>
    obtain ⟨rfl, _⟩ := hd
    exact ⟨_, rfl, rfl, rfl⟩

theorem Steps.accounts (hsteps : a.Steps .begun ds g) {w : Write} {key : Nat}
    (hd : .write w (.ok (some key)) ∈ ds) : g.Accounts a w key := by
  induction hsteps with
  | refl => cases hd
  | tail _ hstep ih =>
    rcases List.mem_append.1 hd with hd | hd
    · exact hstep.accounts_of_accounts (ih hd)
    · exact hstep.accounts hd

/-! ### What bears out a stage -/

variable (a ds g) in
/-- Deeds bear out what a stage knows. -/
structure Stage.IsAttested : Prop where
  /-- The payment method was written. -/
  recorded : ∀ {k}, g.recorded? = some k →
    ∃ key, .write (a.methodWrite k.token) (.ok key) ∈ ds ∧ k.method = key.getD 0
  /-- The customer was found, or nobody was found and it was written. -/
  known : ∀ {k}, g.known? = some k →
    (∃ row, .lookup a.request.name a.request.email (.ok (some row)) ∈ ds ∧ k.payer.id = row.id ∧
      k.isNew = false) ∨
    (.lookup a.request.name a.request.email (.ok none) ∈ ds ∧
      ∃ key, .write (a.customerWrite k.method k.payer.customer) (.ok key) ∈ ds ∧
        k.payer.id = key.getD 0)
  /-- The payment method got its owner. -/
  owned : ∀ {k}, g.owned? = some k → ∃ key, .write (a.ownerWrite k) (.ok (some key)) ∈ ds

/-- What is done further takes nothing back. -/
theorem Stage.IsAttested.mono (hg : g.IsAttested a past) (hds : past ⊆ ds) : g.IsAttested a ds where
  recorded hk := (hg.recorded hk).imp fun _ h => ⟨hds h.1, h.2⟩
  known hk := (hg.known hk).imp (fun ⟨row, hd, hrest⟩ => ⟨row, hds hd, hrest⟩)
    fun ⟨hd, key, hd', hid⟩ => ⟨hds hd, key, hds hd', hid⟩
  owned hk := (hg.owned hk).imp fun _ h => hds h

/-- The deeds of a step bear out what it finds out. -/
theorem Step.isAttested (hstep : a.Step g ds i) (hg : g.IsAttested a past) :
    i.IsAttested a (past ++ ds) := by
  have hpast : g.IsAttested a (past ++ ds) := hg.mono (List.subset_append_left past ds)
  have hnew {d : Deed} (hd : d ∈ ds) : d ∈ past ++ ds := List.mem_append_right past hd
  cases hstep with
  | record token key =>
    refine ⟨?_, nofun, nofun⟩
    rintro _ ⟨⟩
    exact ⟨key, hnew (List.mem_singleton_self _), rfl⟩
  | reuse row =>
    refine ⟨hpast.recorded, ?_, nofun⟩
    rintro _ ⟨⟩
    exact .inl ⟨row, hnew (List.mem_singleton_self _), rfl, rfl⟩
  | create reply key hreply =>
    refine ⟨hpast.recorded, ?_, nofun⟩
    rintro _ ⟨⟩
    refine .inr ⟨hnew List.mem_cons_self, key, hnew ?_, rfl⟩
    exact List.mem_cons_of_mem _ (List.mem_cons_of_mem _ (List.mem_singleton_self _))
  | own key =>
    refine ⟨hpast.recorded, hpast.known, ?_⟩
    rintro _ ⟨⟩
    exact ⟨key, hnew (List.mem_singleton_self _)⟩
  | tokenize reply key hreply => exact ⟨hpast.recorded, hpast.known, hpast.owned⟩
  | log reply key hreply hstatus => exact ⟨hpast.recorded, hpast.known, hpast.owned⟩
  | charge key => exact ⟨hpast.recorded, hpast.known, hpast.owned⟩

theorem Steps.isAttested (hsteps : a.Steps .begun ds g) : g.IsAttested a ds := by
  induction hsteps with
  | refl => exact ⟨nofun, nofun, nofun⟩
  | tail _ hstep ih => exact hstep.isAttested ih

/-! ### Looks for customers -/

/-- A step looks for customers of the payment's name and address only. -/
theorem Step.seeks (hstep : a.Step g ds i) : ∀ d ∈ ds, d.Seeks a.request.name a.request.email := by
  cases hstep <;> simp [Deed.Seeks]

theorem Halts.seeks {r : Except Failure PaymentResult} (h : a.Halts g ds r) :
    ∀ d ∈ ds, d.Seeks a.request.name a.request.email := by
  cases h <;> simp [Deed.Seeks]

theorem Steps.seeks (hsteps : a.Steps g ds i) : ∀ d ∈ ds, d.Seeks a.request.name a.request.email := by
  induction hsteps with
  | refl => exact List.forall_mem_nil _
  | tail _ hstep ih => exact List.forall_mem_append.2 ⟨ih, hstep.seeks⟩

/-! ### The first few deeds -/

variable (a ds g) in
/-- A payment that has done some deeds is at a stage, or on the way from there to the next one: it has taken
the steps to the stage, and what else it has done wrote nothing. -/
structure Stage.IsLast : Prop where
  steps : ∃ done idle, a.Steps .begun done g ∧ ds = done ++ idle ∧ ∀ d ∈ idle, d.IsIdle
  seeks : ∀ d ∈ ds, d.Seeks a.request.name a.request.email

theorem Stage.IsLast.isAttested (h : g.IsLast a ds) : g.IsAttested a ds := by
  obtain ⟨done, idle, hsteps, rfl, _⟩ := h.steps
  exact hsteps.isAttested.mono (List.subset_append_left done idle)

theorem Stage.IsLast.accounts (h : g.IsLast a ds) {w : Write} {key : Nat}
    (hd : .write w (.ok (some key)) ∈ ds) : g.Accounts a w key := by
  obtain ⟨done, idle, hsteps, rfl, hidle⟩ := h.steps
  rcases List.mem_append.1 hd with hd | hd
  · exact hsteps.accounts hd
  · exact (hidle _ hd).elim

/-- The first few deeds of some steps are those until a stage on the way. -/
theorem Steps.exists_isLast (hsteps : a.Steps .begun ds g) {first : List Deed} (hfirst : first <+: ds) :
    ∃ j : Stage, j.IsLast a first := by
  have hseeks : ∀ d ∈ first, d.Seeks a.request.name a.request.email := fun d hd =>
    hsteps.seeks d (hfirst.subset hd)
  induction hsteps with
  | refl =>
    obtain rfl := List.prefix_nil.1 hfirst
    exact ⟨.begun, ⟨[], [], .refl _, rfl, List.forall_mem_nil _⟩, hseeks⟩
  | @tail g i before ds hsteps hstep ih =>
    rcases prefix_append_cases hfirst with hfirst | ⟨more, rfl, hmore⟩
    · exact ih hfirst
    · obtain ⟨idle, d, rfl, hidle⟩ := hstep.exists_idle
      rcases List.prefix_concat_iff.1 hmore with rfl | hmore
      · exact ⟨i, ⟨_, [], .tail hsteps hstep, (List.append_nil _).symm, List.forall_mem_nil _⟩, hseeks⟩
      · exact ⟨g, ⟨before, more, hsteps, rfl, fun e he => hidle e (hmore.subset he)⟩, hseeks⟩

end Attempt

open Attempt

/-- However few of its deeds a payment has done, and whatever the answers were, there is a stage at which it
is. -/
theorem exists_isLast {s : PaymentService} {now : DateTime} {request : PaymentRequest}
    {ds more : List Deed} {r : Except Failure PaymentResult}
    (h : (s.process now request).Does (ds ++ more) r) :
    ∃ (a : Attempt) (g : Stage), (a.service = s ∧ a.now = now ∧ a.request = request) ∧ g.IsLast a ds := by
  rcases process_does h with ⟨_, _, hnil, _⟩ | ⟨a, ha, g, before, after, hsteps, hhalts, hds⟩
  · obtain ⟨rfl, _⟩ := List.append_eq_nil_iff.1 hnil
    exact ⟨⟨s, now, request, s.deviceSessionFor request, 0, 0⟩, .begun, ⟨rfl, rfl, rfl⟩,
      ⟨[], [], .refl _, rfl, List.forall_mem_nil _⟩, List.forall_mem_nil _⟩
  · obtain ⟨_, _, rfl⟩ := eq_of_attempt ha
    have hfirst : ds <+: before ++ after := ⟨more, hds⟩
    rcases prefix_append_cases hfirst with hfirst | ⟨last, rfl, hlast⟩
    · obtain ⟨j, hj⟩ := hsteps.exists_isLast hfirst
      exact ⟨_, j, ⟨rfl, rfl, rfl⟩, hj⟩
    · refine ⟨_, g, ⟨rfl, rfl, rfl⟩, ⟨before, last, hsteps, rfl, fun d hd => hhalts.isIdle d (hlast.subset hd)⟩,
        List.forall_mem_append.2 ⟨hsteps.seeks, fun d hd => hhalts.seeks d (hlast.subset hd)⟩⟩

end PaymentService

end CardPayments
