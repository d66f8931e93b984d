import CardPayments.Proofs.Payment.Groups
import CardPayments.Proofs.Program.Moments

/-!
# Sessions as lists of tasks

A task is one thing that is done in a session: a payment, one of the direct operations on rows, or that
time passes.  `Session.perform` does it, with the session's own operations.  Every task but a deletion is
a program that runs at the desk (`Session.perform_eq`), so that it is known through which stores it passes;
`Session.Reaches` puts the moments of several tasks together, and `Session.Reaches.induct` is the induction
over them.
-/

namespace CardPayments

open Json

/-- A payment that is taken in a session, with what is laid out for it. -/
structure Payment where
  service : PaymentService
  request : PaymentRequest
  /-- The replies that wait for its calls. -/
  replies : List Provider.Reply
  /-- The tokens that wait for its payment method. -/
  tokens : List Text

namespace Session

/-! ### Tasks -/

/-- One thing that is done in a session. -/
inductive Task where
  /-- A payment is taken. -/
  | pay (p : Payment)
  /-- A payment method is written. -/
  | createMethod (provider : Value) (token : Offer)
  /-- Someone becomes the owner of a payment method. -/
  | updateOwner (method : Value) (owner : Offer)
  /-- A billing customer is written. -/
  | createCustomer (draft : CustomerDraft) (method : Value)
  /-- A card transaction is written. -/
  | addTransaction (draft : TransactionDraft) (notes : Value)
  /-- The log of a charge is written. -/
  | addLog (draft : LogDraft) (request answer : Value)
  /-- A row is deleted. -/
  | delete (entity : Entity) (key : Value)
  /-- The clock shows another time. -/
  | passTime (now : LocalTime)

namespace Task

/-- The operation of a task. -/
def op : Task → Op Unit
  | pay p => do
    layOut p.replies p.tokens false
    let _ ← Session.pay (pure p.service) p.request
  | createMethod provider token => do
    let _ ← Session.createMethod provider token
  | updateOwner method owner => do
    let _ ← Session.updateOwner method owner
  | createCustomer draft method => do
    let _ ← Session.createCustomer draft method
  | addTransaction draft notes => do
    let _ ← Session.addTransaction draft notes
  | addLog draft request answer => do
    let _ ← Session.addLog draft request answer
  | delete entity key => do
    let _ ← Session.delete entity key
  | passTime now => modify fun s => { s with now := .aware now Offset.utc }

/-- The program that a task runs.  A deletion runs none, and so does the clock. -/
def program (s : Session) : Task → Program Unit
  | pay p => (p.service.process s.now p.request).forget
  | createMethod provider token => Program.forget do
    let row ← .ofExcept (Store.getRow .provider s.desk.store.providers provider)
    .insert (.method
      { audit := { createdDate := s.now }, provider := PaymentService.keyOffer row.id, token := token })
  | updateOwner method owner => Program.forget do
    match ← .ofExcept (Store.keyOf? method) with
    | none => return none
    | some key => .commit (.owner key owner s.now)
  | createCustomer draft method => Program.forget do
    let row ← .ofExcept (Store.getRow .method s.desk.store.methods method)
    .insert (.customer
      { draft with audit := { createdDate := s.now }, method := PaymentService.keyOffer row.id } s.now)
  | addTransaction draft notes => (Program.insert (.transaction draft notes s.now)).forget
  | addLog draft request answer => (Program.insert (.log draft request answer s.now)).forget
  | delete _ _ => .done ()
  | passTime _ => .done ()

/-- The desk at which a task runs. -/
def desk (s : Session) : Task → Desk
  | pay p => { s.cleared.desk with replies := p.replies, tokens := p.tokens }
  | _ => s.cleared.desk

/-- The time that a session shows after a task. -/
def clock (s : Session) : Task → DateTime
  | passTime now => .aware now Offset.utc
  | _ => s.now

/-- The deeds of a task. -/
def deeds (s : Session) (t : Task) : List Deed := (t.desk s).deeds (t.program s)

end Task

/-- The session after a task. -/
def perform (s : Session) (t : Task) : Session := (t.op.run.run s.cleared).2

/-- The session after several tasks, one after the other. -/
def performAll (s : Session) (ts : List Task) : Session := ts.foldl perform s

/-! ### Running a task -/

variable {α β : Type} {s : Session} {t : Task}

theorem run_bind (x : Op α) (f : α → Op β) (s : Session) :
    (x >>= f).run.run s =
      match x.run.run s with
      | (.ok a, t) => (f a).run.run t
      | (.error e, t) => (.error e, t) := by
  show (ExceptT.bindCont f (x.run.run s).1).run (x.run.run s).2 = _
  rcases x.run.run s with ⟨_ | _, t⟩ <;> rfl

/-- What only reads after an operation leaves the session that the operation leaves. -/
theorem run_bind_read (x : Op α) {f : α → Op β} (hf : ∀ a t, ((f a).run.run t).2 = t) (s : Session) :
    ((x >>= f).run.run s).2 = (x.run.run s).2 := by
  rw [run_bind]
  rcases x.run.run s with ⟨e | a, t⟩
  · rfl
  · exact hf a t

/-- An operation leaves the same session when its result is thrown away. -/
theorem run_discard (x : Op α) (s : Session) :
    ((do let _ ← x : Op Unit).run.run s).2 = (x.run.run s).2 := run_bind_read x (fun _ _ => rfl) s

theorem run_lift (x : Except Failure α) (s : Session) : (lift x).run.run s = (x, s) := by
  cases x <;> rfl

theorem run_run (p : Program α) (s : Session) :
    (run p).run.run s = ((s.desk.run p).1, { s with desk := (s.desk.run p).2 }) :=
  run_lift (s.desk.run p).1 { s with desk := (s.desk.run p).2 }

/-- What is found out before a program may as well be found out by it. -/
theorem run_ofExcept_bind (x : Except Failure α) (f : α → Program β) :
    run (.ofExcept x >>= f) = lift x >>= fun a => run (f a) := by
  funext s
  cases x <;> rfl

theorem run_get_bind (f : Session → Op α) (s : Session) :
    (get >>= f).run.run s = (f s).run.run s := rfl

/-- A question to the store is answered by the store that the session has. -/
theorem run_ask_bind (f : Store → Except Failure α) (g : α → Op β) (s : Session) :
    (ask f >>= g).run.run s = (lift (f s.desk.store) >>= g).run.run s := by
  have hask : (ask f).run.run s = (f s.desk.store, s) := run_lift (f s.desk.store) s
  rw [run_bind, run_bind, run_lift, hask]

/-- A task but a deletion leaves the desk that its program leaves. -/
theorem perform_eq (h : ∀ entity key, t ≠ .delete entity key) :
    s.perform t = { s with now := t.clock s, desk := ((t.desk s).run (t.program s)).2 } := by
  cases t with
  | pay p =>
    refine (run_discard (run (p.service.process s.now p.request))
      { s with desk := (Task.pay p).desk s }).trans ?_
    rw [run_run, Task.program, (Desk.run_forget _ _).1]
    rfl
  | createMethod provider token =>
    refine (run_discard (createMethod provider token) s.cleared).trans ?_
    rw [createMethod, run_get_bind, run_ask_bind, ← run_ofExcept_bind, run_run, Task.program,
      (Desk.run_forget _ _).1]
    rfl
  | updateOwner method owner =>
    refine (run_discard (updateOwner method owner) s.cleared).trans ?_
    have hread : ((updateOwner method owner).run.run s.cleared).2 = ((run (do
        match ← .ofExcept (Store.keyOf? method) with
        | none => return none
        | some key => .commit (.owner key owner s.cleared.now))).run.run s.cleared).2 := by
      rw [updateOwner, run_get_bind, run_ofExcept_bind, run_bind, run_bind, run_lift]
      cases Store.keyOf? method with
      | error e => rfl
      | ok key =>
        cases key with
        | none => rfl
        | some key =>
          -- The row that got its owner is only read after that.
          refine run_bind_read _ (fun found t => ?_) s.cleared
          cases found <;> rfl
    rw [hread, run_run, Task.program, (Desk.run_forget _ _).1]
    rfl
  | createCustomer draft method =>
    refine (run_discard (createCustomer draft method) s.cleared).trans ?_
    rw [createCustomer, run_get_bind, run_ask_bind, ← run_ofExcept_bind, run_run, Task.program,
      (Desk.run_forget _ _).1]
    rfl
  | addTransaction draft notes =>
    refine (run_discard (addTransaction draft notes) s.cleared).trans ?_
    rw [addTransaction, run_get_bind, run_run, Task.program, (Desk.run_forget _ _).1]
    rfl
  | addLog draft request answer =>
    refine (run_discard (addLog draft request answer) s.cleared).trans ?_
    rw [addLog, run_get_bind, run_run, Task.program, (Desk.run_forget _ _).1]
    rfl
  | delete entity key => exact absurd rfl (h entity key)
  | passTime now => rfl

/-- A deletion leaves the store without the rows, or as it was if the deletion fails. -/
theorem perform_delete {entity : Entity} {key : Value} :
    s.perform (.delete entity key) = { s with desk := { s.cleared.desk with
      store := (s.desk.store.delete entity key).toOption.getD s.desk.store } } := by
  refine (run_discard (delete entity key) s.cleared).trans ?_
  rw [Session.delete, change, run_get_bind, run_bind, run_lift]
  show _ = { s with desk := { s.cleared.desk with
    store := (s.cleared.desk.store.delete entity key).toOption.getD s.cleared.desk.store } }
  cases s.cleared.desk.store.delete entity key <;> rfl

theorem now_perform : (s.perform t).now = t.clock s := by
  by_cases h : ∃ entity key, t = .delete entity key
  · obtain ⟨entity, key, rfl⟩ := h
    rw [perform_delete]
    rfl
  · rw [perform_eq fun entity key ht => h ⟨entity, key, ht⟩]

/-! ### What the store undergoes -/

variable {ds : List Deed} {u : Store}

theorem store_desk (s : Session) (t : Task) : (t.desk s).store = s.desk.store := by
  cases t <;> rfl

/-- Nobody interferes with a task. -/
theorem methodVanishes_desk (s : Session) (t : Task) : (t.desk s).methodVanishes = false := by
  cases t <;> rfl

/-- The store undergoes the deeds of a task but a deletion. -/
theorem perform_undergoes (h : ∀ entity key, t ≠ .delete entity key) :
    s.desk.store.Undergoes (t.deeds s) (s.perform t).desk.store := by
  rw [perform_eq h, ← store_desk s t]
  exact Desk.run_undergoes _ _ (methodVanishes_desk s t)

/-- At a moment of a task the store underwent the deeds until then. -/
theorem undergoes_of_passes (h : Desk.Passes (t.program s) (t.desk s) ds u) :
    s.desk.store.Undergoes ds u := by
  rw [← store_desk s t]
  exact h.undergoes (methodVanishes_desk s t)

/-! ### The moments of several tasks -/

/-- In the course of some tasks, one after the other, there is a moment at which these deeds are done and
this is the store. -/
inductive Reaches : Session → List Task → List Deed → Store → Prop where
  /-- After the last task. -/
  | finish (s : Session) : Reaches s [] [] s.desk.store
  /-- In the course of the next task. -/
  | during {s : Session} {t : Task} {ts : List Task} {ds : List Deed} {u : Store} :
      Desk.Passes (t.program s) (t.desk s) ds u → Reaches s (t :: ts) ds u
  /-- After the next task. -/
  | later {s : Session} {t : Task} {ts : List Task} {ds : List Deed} {u : Store} :
      Reaches (s.perform t) ts ds u → Reaches s (t :: ts) (t.deeds s ++ ds) u

variable {ts : List Task}

/-- The deeds of some tasks, one after the other. -/
def deedsAll (s : Session) : List Task → List Deed
  | [] => []
  | t :: ts => t.deeds s ++ deedsAll (s.perform t) ts

/-- The tasks end with a moment at which all of their deeds are done. -/
theorem reaches_end (s : Session) (ts : List Task) :
    s.Reaches ts (s.deedsAll ts) (s.performAll ts).desk.store := by
  induction ts generalizing s with
  | nil => exact .finish s
  | cons t ts ih => exact .later (ih (s.perform t))

/-- What is so of a session and what was done before it stays so if every task keeps it, and then all that
follows from it in the course of a task is so at every moment. -/
theorem Reaches.induct {Allowed : Task → Prop} {I : Session → List Deed → Prop}
    {P : List Deed → Store → Prop} (hend : ∀ s past, I s past → P past s.desk.store)
    (hduring : ∀ s past t ds u, Allowed t → I s past → Desk.Passes (t.program s) (t.desk s) ds u →
      P (past ++ ds) u)
    (hperform : ∀ s past t, Allowed t → I s past → I (s.perform t) (past ++ t.deeds s))
    (hts : ∀ t ∈ ts, Allowed t) (past : List Deed) (hs : I s past) (h : s.Reaches ts ds u) :
    P (past ++ ds) u := by
  induction h generalizing past with
  | finish s =>
    rw [List.append_nil]
    exact hend s past hs
  | during h => exact hduring _ past _ _ _ (hts _ List.mem_cons_self) hs h
  | later h ih =>
    rw [List.forall_mem_cons] at hts
    rw [← List.append_assoc]
    exact ih hts.2 _ (hperform _ past _ hts.1 hs)

/-! ### A trial -/

/-- The session in which payments are tried out: nothing is stored but the provider. -/
def trialSession : Session where
  desk := PaymentService.trialDesk PaymentService.trialCharge
  now := PaymentService.trialTime

/-- The payment that is tried out. -/
def trialPayment : Payment where
  service := PaymentService.trialService
  request := trialRequest
  replies := (PaymentService.trialDesk PaymentService.trialCharge).replies
  tokens := []

end Session

end CardPayments
