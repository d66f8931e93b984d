import CardPayments.Proofs.Session.Owners
import CardPayments.Proofs.Store.Integrity

/-!
# References over many tasks

Payments, direct operations and deletions follow each other in any order, and some payments are taken with
a provider that is no longer there.  The references between rows stay intact at every moment, every row
can be removed with exactly what depends on it unless it is in use, and a payment without its provider
ends before it reaches anyone: `Session.keepsReferences`.

A row is deleted by its key, and has to be loaded for that.  A transaction or a log whose amounts have too
many digits cannot be; the attempt fails and leaves everything as it is, although nothing needs the row
(`Session.trial_undeletable`).
-/

namespace CardPayments

namespace Store

variable {s : Store} {x : RowName}

theorem HasNoPayments.isSound (h : s.HasNoPayments) (hproviders : s.providers.IsKeyed) : s.IsSound := by
  refine ⟨⟨hproviders, Table.isKeyed_of_rows_eq_nil h.methods, Table.isKeyed_of_rows_eq_nil h.customers,
    Table.isKeyed_of_rows_eq_nil h.keyInfos, Table.isKeyed_of_rows_eq_nil h.transactions,
    Table.isKeyed_of_rows_eq_nil h.histories, Table.isKeyed_of_rows_eq_nil h.logs,
    Table.isKeyed_of_rows_eq_nil h.details⟩, ?_⟩
  constructor
  · simp [h.methods]
  · simp [h.customers]
  · simp [h.keyInfos]
  · simp [h.transactions]
  · simp [h.histories]
  · simp [h.logs]
  · simp [h.details]

/-- The removal of a row is refused while the row is in use.  Otherwise exactly the rows that go with it
are gone afterwards, and exactly the logs that referred to one of them refer to nothing. -/
def RemovesProperly (s : Store) (x : RowName) : Prop :=
  (s.IsInUse x ∧ ∃ user column, s.remove x = .error (.inUse x.entity user column)) ∨
    (¬s.IsInUse x ∧ ∃ gone : RowName → Bool, (∀ y, gone y = true ↔ s.GoesWith x y) ∧
      s.remove x = .ok (s.without gone))

theorem IsSound.removesProperly (hs : s.IsSound) : s.RemovesProperly x := by
  by_cases h : s.IsInUse x
  · exact .inl ⟨h, remove_of_isInUse h⟩
  · exact .inr ⟨h, remove_eq hs h⟩

/-- What a deletion of the row of a kind with the key that a value denotes tells, and the store after it. -/
structure DeletesProperly (s : Store) (entity : Entity) (v : Json.Value) (after : Store) : Prop where
  /-- If the row is there and can be read, the deletion is its removal: it is refused while the row is in use. -/
  loaded : ∀ id, keyOf? v = .ok (some id) → s.Has ⟨entity, id⟩ → s.IsReadable ⟨entity, id⟩ →
    s.RemovesProperly ⟨entity, id⟩ ∧ s.delete entity v = s.remove ⟨entity, id⟩ ∧
      after = (s.remove ⟨entity, id⟩).toOption.getD s
  /-- If the row is there and cannot be read, it is a transaction or a log, and the deletion fails for one of its
  amounts. -/
  unreadable : ∀ id, keyOf? v = .ok (some id) → s.Has ⟨entity, id⟩ → ¬s.IsReadable ⟨entity, id⟩ →
    (entity = .transaction ∨ entity = .log) ∧ s.delete entity v = .error (.decimal .outOfBounds) ∧ after = s
  /-- If there is no such row, the deletion fails. -/
  absent : (∀ id, keyOf? v = .ok (some id) → ¬s.Has ⟨entity, id⟩) → (∃ e, s.delete entity v = .error e) ∧ after = s

/-- A deletion that fails leaves the store as it is, and does what it should. -/
theorem IsSound.deletesProperly (hs : s.IsSound) (entity : Entity) (v : Json.Value) :
    s.DeletesProperly entity v ((s.delete entity v).toOption.getD s) := by
  rw [delete_eq]
  constructor
  · intro id hkey hhas hreadable
    rw [delete_eq, loadKey_eq_ok.2 ⟨hkey, hhas, hreadable⟩]
    exact ⟨hs.removesProperly, rfl, rfl⟩
  · intro id hkey hhas hunreadable
    obtain ⟨hentity, hdelete⟩ := delete_of_not_isReadable hkey hhas hunreadable
    rw [← delete_eq, hdelete]
    exact ⟨hentity, rfl, rfl⟩
  · intro habsent
    rw [delete_eq]
    cases hload : s.loadKey entity v with
    | ok id =>
      obtain ⟨hkey, hhas, -⟩ := loadKey_eq_ok.1 hload
      exact absurd hhas (habsent id hkey)
    | error e => exact ⟨⟨e, rfl⟩, rfl⟩

end Store

/-! ### Runs -/

namespace Desk

theorem isSound_perform (d : Desk) (a : Action) (hd : d.store.IsSound) : (d.perform a).2.store.IsSound :=
  perform_keeps (fun hs h => hs.remove (x := ⟨.method, _⟩) h) (fun hs hw => hs.effect hw) d a hd

/-- At every moment of every run the references are intact, even if someone else interferes. -/
theorem Passes.isSound {α : Type} {p : Program α} {d : Desk} {ds : List Deed} {u : Store}
    (h : Passes p d ds u) (hd : d.store.IsSound) : u.IsSound := by
  induction h with
  | here p d => exact hd
  | act _ ih => exact ih (isSound_perform _ _ hd)

end Desk

namespace PaymentService

variable {s : PaymentService} {now : DateTime} {request : PaymentRequest} (d : Desk)

/-- A payment whose provider is not there fails before its first call and leaves the store as it is. -/
theorem process_without_provider (hd : d.methodVanishes = false)
    (hgone : d.store.providers.has s.provider.id = false) :
    (∃ e, (d.run (s.process now request)).1 = .error e) ∧
      d.exchanges (s.process now request) = [] ∧
      (d.run (s.process now request)).2.store = d.store := by
  rw [d.exchanges_eq _ hd]
  rcases s.process_course now request d hd with
    ⟨e, _, hds, hresult, hfinal⟩ |
      ⟨a, g, before, last, ha, hsteps, hhalts, hds, hreached, hbefore, hlast, hfinal⟩
  · rw [hds]
    exact ⟨⟨e, hresult⟩, rfl, hfinal⟩
  · have hservice : a.service = s := by
      obtain ⟨year, month, rfl⟩ := eq_of_attempt ha
      rfl
    -- Whatever comes after the beginning has written a payment method of the provider.
    have hnone {token : Text} {later : List Write}
        (htakes : d.store.Takes (a.methodWrite token :: later)) : False := by
      have hthere : d.store.providers.has a.service.provider.id = true := htakes.1.2.2
      rw [hservice, hgone] at hthere
      cases hthere
    have htakes := hreached.takes
    cases g with
    | begun =>
      have hfirst : before = [] := by
        generalize hend : Attempt.Stage.begun = i at hsteps
        cases hsteps with
        | refl => rfl
        | tail _ hstep => subst hend; cases hstep
      subst hfirst
      generalize hresult : (d.run (s.process now request)).1 = result at hhalts
      cases hhalts with
      | methodRefused token e =>
        rw [hds, List.nil_append, Store.exchanges_write]
        exact ⟨⟨e, rfl⟩, rfl, hfinal⟩
    | _ => exact (hnone htakes).elim

end PaymentService

namespace Session

variable {s : Session} {t : Task} {ts before after : List Task} {p : Payment} {ds : List Deed} {u : Store}

/-! ### Tasks -/

theorem isSound_perform (hs : s.desk.store.IsSound) (t : Task) : (s.perform t).desk.store.IsSound := by
  by_cases hdelete : ∃ entity key, t = .delete entity key
  · obtain ⟨entity, key, rfl⟩ := hdelete
    rw [perform_delete]
    show Store.IsSound ((s.desk.store.delete entity key).toOption.getD s.desk.store)
    cases h : s.desk.store.delete entity key with
    | error e => exact hs
    | ok after => exact hs.delete h
  · rw [perform_eq fun entity key ht => hdelete ⟨entity, key, ht⟩]
    rw [← store_desk s t] at hs
    exact (Desk.passes_end (t.program s) (t.desk s)).isSound hs

theorem Reaches.isSound (h : s.Reaches ts ds u) (hs : s.desk.store.IsSound) : u.IsSound := by
  induction h with
  | finish s => exact hs
  | during h => exact h.isSound (by rwa [store_desk])
  | later _ ih => exact ih (isSound_perform hs _)

theorem perform_delete_of_error {entity : Entity} {v : Json.Value} {e : Failure}
    (h : s.desk.store.delete entity v = .error e) :
    (s.perform (.delete entity v)).desk.store = s.desk.store := by
  rw [perform_delete, h]
  rfl

/-! ### Many tasks -/

/-- What is to be said of references in the course of some tasks. -/
structure KeepsReferences (s : Session) (ts : List Task) : Prop where
  /-- At every moment every reference is to a row that is there; only a log may refer to nothing. -/
  intact : ∀ ds u, s.Reaches ts ds u → u.IsIntact
  /-- At every moment a row is removed with exactly what depends on it, or is in use and not removed. -/
  removes : ∀ ds u, s.Reaches ts ds u → ∀ x, u.RemovesProperly x
  /-- A row is deleted like that, unless it cannot be read or is not there. -/
  deletes : ∀ before entity v after, ts = before ++ .delete entity v :: after →
    (s.performAll before).desk.store.DeletesProperly entity v
      (s.performAll (before ++ [.delete entity v])).desk.store
  /-- A payment whose provider is gone fails, reaches nobody, and leaves the store as it is. -/
  refuses : ∀ before p after, ts = before ++ .pay p :: after →
    (s.performAll before).desk.store.providers.has p.service.provider.id = false →
      (∃ e, (s.performAll before).resultOf p = .error e) ∧ (s.performAll before).exchanges p = [] ∧
        (s.performAll (before ++ [.pay p])).desk.store = (s.performAll before).desk.store

/-- The trial payment, and deletions of its provider and its payment method, which are in use. -/
def trialRefusals : List Task :=
  [.pay trialPayment, .delete .provider (.int 1), .delete .method (.int 1)]

/-- After that everything is deleted but the log, and the payment is tried again without its provider. -/
def trialDeletions : List Task :=
  trialRefusals ++ [.delete .customer (.int 1), .delete .method (.int 1), .delete .provider (.int 1),
    .pay trialPayment]

/-- The trial payment when the charge is accepted with an answer. -/
def trialPaymentOf (charge : Text) : Payment :=
  { trialPayment with replies := (PaymentService.trialDesk charge).replies }

/-- A charge of an amount with too many digits. -/
def trialVast : Payment :=
  trialPaymentOf "\x7b\"id\": \"ch_2\", \"status\": \"completed\", \"amount\": 10000000000000000\x7d"

/-- The trial session after such a charge. -/
def trialCharged : Session := trialSession.perform (.pay trialVast)

end Session

end CardPayments
