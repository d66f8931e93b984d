import CardPayments.Proofs.Payment.Rows
import CardPayments.Proofs.Session.Task
import CardPayments.Proofs.Store.Mirror
import CardPayments.Proofs.Time.Zone

/-!
# One row for every row

Transactions have their history, logs their details, and customers the instant of their creation.  These
three pairs of tables mirror each other at every moment of every session (`Session.reaches_isMirrored`):
each group of rows that is written adds to both tables of a pair (`Store.IsMirrored.effect`), and each
deletion takes from both (`Store.IsMirrored.delete`), as long as the rows that belong to others are not
deleted by themselves.

What is noted about a transaction is not a part of its row.  The deeds of a session are what tells which
notes were given for it.
-/

namespace CardPayments

open Json

/-! ### Mirrored tables -/

/-- A deed wrote the transaction with a key, for which these notes were given. -/
def Deed.Notes (key : Nat) (notes : Value) : Deed → Prop
  | .write (.transaction _ given _) (.ok (some k)) => k = key ∧ given = notes
  | _ => False

/-- An entry of a history says what its transaction and the notes that were given say. -/
structure HistoryRow.Agrees (past : List Deed) (r : TransactionRow) (h : HistoryRow) : Prop where
  status : h.status = r.transactionStatus
  createdBy : h.audit.createdBy = r.audit.createdBy
  /-- The transaction was written with some notes. -/
  noted : ∃ d ∈ past, ∃ notes, d.Notes r.id notes
  /-- Of the notes, if they are a text, the beginning is kept. -/
  notes : ∀ d ∈ past, ∀ t, d.Notes r.id (.text t) → h.notes = some (t.take notesLimit)

/-- What was noted about a transaction stays so when others are written. -/
theorem HistoryRow.Agrees.append {past : List Deed} {deed : Deed} {r : TransactionRow}
    {h : HistoryRow} (hagrees : HistoryRow.Agrees past r h)
    (hdeed : ∀ notes, ¬deed.Notes r.id notes) : HistoryRow.Agrees (past ++ [deed]) r h := by
  obtain ⟨d, hd, hnoted⟩ := hagrees.noted
  refine ⟨hagrees.status, hagrees.createdBy, ⟨d, List.mem_append_left _ hd, hnoted⟩, ?_⟩
  intro d hd t hnotes
  rcases List.mem_append.1 hd with hd | hd
  · exact hagrees.notes d hd t hnotes
  · obtain rfl := List.mem_singleton.1 hd
    exact absurd hnotes (hdeed _)

/-- A named value holds the instant at which its customer was written. -/
structure KeyInfoRow.Agrees (c : CustomerRow) (i : KeyInfoRow) : Prop where
  name : i.keyName = creationDateKey
  /-- What the value is read as is when the customer was written. -/
  date : ∃ t, c.audit.createdDate = some t ∧
    Provider.readDate (.text i.keyValue) = .ok (some (.aware t Offset.utc))

/-- Every transaction has exactly one entry of its history, every log exactly one row of details, and
every customer exactly one named value, which agree with it, and none of these rows is without the row to
which it belongs. -/
structure Store.IsMirrored (past : List Deed) (s : Store) : Prop where
  transactions : s.transactions.Mirrors s.histories HistoryRow.transactionId (HistoryRow.Agrees past)
  logs : s.logs.Mirrors s.details DetailsRow.logId fun l d => d.audit.createdBy = l.audit.createdBy
  customers : s.customers.Mirrors s.keyInfos KeyInfoRow.customerId KeyInfoRow.Agrees
  /-- Only keys that were given were noted. -/
  noted : ∀ d ∈ past, ∀ key notes, d.Notes key notes → key < s.transactions.next

namespace Store

/-- There are no rows that mirror each other yet. -/
structure IsBlank (s : Store) : Prop where
  customers : s.customers.rows = []
  keyInfos : s.keyInfos.rows = []
  transactions : s.transactions.rows = []
  histories : s.histories.rows = []
  logs : s.logs.rows = []
  details : s.details.rows = []

variable {s u : Store} {past ds : List Deed} {w : Write} {deed : Deed}

theorem IsBlank.isMirrored (h : s.IsBlank) : s.IsMirrored [] where
  transactions := Table.mirrors_of_rows_eq_nil h.transactions h.histories
  logs := Table.mirrors_of_rows_eq_nil h.logs h.details
  customers := Table.mirrors_of_rows_eq_nil h.customers h.keyInfos
  noted := List.forall_mem_nil _

/-! ### Writing -/

/-- A deed that writes no transaction changes nothing about what was noted. -/
theorem IsMirrored.append (h : s.IsMirrored past) (hdeed : ∀ key notes, ¬deed.Notes key notes) :
    s.IsMirrored (past ++ [deed]) := by
  refine ⟨h.transactions.imp fun r _ c hagrees => ?_, h.logs, h.customers, ?_⟩
  · exact hagrees.append (hdeed r.id)
  · intro d hd key notes hnotes
    rcases List.mem_append.1 hd with hd | hd
    · exact h.noted d hd key notes hnotes
    · obtain rfl := List.mem_singleton.1 hd
      exact absurd hnotes (hdeed _ _)

/-- What is kept of notes that are a text is their beginning. -/
theorem cutNotes_text (t : Text) : cutNotes (.text t) = .ok (.text (t.take notesLimit)) := by
  unfold cutNotes
  split_ifs with h
  · rfl
  · -- Only the empty text does not count as present.
    cases t with
    | nil => rfl
    | cons c t => exact absurd rfl h

/-- A transaction comes with the first entry of its history. -/
theorem IsMirrored.insertTransaction (h : s.IsMirrored past) (draft : TransactionDraft) (notes : Value)
    (now : DateTime) :
    let w : Write := .transaction draft notes now
    (w.effect s).IsMirrored (past ++ [.write w (.ok (some s.transactions.next))]) := by
  intro w
  set deed : Deed := .write w (.ok (some s.transactions.next)) with hdeed
  have hnew {key : Nat} {notes' : Value} (hnotes : deed.Notes key notes') :
      key = s.transactions.next ∧ notes' = notes := ⟨hnotes.1.symm, hnotes.2.symm⟩
  have hold : s.transactions.Mirrors s.histories HistoryRow.transactionId
      (HistoryRow.Agrees (past ++ [deed])) := by
    refine h.transactions.imp fun r hr c hagrees => hagrees.append fun notes hnotes => ?_
    have hkey : r.id < s.transactions.next := h.transactions.keyed.fresh r hr
    have hnext : r.id = s.transactions.next := (hnew hnotes).1
    omega
  refine ⟨hold.insert rfl rfl ⟨rfl, rfl, ?_, ?_⟩, h.logs, h.customers, ?_⟩
  · exact ⟨deed, List.mem_append_right _ (List.mem_singleton_self _), notes, rfl, rfl⟩
  · intro d hd t hnotes
    rcases List.mem_append.1 hd with hd | hd
    · -- The key is a new one, so that nothing was noted under it before.
      exact absurd (h.noted d hd _ _ hnotes) (Nat.lt_irrefl _)
    · obtain rfl := List.mem_singleton.1 hd
      obtain rfl := (hnew hnotes).2
      rw [cutNotes_text]
      rfl
  · intro d hd key notes' hnotes
    show key < s.transactions.next + 1
    rcases List.mem_append.1 hd with hd | hd
    · exact Nat.lt_succ_of_lt (h.noted d hd key notes' hnotes)
    · obtain rfl := List.mem_singleton.1 hd
      rw [(hnew hnotes).1]
      exact Nat.lt_succ_self _

theorem readDate_isoText {d : DateTime} (h : d.IsReadable) :
    Provider.readDate (.text d.isoText) = .ok (some d) := by
  have hread : DateTime.read d.isoText = .ok (some d) := DateTime.read_isoText h
  have hnonempty : d.isoText ≠ [] := by
    intro hempty
    have hiso := DateTime.readIso?_isoText h
    rw [hempty] at hiso
    cases hiso
  have htruthy : (Value.text d.isoText).isTruthy = true := by
    rw [Value.isTruthy, Bool.not_eq_true', List.isEmpty_eq_false_iff]
    exact hnonempty
  rw [Provider.readDate, if_pos htruthy, Value.display, hread]
  rfl

end Store

/-- A customer is written with the time of its creation, which is one of universal time. -/
def Write.IsDated : Write → Prop
  | .customer draft now => draft.audit.createdDate = .time now ∧ ∃ t, now = .aware t Offset.utc
  | _ => True

/-- If a deed is a customer that is written, then with the time of its creation. -/
def Deed.IsDated : Deed → Prop
  | .write w _ => w.IsDated
  | _ => True

namespace Store

variable {s u : Store} {past ds : List Deed} {w : Write}

/-- The named value of a customer that is written at a time of universal time holds this time. -/
theorem agrees_creationInfo {draft : CustomerDraft} {t : LocalTime} (id key : Nat)
    (hdate : draft.audit.createdDate = .time (.aware t Offset.utc)) :
    KeyInfoRow.Agrees (draft.row id) (creationInfo id (.aware t Offset.utc) key) := by
  have hcreated : draft.audit.createdDate.instant = some t := by
    rw [hdate, Offer.instant, Offer.readInstant, Offer.toUniversal_utc]
    rfl
  have hread := readDate_isoText (d := .aware t Offset.utc) (.inl rfl)
  exact ⟨rfl, t, hcreated, hread⟩

/-- A group of rows adds to both tables of a pair or to none. -/
theorem IsMirrored.effect (h : s.IsMirrored past) (hw : w.IsDated) :
    (w.effect s).IsMirrored (past ++ [.write w (.ok (w.key? s))]) := by
  cases w with
  | method draft =>
    have hpast : s.IsMirrored (past ++ [.write (.method draft) (.ok (some s.methods.next))]) :=
      h.append fun _ _ => id
    exact ⟨hpast.transactions, hpast.logs, hpast.customers, hpast.noted⟩
  | owner method who now =>
    have hpast : s.IsMirrored (past ++ [.write (.owner method who now)
        (.ok ((Write.owner method who now).key? s))]) := h.append fun _ _ => id
    exact ⟨hpast.transactions, hpast.logs, hpast.customers, hpast.noted⟩
  | customer draft now =>
    have hpast : s.IsMirrored (past ++ [.write (.customer draft now) (.ok (some s.customers.next))]) :=
      h.append fun _ _ => id
    obtain ⟨hdate, t, rfl⟩ := hw
    have hcustomers : (s.customers.insert draft.row).Mirrors
        (s.keyInfos.insert (creationInfo s.customers.next (.aware t Offset.utc)))
        KeyInfoRow.customerId KeyInfoRow.Agrees :=
      h.customers.insert rfl rfl (agrees_creationInfo s.customers.next s.keyInfos.next hdate)
    exact ⟨hpast.transactions, hpast.logs, hcustomers, hpast.noted⟩
  | transaction draft notes now => exact h.insertTransaction draft notes now
  | log draft request answer now =>
    have hpast : s.IsMirrored (past ++ [.write (.log draft request answer now)
        (.ok (some s.logs.next))]) := h.append fun _ _ => id
    exact ⟨hpast.transactions, hpast.logs.insert rfl rfl rfl, hpast.customers, hpast.noted⟩

/-- The tables mirror each other after any deeds in which customers are dated. -/
theorem IsMirrored.undergoes (h : s.IsMirrored past) (hu : s.Undergoes ds u) (hds : ∀ d ∈ ds, d.IsDated) :
    u.IsMirrored (past ++ ds) := by
  induction hu generalizing past with
  | nil s =>
    rw [List.append_nil]
    exact h
  | call c reply _ ih =>
    rw [List.append_cons]
    exact ih (h.append fun _ _ => id) (List.forall_mem_cons.1 hds).2
  | lookup name email _ ih =>
    rw [List.append_cons]
    exact ih (h.append fun _ _ => id) (List.forall_mem_cons.1 hds).2
  | @refused _ _ _ w e _ _ ih =>
    rw [List.append_cons]
    refine ih (h.append fun key notes hnotes => ?_) (List.forall_mem_cons.1 hds).2
    -- What is refused is not written.
    cases w <;> exact hnotes
  | @taken s _ _ _ w key hw _ ih =>
    obtain ⟨_, rfl, rfl⟩ := Write.apply_eq_ok.1 hw
    rw [List.forall_mem_cons] at hds
    rw [List.append_cons]
    exact ih (h.effect hds.1) hds.2

/-! ### Deleting -/

/-- Transactions go with their history. -/
theorem IsMirrored.removeTransactions (h : s.IsMirrored past) (p : TransactionRow → Bool) :
    (s.removeTransactions p).IsMirrored past := by
  refine ⟨h.transactions.keep ?_, h.logs, h.customers, h.noted⟩
  intro r hr c hof
  show (!((s.transactions.rows.filter p).map TransactionRow.id).contains c.transactionId) = !p r
  rw [hof, Bool.eq_iff_iff, Bool.not_eq_true', Bool.not_eq_true', ← Bool.not_eq_true, ← Bool.not_eq_true,
    not_iff_not, List.contains_iff_mem, List.mem_map]
  constructor
  · rintro ⟨r', hr', hkey⟩
    obtain ⟨hmem, hp⟩ := List.mem_filter.1 hr'
    -- The key is that of one row only.
    rw [← h.transactions.keyed.eq_of_key_eq hmem hr hkey]
    exact hp
  · intro hp
    exact ⟨r, List.mem_filter.2 ⟨hr, hp⟩, rfl⟩

/-- A customer goes with its named values and its transactions. -/
theorem IsMirrored.removeCustomer (h : s.IsMirrored past) (id : Nat) :
    (s.removeCustomer id).IsMirrored past := by
  have hgone := h.removeTransactions fun r => r.customerId = id
  refine ⟨hgone.transactions, hgone.logs, hgone.customers.keep ?_, hgone.noted⟩
  intro r _ i hof
  show decide (i.customerId ≠ id) = decide (r.id ≠ id)
  rw [hof]
  rfl

/-- A log goes with its details. -/
theorem IsMirrored.removeLog (h : s.IsMirrored past) (id : Nat) : (s.removeLog id).IsMirrored past := by
  refine ⟨h.transactions, h.logs.keep ?_, h.customers, h.noted⟩
  intro r _ d hof
  show decide (d.logId ≠ id) = decide (r.id ≠ id)
  rw [hof]
  rfl

theorem IsMirrored.removeProvider (h : s.IsMirrored past) {id : Nat} (hu : s.removeProvider id = .ok u) :
    u.IsMirrored past := by
  unfold Store.removeProvider at hu
  split_ifs at hu
  cases hu
  exact ⟨h.transactions, h.logs, h.customers, h.noted⟩

/-- Logs lose the reference to a payment method that is deleted, and keep what their details agree with. -/
theorem IsMirrored.removeMethod (h : s.IsMirrored past) {id : Nat} (hu : s.removeMethod id = .ok u) :
    u.IsMirrored past := by
  unfold Store.removeMethod at hu
  split_ifs at hu
  cases hu
  refine ⟨h.transactions, h.logs.mapRows ?_ ?_, h.customers, h.noted⟩
  · intro r
    split_ifs <;> rfl
  · intro r d hagrees
    split_ifs <;> exact hagrees

end Store

/-- Rows of these kinds belong to a row of another kind. -/
def Entity.IsDependent : Entity → Prop
  | .keyInfo => True
  | .history => True
  | .details => True
  | _ => False

namespace Store

variable {s u : Store} {past : List Deed}

/-- The tables mirror each other after every deletion of rows that belong to none. -/
theorem IsMirrored.delete (h : s.IsMirrored past) {entity : Entity} (hentity : ¬entity.IsDependent)
    {key : Value} (hu : s.delete entity key = .ok u) : u.IsMirrored past := by
  cases entity with
  | provider =>
    obtain ⟨row, _, hu⟩ := bind_eq_ok.1 hu
    exact h.removeProvider hu
  | method =>
    obtain ⟨row, _, hu⟩ := bind_eq_ok.1 hu
    exact h.removeMethod hu
  | customer =>
    obtain ⟨row, _, hu⟩ := bind_eq_ok.1 hu
    obtain rfl := pure_eq_ok.1 hu
    exact h.removeCustomer row.id
  | transaction =>
    obtain ⟨row, _, hu⟩ := bind_eq_ok.1 hu
    obtain rfl := pure_eq_ok.1 hu
    exact h.removeTransactions fun r => r.id = row.id
  | log =>
    obtain ⟨row, _, hu⟩ := bind_eq_ok.1 hu
    obtain rfl := pure_eq_ok.1 hu
    exact h.removeLog row.id
  | _ => exact absurd trivial hentity

end Store

/-! ### Payments -/

namespace PaymentService

namespace Attempt

variable {a : Attempt} {g i : Stage} {ds : List Deed} {t : LocalTime}

/-- A payment at a time of universal time dates its customer. -/
theorem isDated_customerWrite (hnow : a.now = .aware t Offset.utc) {method : Nat}
    {created : Provider.Customer} : (a.customerWrite method created).IsDated := ⟨rfl, t, hnow⟩

theorem Step.isDated (h : a.Step g ds i) (hnow : a.now = .aware t Offset.utc) : ∀ d ∈ ds, d.IsDated := by
  cases h with
  | create reply key hreply =>
    rw [List.forall_mem_cons, List.forall_mem_cons, List.forall_mem_singleton]
    exact ⟨trivial, trivial, isDated_customerWrite hnow⟩
  | tokenize reply key hreply =>
    rw [List.forall_mem_cons, List.forall_mem_singleton]
    exact ⟨trivial, trivial⟩
  | log reply key hreply hstatus =>
    rw [List.forall_mem_cons, List.forall_mem_singleton]
    exact ⟨trivial, trivial⟩
  | _ =>
    rw [List.forall_mem_singleton]
    trivial

theorem Steps.isDated (h : a.Steps g ds i) (hnow : a.now = .aware t Offset.utc) :
    ∀ d ∈ ds, d.IsDated := by
  induction h with
  | refl => exact List.forall_mem_nil _
  | tail _ hstep ih => exact List.forall_mem_append.2 ⟨ih, hstep.isDated hnow⟩

theorem Halts.isDated {r : Except Failure PaymentResult} (h : a.Halts g ds r)
    (hnow : a.now = .aware t Offset.utc) : ∀ d ∈ ds, d.IsDated := by
  cases h with
  | customerRefused reply e hreply =>
    rw [List.forall_mem_cons, List.forall_mem_cons, List.forall_mem_singleton]
    exact ⟨trivial, trivial, isDated_customerWrite hnow⟩
  | customerFailed reply hreply =>
    rw [List.forall_mem_cons, List.forall_mem_singleton]
    exact ⟨trivial, trivial⟩
  | tokenRefused reply e hreply =>
    rw [List.forall_mem_cons, List.forall_mem_singleton]
    exact ⟨trivial, trivial⟩
  | logRefused reply e hreply hstatus =>
    rw [List.forall_mem_cons, List.forall_mem_singleton]
    exact ⟨trivial, trivial⟩
  | paid => exact List.forall_mem_nil _
  | _ =>
    rw [List.forall_mem_singleton]
    trivial

end Attempt

/-- Whatever a payment at a time of universal time does, its customer is dated. -/
theorem process_isDated {s : PaymentService} {t : LocalTime} {request : PaymentRequest} {ds : List Deed}
    {r : Except Failure PaymentResult}
    (h : (s.process (.aware t Offset.utc) request).Does ds r) : ∀ d ∈ ds, d.IsDated := by
  rcases process_does h with ⟨_, _, rfl, _⟩ | ⟨a, ha, g, before, last, hsteps, hhalts, rfl⟩
  · exact List.forall_mem_nil _
  · obtain ⟨year, month, rfl⟩ := eq_of_attempt ha
    exact List.forall_mem_append.2 ⟨hsteps.isDated rfl, hhalts.isDated rfl⟩

end PaymentService

/-! ### Sessions -/

namespace Session

open Program

variable {s : Session} {t : Task} {ts : List Task} {past ds : List Deed} {u : Store}

/-- The time that a session shows is one of universal time. -/
def IsUniversal (s : Session) : Prop := ∃ t, s.now = .aware t Offset.utc

theorem IsUniversal.perform (h : s.IsUniversal) (t : Task) : (s.perform t).IsUniversal := by
  unfold IsUniversal
  rw [now_perform]
  cases t with
  | passTime now => exact ⟨now, rfl⟩
  | _ => exact h

section

variable {α β : Type} {w : Write}

theorem isDated_ofExcept_bind {x : Except Failure α} {f : α → Program β} {r : Except Failure β}
    (h : (ofExcept x >>= f).Does ds r) (hf : ∀ a, (f a).Does ds r → ∀ d ∈ ds, d.IsDated) :
    ∀ d ∈ ds, d.IsDated := by
  rcases does_ofExcept_bind.1 h with ⟨e, _, rfl, _⟩ | ⟨a, _, h⟩
  · exact List.forall_mem_nil _
  · exact hf a h

theorem isDated_insert {r : Except Failure Nat} (h : (insert w).Does ds r) (hw : w.IsDated) :
    ∀ d ∈ ds, d.IsDated := by
  obtain ⟨answer, rfl, _⟩ := does_insert.1 h
  exact List.forall_mem_singleton.2 hw

theorem isDated_commit {r : Except Failure (Option Nat)} (h : (commit w).Does ds r) (hw : w.IsDated) :
    ∀ d ∈ ds, d.IsDated := by
  obtain ⟨answer, rfl, _⟩ := does_commit.1 h
  exact List.forall_mem_singleton.2 hw

end

/-- In the deeds of a task customers are dated. -/
theorem Task.isDated (hs : s.IsUniversal) (t : Task) : ∀ d ∈ t.deeds s, d.IsDated := by
  obtain ⟨now, hnow⟩ := hs
  cases t with
  | pay p =>
    rw [Task.deeds, Task.program, (Desk.run_forget _ _).2, hnow]
    exact PaymentService.process_isDated (Desk.run_does _ _)
  | createMethod provider token =>
    rw [Task.deeds, Task.program, (Desk.run_forget _ _).2]
    exact isDated_ofExcept_bind (Desk.run_does _ _) fun row h => isDated_insert h trivial
  | updateOwner method owner =>
    rw [Task.deeds, Task.program, (Desk.run_forget _ _).2]
    refine isDated_ofExcept_bind (Desk.run_does _ _) fun key h => ?_
    cases key with
    | none =>
      obtain ⟨hds, _⟩ := does_pure.1 h
      rw [hds]
      exact List.forall_mem_nil _
    | some key => exact isDated_commit h trivial
  | createCustomer draft method =>
    rw [Task.deeds, Task.program, (Desk.run_forget _ _).2, hnow]
    exact isDated_ofExcept_bind (Desk.run_does _ _) fun row h => isDated_insert h ⟨rfl, now, rfl⟩
  | addTransaction draft notes =>
    rw [Task.deeds, Task.program, (Desk.run_forget _ _).2]
    exact isDated_insert (Desk.run_does _ _) trivial
  | addLog draft request answer =>
    rw [Task.deeds, Task.program, (Desk.run_forget _ _).2]
    exact isDated_insert (Desk.run_does _ _) trivial
  | delete entity key => exact List.forall_mem_nil _
  | passTime now => exact List.forall_mem_nil _

/-- A task deletes no rows that belong to others, unless with these. -/
def Task.SparesDependents : Task → Prop
  | .delete entity _ => ¬entity.IsDependent
  | _ => True

/-- A task keeps the tables mirroring each other. -/
theorem isMirrored_perform (hs : s.IsUniversal) (ht : t.SparesDependents)
    (h : s.desk.store.IsMirrored past) : (s.perform t).desk.store.IsMirrored (past ++ t.deeds s) := by
  by_cases hdelete : ∃ entity key, t = .delete entity key
  · obtain ⟨entity, key, rfl⟩ := hdelete
    rw [perform_delete]
    show ((s.desk.store.delete entity key).toOption.getD s.desk.store).IsMirrored (past ++ [])
    rw [List.append_nil]
    cases hu : s.desk.store.delete entity key with
    | error e => exact h
    | ok u => exact h.delete ht hu
  · exact h.undergoes (perform_undergoes fun entity key ht => hdelete ⟨entity, key, ht⟩) (Task.isDated hs t)

/-- **One row for every row**: in a session that starts without customers, transactions and logs, at every
moment of every task, every transaction has exactly one entry of its history, every log exactly one row of
details, and every customer exactly one named value, which agree with it, and none of these is without
the row to which it belongs. -/
theorem reaches_isMirrored (hs : s.IsUniversal) (hblank : s.desk.store.IsBlank)
    (hts : ∀ t ∈ ts, t.SparesDependents) (h : s.Reaches ts ds u) : u.IsMirrored ds := by
  have hmoment := Reaches.induct (I := fun s past => s.IsUniversal ∧ s.desk.store.IsMirrored past)
    (P := fun past u => u.IsMirrored past) (fun s past hs => hs.2)
    (fun s past t ds u _ hs hpasses => hs.2.undergoes (undergoes_of_passes hpasses) fun d hd =>
      Task.isDated hs.1 t d (hpasses.isPrefix.subset hd))
    (fun s past t ht hs => ⟨hs.1.perform t, isMirrored_perform hs.1 ht hs.2⟩)
    hts [] ⟨hs, hblank.isMirrored⟩ h
  exact hmoment

/-! ### A trial -/

/-- A transaction that is written by hand for the customer with key one. -/
def trialTransaction : TransactionDraft where
  audit := { createdBy := .value (.int 1) }
  customer := .value (.int 1)
  transactionStatus := "refunded"
  expireYear := .value (.int 29)
  expireMonth := .value (.int 12)
  amount := .value (.int 100)

/-- A payment, a transaction that is written by hand, and one that is deleted. -/
def trialTasks : List Task :=
  [.pay trialPayment, .addTransaction trialTransaction (.text "Refunded by hand"),
    .delete .transaction (.int 1)]

/-- Two transactions are left of the trial, each with its history, a log and a customer. -/
theorem trial_mirrored :
    trialSession.IsUniversal ∧ trialSession.desk.store.IsBlank ∧
      (∀ t ∈ trialTasks, t.SparesDependents) ∧
      (trialSession.performAll trialTasks).desk.store.transactions.rows.map TransactionRow.id = [2, 3] ∧
      (trialSession.performAll trialTasks).desk.store.logs.rows.length = 1 ∧
      (trialSession.performAll trialTasks).desk.store.customers.rows.length = 1 ∧
      (trialSession.performAll trialTasks).desk.store.IsMirrored (trialSession.deedsAll trialTasks) := by
  have huniversal : trialSession.IsUniversal := ⟨_, rfl⟩
  have hblank : trialSession.desk.store.IsBlank := ⟨rfl, rfl, rfl, rfl, rfl, rfl⟩
  have hspares : ∀ t ∈ trialTasks, t.SparesDependents := by
    simp [trialTasks, Task.SparesDependents, Entity.IsDependent]
  have hleft : (trialSession.performAll trialTasks).desk.store.transactions.rows.map TransactionRow.id =
      [2, 3] ∧ (trialSession.performAll trialTasks).desk.store.logs.rows.length = 1 ∧
        (trialSession.performAll trialTasks).desk.store.customers.rows.length = 1 := by decide +kernel
  obtain ⟨htransactions, hlogs, hcustomers⟩ := hleft
  refine ⟨huniversal, hblank, hspares, htransactions, hlogs, hcustomers, ?_⟩
  exact reaches_isMirrored huniversal hblank hspares (reaches_end trialSession trialTasks)

end Session

end CardPayments
