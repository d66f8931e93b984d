import CardPayments.Proofs.Store.Amount
import CardPayments.Proofs.Store.Write
import CardPayments.Store.Delete
import Mathlib.Logic.Relation

/-!
# Rows that refer to rows

Seven references tie the tables together: a payment method needs its provider, a customer its payment
method, named values and transactions their customer, a history its transaction, details their log, and a
log may name a payment method.  `Store.IsIntact` says that all of them are to rows that are there.  Writing
keeps it, because a group of rows is only fit for a store that has what the rows refer to
(`Store.IsSound.effect`).

What a removal should do is said by the references alone: with a row go the rows that depend on it
(`Store.GoesWith`), and `Store.without` is the store without some rows.  `Store.remove_eq` shows that the
removal of a row is just that, unless the row is in use; hence removing keeps the references, too
(`Store.IsSound.remove`).
-/

namespace CardPayments

namespace Table

variable {ρ : Type} {t : Table ρ} {p q : ρ → Bool} {id : Nat}

theorem keep_congr (h : ∀ r ∈ t.rows, p r = q r) : t.keep p = t.keep q := by
  unfold keep
  rw [List.filter_congr h]

theorem keep_eq_self (h : ∀ r ∈ t.rows, p r = true) : t.keep p = t := by
  unfold keep
  rw [List.filter_eq_self.2 h]

@[simp] theorem keep_true : (t.keep fun _ => true) = t := keep_eq_self fun _ _ => rfl

theorem has_keep [Keyed ρ] : (t.keep p).has id = true ↔ ∃ r ∈ t.rows, p r = true ∧ Keyed.key r = id := by
  rw [has_iff]
  simp only [keep, List.mem_filter, and_assoc]

end Table

/-- What a row is called: its kind and its key. -/
structure RowName where
  entity : Entity
  key : Nat
  deriving DecidableEq

namespace Store

/-! ### Intact references -/

/-- Every row has a key of its own. -/
structure HasOwnKeys (s : Store) : Prop where
  providers : s.providers.IsKeyed
  methods : s.methods.IsKeyed
  customers : s.customers.IsKeyed
  keyInfos : s.keyInfos.IsKeyed
  transactions : s.transactions.IsKeyed
  histories : s.histories.IsKeyed
  logs : s.logs.IsKeyed
  details : s.details.IsKeyed

/-- Every row to which another one refers is there. -/
structure IsIntact (s : Store) : Prop where
  methods : ∀ r ∈ s.methods.rows, s.providers.has r.providerId = true
  customers : ∀ r ∈ s.customers.rows, s.methods.has r.methodId = true
  keyInfos : ∀ r ∈ s.keyInfos.rows, s.customers.has r.customerId = true
  transactions : ∀ r ∈ s.transactions.rows, s.customers.has r.customerId = true
  histories : ∀ r ∈ s.histories.rows, s.transactions.has r.transactionId = true
  /-- Only a log may refer to nothing. -/
  logs : ∀ r ∈ s.logs.rows, ∀ id ∈ r.methodId, s.methods.has id = true
  details : ∀ r ∈ s.details.rows, s.logs.has r.logId = true

/-- Rows have keys of their own, and refer to rows that are there. -/
structure IsSound (s : Store) : Prop where
  keys : s.HasOwnKeys
  intact : s.IsIntact

variable {s t : Store}

/-! ### Writing keeps references -/

theorem HasOwnKeys.effect (h : s.HasOwnKeys) (w : Write) : (w.effect s).HasOwnKeys := by
  cases w with
  | method d => exact { h with methods := h.methods.insert rfl }
  | customer d now =>
    exact { h with customers := h.customers.insert rfl, keyInfos := h.keyInfos.insert rfl }
  | owner id who now =>
    refine { h with methods := h.methods.mapRows fun r => ?_ }
    split_ifs <;> rfl
  | transaction d notes now =>
    exact { h with transactions := h.transactions.insert rfl, histories := h.histories.insert rfl }
  | log d request answer now =>
    exact { h with logs := h.logs.insert rfl, details := h.details.insert rfl }

/-- A store that takes a group of rows keeps its references. -/
theorem IsIntact.effect (h : s.IsIntact) {w : Write} (hw : w.IsFit s) : (w.effect s).IsIntact := by
  have hmethods {id : Nat} (hid : s.methods.has id = true) : (w.effect s).methods.has id = true :=
    Write.has_methods_effect hid
  have hcustomers {id : Nat} (hid : s.customers.has id = true) : (w.effect s).customers.has id = true :=
    Write.has_customers_effect hid
  cases w with
  | method d =>
    exact { h with
      methods := Table.forall_mem_insert h.methods hw.2.2
      customers := fun r hr => hmethods (h.customers r hr)
      logs := fun r hr id hid => hmethods (h.logs r hr id hid) }
  | customer d now =>
    exact { h with
      customers := Table.forall_mem_insert h.customers hw.2.2
      keyInfos := Table.forall_mem_insert (fun r hr => hcustomers (h.keyInfos r hr))
        (Table.has_insert.2 (.inr rfl))
      transactions := fun r hr => hcustomers (h.transactions r hr) }
  | owner id who now =>
    refine { h with
      methods := fun r hr => ?_
      customers := fun r hr => hmethods (h.customers r hr)
      logs := fun r hr id hid => hmethods (h.logs r hr id hid) }
    -- The owner of a payment method is no reference.
    obtain ⟨old, hold, rfl⟩ := List.mem_map.1 hr
    split_ifs <;> exact h.methods old hold
  | transaction d notes now =>
    exact { h with
      transactions := Table.forall_mem_insert h.transactions hw.2.2
      histories := Table.forall_mem_insert (fun r hr => Table.has_insert.2 (.inl (h.histories r hr)))
        (Table.has_insert.2 (.inr rfl)) }
  | log d request answer now =>
    refine { h with
      logs := Table.forall_mem_insert h.logs fun id hid => ?_
      details := Table.forall_mem_insert (fun r hr => Table.has_insert.2 (.inl (h.details r hr)))
        (Table.has_insert.2 (.inr rfl)) }
    have hfit := hw.2.2.2.2
    rw [Option.mem_def.1 hid] at hfit
    exact hfit

theorem IsSound.effect (h : s.IsSound) {w : Write} (hw : w.IsFit s) : (w.effect s).IsSound :=
  ⟨h.keys.effect w, h.intact.effect hw⟩

/-! ### What goes with a row -/

/-- The row of a name is there. -/
def Has (s : Store) (x : RowName) : Prop :=
  match x.entity with
  | .provider => s.providers.has x.key = true
  | .method => s.methods.has x.key = true
  | .customer => s.customers.has x.key = true
  | .keyInfo => s.keyInfos.has x.key = true
  | .transaction => s.transactions.has x.key = true
  | .history => s.histories.has x.key = true
  | .log => s.logs.has x.key = true
  | .details => s.details.has x.key = true

/-- A row depends on another one, and cannot stay when that one goes. -/
inductive DependsOn (s : Store) : RowName → RowName → Prop where
  | keyInfo {r : KeyInfoRow} : r ∈ s.keyInfos.rows → DependsOn s ⟨.keyInfo, r.id⟩ ⟨.customer, r.customerId⟩
  | transaction {r : TransactionRow} :
      r ∈ s.transactions.rows → DependsOn s ⟨.transaction, r.id⟩ ⟨.customer, r.customerId⟩
  | history {r : HistoryRow} :
      r ∈ s.histories.rows → DependsOn s ⟨.history, r.id⟩ ⟨.transaction, r.transactionId⟩
  | details {r : DetailsRow} : r ∈ s.details.rows → DependsOn s ⟨.details, r.id⟩ ⟨.log, r.logId⟩

/-- A row goes with another one: it is this one, or depends on one that goes. -/
def GoesWith (s : Store) (target x : RowName) : Prop := Relation.ReflTransGen s.DependsOn x target

/-- Some row may not go, because another one needs it that would stay. -/
inductive IsInUse (s : Store) : RowName → Prop where
  | provider {r : MethodRow} : r ∈ s.methods.rows → IsInUse s ⟨.provider, r.providerId⟩
  | method {r : CustomerRow} : r ∈ s.customers.rows → IsInUse s ⟨.method, r.methodId⟩

theorem isInUse_provider {id : Nat} :
    s.IsInUse ⟨.provider, id⟩ ↔ ∃ r ∈ s.methods.rows, r.providerId = id := by
  constructor
  · intro h
    cases h with
    | provider hr => exact ⟨_, hr, rfl⟩
  · rintro ⟨r, hr, rfl⟩
    exact .provider hr

theorem isInUse_method {id : Nat} :
    s.IsInUse ⟨.method, id⟩ ↔ ∃ r ∈ s.customers.rows, r.methodId = id := by
  constructor
  · intro h
    cases h with
    | method hr => exact ⟨_, hr, rfl⟩
  · rintro ⟨r, hr, rfl⟩
    exact .method hr

section

variable {target : RowName} {id : Nat}

theorem goesWith_iff {x : RowName} :
    s.GoesWith target x ↔ x = target ∨ ∃ y, s.DependsOn x y ∧ s.GoesWith target y :=
  Relation.ReflTransGen.cases_head_iff

/-- What depends on nothing goes with itself only. -/
theorem goesWith_of_not_dependsOn {x : RowName} (h : ∀ y, ¬s.DependsOn x y) :
    s.GoesWith target x ↔ x = target := by
  rw [goesWith_iff]
  exact or_iff_left fun ⟨y, hy, _⟩ => h y hy

@[simp] theorem goesWith_provider : s.GoesWith target ⟨.provider, id⟩ ↔ ⟨.provider, id⟩ = target :=
  goesWith_of_not_dependsOn fun _ => nofun

@[simp] theorem goesWith_method : s.GoesWith target ⟨.method, id⟩ ↔ ⟨.method, id⟩ = target :=
  goesWith_of_not_dependsOn fun _ => nofun

@[simp] theorem goesWith_customer : s.GoesWith target ⟨.customer, id⟩ ↔ ⟨.customer, id⟩ = target :=
  goesWith_of_not_dependsOn fun _ => nofun

@[simp] theorem goesWith_log : s.GoesWith target ⟨.log, id⟩ ↔ ⟨.log, id⟩ = target :=
  goesWith_of_not_dependsOn fun _ => nofun

/-- A row depends on no more than one other row. -/
theorem DependsOn.unique (h : s.HasOwnKeys) {x y z : RowName} (hy : s.DependsOn x y)
    (hz : s.DependsOn x z) : y = z := by
  cases hy with
  | @keyInfo r hr =>
    generalize hx : (⟨.keyInfo, r.id⟩ : RowName) = x at hz
    cases hz with
    | keyInfo hr' => rw [h.keyInfos.eq_of_key_eq hr hr' (RowName.mk.inj hx).2]
    | _ => cases hx
  | @transaction r hr =>
    generalize hx : (⟨.transaction, r.id⟩ : RowName) = x at hz
    cases hz with
    | transaction hr' => rw [h.transactions.eq_of_key_eq hr hr' (RowName.mk.inj hx).2]
    | _ => cases hx
  | @history r hr =>
    generalize hx : (⟨.history, r.id⟩ : RowName) = x at hz
    cases hz with
    | history hr' => rw [h.histories.eq_of_key_eq hr hr' (RowName.mk.inj hx).2]
    | _ => cases hx
  | @details r hr =>
    generalize hx : (⟨.details, r.id⟩ : RowName) = x at hz
    cases hz with
    | details hr' => rw [h.details.eq_of_key_eq hr hr' (RowName.mk.inj hx).2]
    | _ => cases hx

/-- What depends on a row goes with itself, and with whatever this row goes with. -/
theorem goesWith_of_dependsOn (h : s.HasOwnKeys) {x y : RowName} (hxy : s.DependsOn x y) :
    s.GoesWith target x ↔ x = target ∨ s.GoesWith target y := by
  rw [goesWith_iff]
  refine or_congr_right ⟨?_, fun hy => ⟨y, hxy, hy⟩⟩
  rintro ⟨z, hz, hgoes⟩
  rw [hxy.unique h hz]
  exact hgoes

end

/-! ### Stores without some rows -/

/-- The logs without their references to payment methods that are gone. -/
def forgetting (gone : Nat → Bool) (logs : Table LogRow) : Table LogRow :=
  { logs with rows := logs.rows.map fun r =>
      { r with methodId := r.methodId.filter fun id => !gone id } }

/-- Logs that refer to nothing that is gone stay as they are. -/
theorem forgetting_eq_self {gone : Nat → Bool} {logs : Table LogRow} (h : ∀ id, gone id = false) :
    forgetting gone logs = logs := by
  have hrow (r : LogRow) : { r with methodId := r.methodId.filter fun id => !gone id } = r := by
    cases hid : r.methodId <;> simp [← hid, h, Option.filter]
  unfold forgetting
  rw [List.map_congr_left fun r _ => hrow r, List.map_id']

/-- The store without some rows; the logs that stay refer to none of them. -/
def without (s : Store) (gone : RowName → Bool) : Store where
  providers := s.providers.keep fun r => !gone ⟨.provider, r.id⟩
  methods := s.methods.keep fun r => !gone ⟨.method, r.id⟩
  customers := s.customers.keep fun r => !gone ⟨.customer, r.id⟩
  keyInfos := s.keyInfos.keep fun r => !gone ⟨.keyInfo, r.id⟩
  transactions := s.transactions.keep fun r => !gone ⟨.transaction, r.id⟩
  histories := s.histories.keep fun r => !gone ⟨.history, r.id⟩
  logs := forgetting (fun id => gone ⟨.method, id⟩) (s.logs.keep fun r => !gone ⟨.log, r.id⟩)
  details := s.details.keep fun r => !gone ⟨.details, r.id⟩

theorem HasOwnKeys.without (h : s.HasOwnKeys) (gone : RowName → Bool) : (s.without gone).HasOwnKeys where
  providers := h.providers.keep
  methods := h.methods.keep
  customers := h.customers.keep
  keyInfos := h.keyInfos.keep
  transactions := h.transactions.keep
  histories := h.histories.keep
  logs := h.logs.keep.mapRows fun _ => rfl
  details := h.details.keep

/-- References stay intact when with every row all rows go that depend on it, and no row goes that is in
use. -/
theorem IsIntact.without (h : s.IsIntact) {gone : RowName → Bool}
    (hgone : ∀ x y, s.DependsOn x y → gone y = true → gone x = true)
    (huse : ∀ x, s.IsInUse x → gone x = false) : (s.without gone).IsIntact := by
  have hkeeps {ρ : Type} [Keyed ρ] {t : Table ρ} {entity : Entity} {id : Nat} (hid : t.has id = true)
      (hstays : gone ⟨entity, id⟩ = false) :
      (t.keep fun r => !gone ⟨entity, Keyed.key r⟩).has id = true := by
    obtain ⟨r, hr, rfl⟩ := Table.has_iff.1 hid
    refine Table.has_keep.2 ⟨r, hr, ?_, rfl⟩
    rw [hstays]
    rfl
  -- What is needed by a row that stays does not go.
  have hneeds {x y : RowName} (hxy : s.DependsOn x y) (hx : (!gone x) = true) : gone y = false := by
    by_contra hy
    rw [hgone x y hxy (by simpa using hy)] at hx
    cases hx
  constructor
  · intro r hr
    obtain ⟨hr, _⟩ := List.mem_filter.1 hr
    exact hkeeps (h.methods r hr) (huse _ (.provider hr))
  · intro r hr
    obtain ⟨hr, _⟩ := List.mem_filter.1 hr
    exact hkeeps (h.customers r hr) (huse _ (.method hr))
  · intro r hr
    obtain ⟨hr, hstays⟩ := List.mem_filter.1 hr
    exact hkeeps (h.keyInfos r hr) (hneeds (.keyInfo hr) hstays)
  · intro r hr
    obtain ⟨hr, hstays⟩ := List.mem_filter.1 hr
    exact hkeeps (h.transactions r hr) (hneeds (.transaction hr) hstays)
  · intro r hr
    obtain ⟨hr, hstays⟩ := List.mem_filter.1 hr
    exact hkeeps (h.histories r hr) (hneeds (.history hr) hstays)
  · intro r hr id hid
    obtain ⟨old, hold, rfl⟩ := List.mem_map.1 hr
    obtain ⟨hid, hstays⟩ := Option.mem_filter_iff.1 hid
    exact hkeeps (h.logs old (List.mem_of_mem_filter hold) id hid) (by simpa using hstays)
  · intro r hr
    obtain ⟨hr, hstays⟩ := List.mem_filter.1 hr
    obtain ⟨log, hlog, hkey⟩ := Table.has_iff.1 (h.details r hr)
    have hlogStays : gone ⟨.log, log.id⟩ = false := by
      rw [show log.id = r.logId from hkey]
      exact hneeds (.details hr) hstays
    have hkept : log ∈ (s.logs.keep fun r => !gone ⟨.log, r.id⟩).rows :=
      List.mem_filter.2 ⟨hlog, by rw [hlogStays]; rfl⟩
    exact Table.has_iff.2 ⟨_, List.mem_map_of_mem hkept, hkey⟩

/-! ### Removing a row -/

/-- Removes the row of a name, and what goes with it. -/
def remove (s : Store) (x : RowName) : Except Failure Store :=
  match x.entity with
  | .provider => s.removeProvider x.key
  | .method => s.removeMethod x.key
  | .customer => .ok (s.removeCustomer x.key)
  | .keyInfo => .ok { s with keyInfos := s.keyInfos.keep fun r => r.id ≠ x.key }
  | .transaction => .ok (s.removeTransactions fun r => r.id = x.key)
  | .history => .ok { s with histories := s.histories.keep fun r => r.id ≠ x.key }
  | .log => .ok (s.removeLog x.key)
  | .details => .ok { s with details := s.details.keep fun r => r.id ≠ x.key }

/-- The store without a row and what goes with it, table by table. -/
def cut (s : Store) (x : RowName) : Store where
  providers := s.providers.keep fun r => ⟨.provider, r.id⟩ ≠ x
  methods := s.methods.keep fun r => ⟨.method, r.id⟩ ≠ x
  customers := s.customers.keep fun r => ⟨.customer, r.id⟩ ≠ x
  keyInfos := s.keyInfos.keep fun r => ⟨.keyInfo, r.id⟩ ≠ x ∧ ⟨.customer, r.customerId⟩ ≠ x
  transactions := s.transactions.keep fun r => ⟨.transaction, r.id⟩ ≠ x ∧ ⟨.customer, r.customerId⟩ ≠ x
  histories := s.histories.keep fun r => ⟨.history, r.id⟩ ≠ x ∧ ¬∃ t ∈ s.transactions.rows,
    t.id = r.transactionId ∧ (⟨.transaction, t.id⟩ = x ∨ ⟨.customer, t.customerId⟩ = x)
  logs := forgetting (fun id => ⟨.method, id⟩ = x) (s.logs.keep fun r => ⟨.log, r.id⟩ ≠ x)
  details := s.details.keep fun r => ⟨.details, r.id⟩ ≠ x ∧ ⟨.log, r.logId⟩ ≠ x

/-- What goes with a row, said table by table. -/
theorem without_eq_cut (hs : s.IsSound) {x : RowName} {gone : RowName → Bool}
    (hgone : ∀ y, gone y = true ↔ s.GoesWith x y) : s.without gone = s.cut x := by
  have hcongr {ρ : Type} {t : Table ρ} {name : ρ → RowName} {p : ρ → Prop} [DecidablePred p]
      (h : ∀ r ∈ t.rows, p r ↔ ¬s.GoesWith x (name r)) :
      (t.keep fun r => !gone (name r)) = t.keep fun r => p r := by
    refine Table.keep_congr fun r hr => ?_
    rw [Bool.eq_iff_iff, Bool.not_eq_true', decide_eq_true_iff, h r hr, ← hgone, Bool.not_eq_true]
  have hhistory {r : HistoryRow} (hr : r ∈ s.histories.rows) :
      (⟨.history, r.id⟩ ≠ x ∧ ¬∃ t ∈ s.transactions.rows, t.id = r.transactionId ∧
        (⟨.transaction, t.id⟩ = x ∨ ⟨.customer, t.customerId⟩ = x)) ↔ ¬s.GoesWith x ⟨.history, r.id⟩ := by
    obtain ⟨t, ht, hkey⟩ := Table.has_iff.1 (hs.intact.histories r hr)
    have hid : t.id = r.transactionId := hkey
    rw [goesWith_of_dependsOn hs.keys (.history hr), ← hid,
      goesWith_of_dependsOn hs.keys (.transaction ht), goesWith_customer, not_or]
    refine and_congr_right' (not_congr ⟨?_, fun h => ⟨t, ht, rfl, h⟩⟩)
    rintro ⟨t', ht', hid', h⟩
    rwa [hs.keys.transactions.eq_of_key_eq ht' ht hid'] at h
  unfold without cut
  congr 1
  · exact hcongr fun r _ => not_congr goesWith_provider.symm
  · exact hcongr fun r _ => not_congr goesWith_method.symm
  · exact hcongr fun r _ => not_congr goesWith_customer.symm
  · refine hcongr fun r hr => ?_
    rw [goesWith_of_dependsOn hs.keys (.keyInfo hr), goesWith_customer, not_or]
  · refine hcongr fun r hr => ?_
    rw [goesWith_of_dependsOn hs.keys (.transaction hr), goesWith_customer, not_or]
  · exact hcongr fun r hr => hhistory hr
  · refine congrArg₂ forgetting (funext fun id => ?_) (hcongr fun r _ => not_congr goesWith_log.symm)
    rw [Bool.eq_iff_iff, hgone, goesWith_method, decide_eq_true_iff]
  · refine hcongr fun r hr => ?_
    rw [goesWith_of_dependsOn hs.keys (.details hr), goesWith_log, not_or]

/-- A row that is in use is not removed, and the failure says so. -/
theorem remove_of_isInUse {x : RowName} (h : s.IsInUse x) :
    ∃ user column, s.remove x = .error (.inUse x.entity user column) := by
  cases h with
  | @provider r hr =>
    refine ⟨_, _, if_pos ?_⟩
    exact List.any_eq_true.2 ⟨r, hr, decide_eq_true rfl⟩
  | @method r hr =>
    refine ⟨_, _, if_pos ?_⟩
    exact List.any_eq_true.2 ⟨r, hr, decide_eq_true rfl⟩

/-- With transactions goes the history of each of them. -/
theorem removeTransactions_eq (p : TransactionRow → Bool) :
    s.removeTransactions p = { s with
      transactions := s.transactions.keep fun r => !p r
      histories := s.histories.keep fun r =>
        ∀ t ∈ s.transactions.rows, t.id = r.transactionId → p t = false } := by
  have hhistories : (s.histories.keep fun r =>
      !((s.transactions.rows.filter p).map TransactionRow.id).contains r.transactionId) =
      s.histories.keep fun r => ∀ t ∈ s.transactions.rows, t.id = r.transactionId → p t = false := by
    refine Table.keep_congr fun r _ => ?_
    rw [Bool.eq_iff_iff, Bool.not_eq_true', List.contains_eq_mem, decide_eq_false_iff_not,
      decide_eq_true_iff, List.mem_map]
    constructor
    · intro h t ht hid
      by_contra hp
      exact h ⟨t, List.mem_filter.2 ⟨ht, by simpa using hp⟩, hid⟩
    · rintro h ⟨t, ht, hid⟩
      obtain ⟨ht, hp⟩ := List.mem_filter.1 ht
      rw [h t ht hid] at hp
      cases hp
  rw [removeTransactions, hhistories]

/-- The logs of a payment method lose it, and no other log changes. -/
theorem forgetting_eq (id : Nat) (logs : Table LogRow) :
    forgetting (fun key => key = id) logs = { logs with
      rows := logs.rows.map fun r => if r.methodId = some id then { r with methodId := none } else r } := by
  unfold forgetting
  congr 1
  refine List.map_congr_left fun r _ => ?_
  have hfilter : r.methodId.filter (fun key => !decide (key = id)) =
      if r.methodId = some id then none else r.methodId := by
    cases r.methodId with
    | none => rfl
    | some key => by_cases hkey : key = id <;> simp [hkey, Option.filter]
  rw [hfilter]
  split_ifs <;> rfl

theorem remove_eq_cut {x : RowName} (h : ¬s.IsInUse x) : s.remove x = .ok (s.cut x) := by
  obtain ⟨entity, id⟩ := x
  cases entity with
  | provider =>
    have hfree : ¬(s.methods.rows.any fun r => r.providerId = id) = true := by
      intro hany
      obtain ⟨r, hr, hid⟩ := List.any_eq_true.1 hany
      exact h (isInUse_provider.2 ⟨r, hr, of_decide_eq_true hid⟩)
    rw [remove, removeProvider, if_neg hfree]
    simp [cut, forgetting_eq_self]
  | method =>
    have hfree : ¬(s.customers.rows.any fun r => r.methodId = id) = true := by
      intro hany
      obtain ⟨r, hr, hid⟩ := List.any_eq_true.1 hany
      exact h (isInUse_method.2 ⟨r, hr, of_decide_eq_true hid⟩)
    rw [remove, removeMethod, if_neg hfree]
    simp [cut, forgetting_eq]
  | customer => simp [remove, removeCustomer, removeTransactions_eq, cut, forgetting_eq_self]
  | keyInfo => simp [remove, cut, forgetting_eq_self]
  | transaction => simp [remove, removeTransactions_eq, cut, forgetting_eq_self]
  | history => simp [remove, cut, forgetting_eq_self]
  | log => simp [remove, removeLog, cut, forgetting_eq_self]
  | details => simp [remove, cut, forgetting_eq_self]

/-- A row that is not in use is removed with all that goes with it, and nothing else is. -/
theorem remove_eq (hs : s.IsSound) {x : RowName} (h : ¬s.IsInUse x) :
    ∃ gone : RowName → Bool, (∀ y, gone y = true ↔ s.GoesWith x y) ∧ s.remove x = .ok (s.without gone) := by
  classical
  refine ⟨fun y => s.GoesWith x y, fun y => decide_eq_true_iff, ?_⟩
  rw [without_eq_cut hs fun y => decide_eq_true_iff]
  exact remove_eq_cut h

/-- Nothing that is in use goes with a row that is not. -/
theorem GoesWith.eq_of_isInUse {x y : RowName} (h : s.GoesWith x y) (hy : s.IsInUse y) : y = x := by
  cases hy with
  | provider hr => exact goesWith_provider.1 h
  | method hr => exact goesWith_method.1 h

/-- A removal keeps the references. -/
theorem IsSound.remove (hs : s.IsSound) {x : RowName} (h : s.remove x = .ok t) : t.IsSound := by
  have hfree : ¬s.IsInUse x := by
    intro huse
    obtain ⟨user, column, hfails⟩ := remove_of_isInUse huse
    rw [hfails] at h
    cases h
  obtain ⟨gone, hgone, hremoved⟩ := remove_eq hs hfree
  obtain rfl := Except.ok.inj (hremoved.symm.trans h)
  refine ⟨hs.keys.without gone, hs.intact.without ?_ ?_⟩
  · intro y z hyz hz
    exact (hgone y).2 (.head hyz ((hgone z).1 hz))
  · intro y huse
    by_contra hy
    rw [Bool.not_eq_false, hgone] at hy
    exact hfree (hy.eq_of_isInUse huse ▸ huse)

/-! ### Deletion by key -/

/-- The key of the row of a kind that a value denotes.  The row has to be there, and it has to be read. -/
def loadKey (s : Store) (entity : Entity) (v : Json.Value) : Except Failure Nat :=
  match entity with
  | .provider => (getRow .provider s.providers v).map ProviderRow.id
  | .method => (getRow .method s.methods v).map MethodRow.id
  | .customer => (getRow .customer s.customers v).map CustomerRow.id
  | .keyInfo => (getRow .keyInfo s.keyInfos v).map KeyInfoRow.id
  | .transaction => (s.getTransaction v).map TransactionRow.id
  | .history => (getRow .history s.histories v).map HistoryRow.id
  | .log => (s.getLog v).map LogRow.id
  | .details => (getRow .details s.details v).map DetailsRow.id

/-- To delete a row by its key is to load it and to remove it. -/
theorem delete_eq (s : Store) (entity : Entity) (v : Json.Value) :
    s.delete entity v = s.loadKey entity v >>= fun id => s.remove ⟨entity, id⟩ := by
  have hload {ρ : Type} (x : Except Failure ρ) (key : ρ → Nat) (f : Nat → Except Failure Store) :
      (x >>= fun r => f (key r)) = x.map key >>= f := by
    cases x <;> rfl
  cases entity with
  | provider => exact hload _ ProviderRow.id _
  | method => exact hload _ MethodRow.id _
  | customer => exact hload _ CustomerRow.id fun id => .ok (s.removeCustomer id)
  | keyInfo => exact hload _ KeyInfoRow.id fun id => s.remove ⟨.keyInfo, id⟩
  | transaction => exact hload _ TransactionRow.id fun id => s.remove ⟨.transaction, id⟩
  | history => exact hload _ HistoryRow.id fun id => s.remove ⟨.history, id⟩
  | log => exact hload _ LogRow.id fun id => .ok (s.removeLog id)
  | details => exact hload _ DetailsRow.id fun id => s.remove ⟨.details, id⟩

/-- The amounts of the row of a name can be read; only transactions and logs have any. -/
def IsReadable (s : Store) (x : RowName) : Prop :=
  match x.entity with
  | .transaction => ∀ r ∈ s.transactions.find? x.key, r.IsReadable
  | .log => ∀ r ∈ s.logs.find? x.key, r.IsReadable
  | _ => True

theorem keyOf?_int (id : Nat) : keyOf? (.int id) = .ok (some id) := by
  show Except.ok (if (0 : Int) ≤ id then some (id : Int).toNat else none) = _
  rw [if_pos (Int.natCast_nonneg id), Int.toNat_natCast]

theorem getRow_eq_ok {ρ : Type} [Keyed ρ] {entity : Entity} {t : Table ρ} {v : Json.Value} {r : ρ} :
    getRow entity t v = .ok r ↔ ∃ id, keyOf? v = .ok (some id) ∧ t.find? id = some r := by
  unfold getRow rowOf?
  cases hkey : keyOf? v with
  | error e => simp [Except.map, bind, Except.bind]
  | ok key =>
    cases key with
    | none => simp [Except.map, bind, Except.bind, throw, throwThe, MonadExceptOf.throw]
    | some id =>
      simp only [Except.map, bind, Except.bind, Option.bind]
      cases hrow : t.find? id <;> simp [hrow, throw, throwThe, MonadExceptOf.throw, pure, Except.pure]

/-- A key is loaded for a value that denotes it exactly when there is such a row, and it can be read. -/
theorem loadKey_eq_ok {entity : Entity} {v : Json.Value} {id : Nat} :
    s.loadKey entity v = .ok id ↔
      keyOf? v = .ok (some id) ∧ s.Has ⟨entity, id⟩ ∧ s.IsReadable ⟨entity, id⟩ := by
  have hplain {ρ : Type} [Keyed ρ] {t : Table ρ} :
      (getRow entity t v).map Keyed.key = .ok id ↔
        keyOf? v = .ok (some id) ∧ t.has id = true ∧ True := by
    simp only [map_eq_ok, getRow_eq_ok, and_true]
    constructor
    · rintro ⟨r, ⟨key, hkey, hr⟩, rfl⟩
      rw [Table.key_of_find? hr]
      exact ⟨hkey, Option.isSome_iff_exists.2 ⟨r, hr⟩⟩
    · rintro ⟨hkey, hhas⟩
      obtain ⟨r, hr⟩ := Option.isSome_iff_exists.1 hhas
      exact ⟨r, ⟨id, hkey, hr⟩, Table.key_of_find? hr⟩
  -- A row with amounts is read after it was found.
  have hread {ρ : Type} [Keyed ρ] {t : Table ρ} {read : ρ → Except Failure Unit} :
      (getRow entity t v >>= fun r => read r >>= fun _ => pure r).map Keyed.key = .ok id ↔
        keyOf? v = .ok (some id) ∧ t.has id = true ∧ ∀ r ∈ t.find? id, read r = .ok () := by
    simp only [map_eq_ok, bind_eq_ok, getRow_eq_ok, pure_eq_ok]
    constructor
    · rintro ⟨_, ⟨r, ⟨key, hkey, hr⟩, _, hreadable, rfl⟩, rfl⟩
      rw [Table.key_of_find? hr]
      refine ⟨hkey, Option.isSome_iff_exists.2 ⟨_, hr⟩, fun r' hr' => ?_⟩
      obtain rfl := Option.some.inj (hr.symm.trans hr')
      exact hreadable
    · rintro ⟨hkey, hhas, hreadable⟩
      obtain ⟨r, hr⟩ := Option.isSome_iff_exists.1 hhas
      exact ⟨r, ⟨r, ⟨id, hkey, hr⟩, (), hreadable r hr, rfl⟩, Table.key_of_find? hr⟩
  cases entity with
  | transaction =>
    refine hread.trans (and_congr_right fun _ => and_congr_right fun _ => forall₂_congr fun r _ => ?_)
    exact requireReadable_transaction
  | log =>
    exact hread.trans (and_congr_right fun _ => and_congr_right fun _ => forall₂_congr fun r _ => requireReadable_log)
  | _ => exact hplain

/-- No key is loaded for a row that is there and cannot be read: it is a transaction or a log, and one of its amounts
does not fit. -/
theorem loadKey_of_not_isReadable {entity : Entity} {v : Json.Value} {id : Nat} (hkey : keyOf? v = .ok (some id))
    (hhas : s.Has ⟨entity, id⟩) (h : ¬s.IsReadable ⟨entity, id⟩) :
    (entity = .transaction ∨ entity = .log) ∧ s.loadKey entity v = .error (.decimal .outOfBounds) := by
  -- The row is found, and then read before its key is known.
  have hfails {ρ : Type} [Keyed ρ] {t : Table ρ} {read : ρ → Except Failure Unit} {r : ρ} {e : Failure}
      (hr : t.find? id = some r) (hread : read r = .error e) :
      (getRow entity t v >>= fun r => read r >>= fun _ => pure r).map Keyed.key = .error e := by
    rw [getRow_eq_ok.2 ⟨id, hkey, hr⟩]
    show (read r >>= fun _ => pure r).map Keyed.key = _
    rw [hread]
    rfl
  cases entity with
  | transaction =>
    obtain ⟨r, hr⟩ := Option.isSome_iff_exists.1 hhas
    have hunreadable : ¬r.IsReadable := fun hreadable => h fun r' hr' => Option.some.inj (hr.symm.trans hr') ▸ hreadable
    exact ⟨.inl rfl,
      hfails hr (requireReadable_of_ne fun hread => hunreadable (requireReadable_transaction.1 hread))⟩
  | log =>
    obtain ⟨r, hr⟩ := Option.isSome_iff_exists.1 hhas
    have hunreadable : ¬r.IsReadable := fun hreadable => h fun r' hr' => Option.some.inj (hr.symm.trans hr') ▸ hreadable
    exact ⟨.inr rfl, hfails hr (requireReadable_of_ne fun hread => hunreadable (requireReadable_log.1 hread))⟩
  | _ => exact absurd trivial h

theorem delete_of_not_isReadable {entity : Entity} {v : Json.Value} {id : Nat} (hkey : keyOf? v = .ok (some id))
    (hhas : s.Has ⟨entity, id⟩) (h : ¬s.IsReadable ⟨entity, id⟩) :
    (entity = .transaction ∨ entity = .log) ∧ s.delete entity v = .error (.decimal .outOfBounds) := by
  obtain ⟨hentity, hload⟩ := loadKey_of_not_isReadable hkey hhas h
  rw [delete_eq, hload]
  exact ⟨hentity, rfl⟩

theorem IsSound.delete (hs : s.IsSound) {entity : Entity} {v : Json.Value}
    (h : s.delete entity v = .ok t) : t.IsSound := by
  rw [delete_eq] at h
  obtain ⟨id, _, hremoved⟩ := bind_eq_ok.1 h
  exact hs.remove hremoved

end Store

end CardPayments
