import CardPayments.Proofs.Failure
import CardPayments.Proofs.Store.Column
import CardPayments.Proofs.Store.Table
import CardPayments.Store.Write
import Mathlib.Data.List.Induction

/-!
# What a group of rows does to the store

`Write.apply_eq_ok` is the one description of writing: a store takes a group of rows exactly when the
group is fit for it (`Write.IsFit`), and then becomes the store with the rows of the group
(`Write.effect`).  All that a group does to the tables is read off `Write.effect`: it keeps the keys
fresh, it leaves every older row where it is, and of the older rows it only ever changes the payment
method that gets an owner.
-/

namespace CardPayments

namespace Store

variable {α : Type} {f : Unit → Except Failure α} {a : α}

theorem refuse_bind_eq_ok {fault : Option Failure} :
    (refuse fault >>= f) = .ok a ↔ fault = none ∧ f () = .ok a := by
  cases fault with
  | none => exact ⟨fun h => ⟨rfl, h⟩, fun h => h.2⟩
  | some e => exact ⟨nofun, nofun⟩

theorem requireRow_bind_eq_ok {found : Bool} :
    (requireRow found >>= f) = .ok a ↔ found = true ∧ f () = .ok a := by
  cases found with
  | true => exact ⟨fun h => ⟨rfl, h⟩, fun h => h.2⟩
  | false => exact ⟨nofun, nofun⟩

end Store

theorem documentFault?_eq_none {column : Text} {v : Json.Value} :
    documentFault? column v = none ↔ v.isStandard = true := by
  unfold documentFault?
  split_ifs with h
  · exact iff_of_true rfl h
  · exact iff_of_false nofun h

/-! ### Writing -/

namespace Write

/-- Does every column take its offer? -/
def AreSound (fields : List Field) : Prop := ∀ f ∈ fields, f.IsSound

/-- Is a group of rows fit to be written into a store? -/
def IsFit : Write → Store → Prop
  | method d, s =>
    AreSound d.fields ∧ (∀ r ∈ s.methods.rows, r.token ≠ (d.row s.methods.next).token) ∧
      s.providers.has (d.row s.methods.next).providerId = true
  | customer d now, s =>
    AreSound d.fields ∧ AreSound (creationStamp now).fields ∧
      s.methods.has (d.row s.customers.next).methodId = true
  | owner id who now, s => s.methods.has id = true → AreSound (ownerStamp who now).fields
  | transaction d notes now, s =>
    AreSound d.fields ∧
      (∃ cut, cutNotes notes = .ok cut ∧ AreSound (d.firstHistory cut now).fields) ∧
      s.customers.has (d.row s.transactions.next).customerId = true
  | log d request answer now, s =>
    AreSound d.fields ∧ AreSound (d.detailsStamp now).fields ∧ request.isStandard = true ∧
      answer.isStandard = true ∧ (((d.row s.logs.next).methodId.map s.methods.has).getD true) = true

/-- The key of the first row of a group that is written into a store; none when the payment method that
should get an owner is not there. -/
def key? : Write → Store → Option Nat
  | method _, s => some s.methods.next
  | customer _ _, s => some s.customers.next
  | owner id _ _, s => if s.methods.has id then some id else none
  | transaction _ _ _, s => some s.transactions.next
  | log _ _ _ _, s => some s.logs.next

/-- The store with the rows of a group. -/
def effect : Write → Store → Store
  | method d, s => { s with methods := s.methods.insert d.row }
  | customer d now, s =>
    { s with
      customers := s.customers.insert d.row
      keyInfos := s.keyInfos.insert (creationInfo s.customers.next now) }
  | owner id who now, s =>
    { s with methods := s.methods.modify id (·.stamped (ownerStamp who now)) }
  | transaction d notes now, s =>
    { s with
      transactions := s.transactions.insert d.row
      histories := s.histories.insert
        ((d.firstHistory ((cutNotes notes).toOption.getD .null) now).row s.transactions.next) }
  | log d request answer now, s =>
    { s with
      logs := s.logs.insert d.row
      details := s.details.insert (d.details request answer now s.logs.next) }

/-- The owner of a payment method is the one who caused the row and its last change, and the last change is now.  The
row keeps all else: its key, when it was written, the provider, the token and the status. -/
theorem stamped_ownerStamp (r : MethodRow) (who : Offer) (now : DateTime) :
    r.stamped (ownerStamp who now) =
      { r with audit := { r.audit with
          createdBy := who.integer, updatedBy := who.integer, updatedDate := Offer.instant now } } := rfl

variable {w : Write} {s t : Store} {key : Option Nat}

open Store CardPayments.Field

/-- A store takes a payment method with sound columns, a new token and a provider that is there. -/
theorem insertMethod_eq_ok {d : MethodDraft} {k : Nat} :
    s.insertMethod d = .ok (k, t) ↔
      (method d).IsFit s ∧ k = s.methods.next ∧ t = (method d).effect s := by
  simp only [insertMethod, refuse_bind_eq_ok, firstFault?_eq_none]
  split_ifs with h
  · obtain ⟨r, hr, hrow⟩ := List.any_eq_true.1 h
    refine iff_of_false nofun ?_
    rintro ⟨⟨_, hnew, _⟩, _⟩
    exact hnew r hr (of_decide_eq_true hrow)
  · rw [requireRow_bind_eq_ok, pure_eq_ok, Prod.mk.injEq]
    have hnew : ∀ r ∈ s.methods.rows, r.token ≠ (d.row s.methods.next).token := by
      intro r hr hrow
      exact h (List.any_eq_true.2 ⟨r, hr, decide_eq_true hrow⟩)
    exact ⟨fun ⟨hd, hp, hk⟩ => ⟨⟨hd, hnew, hp⟩, hk⟩, fun ⟨⟨hd, _, hp⟩, hk⟩ => ⟨hd, hp, hk⟩⟩

/-- A store takes a customer with sound columns whose payment method is there. -/
theorem insertCustomer_eq_ok {d : CustomerDraft} {now : DateTime} {k : Nat} :
    s.insertCustomer d now = .ok (k, t) ↔
      (customer d now).IsFit s ∧ k = s.customers.next ∧ t = (customer d now).effect s := by
  simp only [insertCustomer, refuse_bind_eq_ok, requireRow_bind_eq_ok, firstFault?_eq_none, pure_eq_ok,
    Prod.mk.injEq]
  exact ⟨fun ⟨hd, hi, hm, hk⟩ => ⟨⟨hd, hi, hm⟩, hk⟩, fun ⟨⟨hd, hi, hm⟩, hk⟩ => ⟨hd, hi, hm, hk⟩⟩

/-- A store takes an owner that can be stored, and does nothing when the payment method is not there. -/
theorem stampOwner_eq_ok {id : Nat} {who : Offer} {now : DateTime} :
    s.stampOwner id who now = .ok (key, t) ↔
      (owner id who now).IsFit s ∧ key = (owner id who now).key? s ∧
        t = (owner id who now).effect s := by
  unfold stampOwner
  split_ifs with h
  · simp only [refuse_bind_eq_ok, firstFault?_eq_none, pure_eq_ok, Prod.mk.injEq]
    rw [key?, if_pos h]
    exact ⟨fun ⟨hw, hk⟩ => ⟨fun _ => hw, hk⟩, fun ⟨hw, hk⟩ => ⟨hw h, hk⟩⟩
  · rw [pure_eq_ok, Prod.mk.injEq, key?, if_neg h, effect, Table.modify_of_not_has (by simpa using h)]
    exact ⟨fun hk => ⟨fun hm => absurd hm h, hk⟩, fun ⟨_, hk⟩ => hk⟩

/-- A store takes a transaction with sound columns and notes whose customer is there. -/
theorem insertTransaction_eq_ok {d : TransactionDraft} {notes : Json.Value} {now : DateTime} {k : Nat} :
    s.insertTransaction d notes now = .ok (k, t) ↔
      (transaction d notes now).IsFit s ∧ k = s.transactions.next ∧
        t = (transaction d notes now).effect s := by
  rw [insertTransaction, refuse_bind_eq_ok, bind_eq_ok]
  simp only [refuse_bind_eq_ok, requireRow_bind_eq_ok, firstFault?_eq_none, pure_eq_ok, Prod.mk.injEq]
  constructor
  · rintro ⟨hd, cut, hcut, hh, hc, hk, rfl⟩
    refine ⟨⟨hd, ⟨cut, hcut, hh⟩, hc⟩, hk, ?_⟩
    rw [effect, hcut]
    rfl
  · rintro ⟨⟨hd, ⟨cut, hcut, hh⟩, hc⟩, hk, rfl⟩
    refine ⟨hd, cut, hcut, hh, hc, hk, ?_⟩
    rw [effect, hcut]
    rfl

/-- A store takes a log with sound columns and standard documents whose payment method is there. -/
theorem insertLog_eq_ok {d : LogDraft} {request answer : Json.Value} {now : DateTime} {k : Nat} :
    s.insertLog d request answer now = .ok (k, t) ↔
      (log d request answer now).IsFit s ∧ k = s.logs.next ∧
        t = (log d request answer now).effect s := by
  simp only [insertLog, refuse_bind_eq_ok, requireRow_bind_eq_ok, firstFault?_eq_none,
    documentFault?_eq_none, pure_eq_ok, Prod.mk.injEq]
  exact ⟨fun ⟨hd, hs, hq, ha, hm, hk⟩ => ⟨⟨hd, hs, hq, ha, hm⟩, hk⟩,
    fun ⟨⟨hd, hs, hq, ha, hm⟩, hk⟩ => ⟨hd, hs, hq, ha, hm, hk⟩⟩

/-- A store takes a group of rows exactly when the group is fit for it, and then has its rows. -/
theorem apply_eq_ok :
    w.apply s = .ok (key, t) ↔ w.IsFit s ∧ key = w.key? s ∧ t = w.effect s := by
  -- Every group but that of an owner is one of new rows, whose key is known.
  have hsome {x : Except Failure (Nat × Store)} {P : Prop} {k : Nat} {s' : Store}
      (h : ∀ k' t', x = .ok (k', t') ↔ P ∧ k' = k ∧ t' = s') :
      x.map (fun r => (some r.1, r.2)) = .ok (key, t) ↔ P ∧ key = some k ∧ t = s' := by
    rw [map_eq_ok]
    constructor
    · rintro ⟨⟨k', t'⟩, hx, hr⟩
      obtain ⟨rfl, rfl⟩ := Prod.mk.inj hr
      obtain ⟨hP, rfl, ht⟩ := (h k' t').1 hx
      exact ⟨hP, rfl, ht⟩
    · rintro ⟨hP, rfl, rfl⟩
      exact ⟨(k, t), (h k t).2 ⟨hP, rfl, rfl⟩, rfl⟩
  cases w with
  | method d => exact hsome fun _ _ => insertMethod_eq_ok
  | customer d now => exact hsome fun _ _ => insertCustomer_eq_ok
  | owner id who now => exact stampOwner_eq_ok
  | transaction d notes now => exact hsome fun _ _ => insertTransaction_eq_ok
  | log d request answer now => exact hsome fun _ _ => insertLog_eq_ok

/-- A group of rows that is written without a key, the owner of a payment method that is not there, changes
nothing. -/
theorem effect_of_key?_eq_none (h : w.key? s = none) : w.effect s = s := by
  cases w with
  | owner id who now =>
    have hgone : s.methods.has id = false := by
      by_contra hthere
      rw [Bool.not_eq_false] at hthere
      rw [key?, if_pos hthere] at h
      cases h
    rw [effect, Table.modify_of_not_has hgone]
  | _ => cases h

/-! ### What a group keeps -/

/-- Does a group change none of the payment methods with a smaller key? -/
def SparesBelow (n : Nat) : Write → Prop
  | owner id _ _ => n ≤ id
  | _ => True

theorem key_stamped (r : MethodRow) (stamp : AuditDraft) :
    Keyed.key (r.stamped stamp) = Keyed.key r := rfl

/-- A payment method stays. -/
theorem has_methods_effect {id : Nat} (h : s.methods.has id = true) :
    (w.effect s).methods.has id = true := by
  cases w with
  | method d => exact Table.has_insert.2 (.inl h)
  | owner key who now =>
    show (s.methods.modify key (·.stamped (ownerStamp who now))).has id = true
    rw [Table.has_modify fun r => key_stamped r (ownerStamp who now)]
    exact h
  | _ => exact h

/-- A billing customer stays. -/
theorem has_customers_effect {id : Nat} (h : s.customers.has id = true) :
    (w.effect s).customers.has id = true := by
  cases w with
  | customer d now => exact Table.has_insert.2 (.inl h)
  | _ => exact h

/-- The next payment method keeps a key of its own. -/
theorem isFresh_methods_effect (h : s.methods.IsFresh) : (w.effect s).methods.IsFresh := by
  cases w with
  | method d => exact h.insert rfl
  | owner key who now => exact h.modify fun r => key_stamped r (ownerStamp who now)
  | _ => exact h

end Write

/-! ### Store.Extends -/

namespace Store

/-- Another store has all rows of a store as they are, and in every table perhaps more behind them; the
providers are the same. -/
structure Extends (s t : Store) : Prop where
  providers : t.providers = s.providers
  methods : s.methods.rows <+: t.methods.rows
  customers : s.customers.rows <+: t.customers.rows
  keyInfos : s.keyInfos.rows <+: t.keyInfos.rows
  transactions : s.transactions.rows <+: t.transactions.rows
  histories : s.histories.rows <+: t.histories.rows
  logs : s.logs.rows <+: t.logs.rows
  details : s.details.rows <+: t.details.rows

variable {s t : Store}

theorem Extends.refl (s : Store) : s.Extends s :=
  ⟨rfl, List.prefix_rfl, List.prefix_rfl, List.prefix_rfl, List.prefix_rfl, List.prefix_rfl,
    List.prefix_rfl, List.prefix_rfl⟩

/-- A group of rows leaves all rows of an earlier store as they are, as long as only a payment method
that came later gets an owner. -/
theorem Extends.effect (h : s.Extends t) (hs : s.methods.IsFresh) {w : Write}
    (hw : w.SparesBelow s.methods.next) : s.Extends (w.effect t) := by
  cases w with
  | method d => exact { h with methods := h.methods.trans (List.prefix_append _ _) }
  | customer d now =>
    exact { h with
      customers := h.customers.trans (List.prefix_append _ _)
      keyInfos := h.keyInfos.trans (List.prefix_append _ _) }
  | owner id who now =>
    refine { h with methods := ?_ }
    obtain ⟨later, hlater⟩ := h.methods
    -- The rows of the earlier store have smaller keys, and so none of them is the one that changes.
    have hold : (s.methods.rows.map fun r =>
        if Keyed.key r = id then r.stamped (ownerStamp who now) else r) = s.methods.rows := by
      refine (List.map_congr_left fun r hr => if_neg ?_).trans (List.map_id' _)
      exact Nat.ne_of_lt (Nat.lt_of_lt_of_le (hs r hr) hw)
    show s.methods.rows <+: t.methods.rows.map _
    rw [← hlater, List.map_append, hold]
    exact List.prefix_append _ _
  | transaction d notes now =>
    exact { h with
      transactions := h.transactions.trans (List.prefix_append _ _)
      histories := h.histories.trans (List.prefix_append _ _) }
  | log d request answer now =>
    exact { h with
      logs := h.logs.trans (List.prefix_append _ _)
      details := h.details.trans (List.prefix_append _ _) }

/-! ### Several groups -/

/-- The store with the rows of several groups, one after the other. -/
def after (s : Store) (ws : List Write) : Store := ws.foldl (fun t w => w.effect t) s

@[simp] theorem after_nil : s.after [] = s := rfl

@[simp] theorem after_append {ws ws' : List Write} :
    s.after (ws ++ ws') = (s.after ws).after ws' := List.foldl_append

@[simp] theorem after_singleton {w : Write} : s.after [w] = w.effect s := rfl

/-- Several groups leave all rows as they are, as long as only a payment method that comes with them
gets an owner. -/
theorem extends_after (hs : s.methods.IsFresh) {ws : List Write}
    (hws : ∀ w ∈ ws, w.SparesBelow s.methods.next) : s.Extends (s.after ws) := by
  -- From the end, so that the store of the start stays fixed while the last group comes to it.
  induction ws using List.reverseRecOn with
  | nil => exact .refl s
  | append_singleton ws w ih =>
    rw [List.forall_mem_append, List.forall_mem_singleton] at hws
    rw [after_append, after_singleton]
    exact (ih hws.1).effect hs hws.2

/-- A payment method stays, whatever groups of rows follow. -/
theorem has_methods_after {ws : List Write} {id : Nat} (h : s.methods.has id = true) :
    (s.after ws).methods.has id = true := by
  induction ws generalizing s with
  | nil => exact h
  | cons w ws ih => exact ih (Write.has_methods_effect h)

/-- A store takes several groups of rows, one after the other. -/
def Takes (s : Store) : List Write → Prop
  | [] => True
  | w :: ws => w.IsFit s ∧ (w.effect s).Takes ws

theorem takes_append {ws ws' : List Write} :
    s.Takes (ws ++ ws') ↔ s.Takes ws ∧ (s.after ws).Takes ws' := by
  induction ws generalizing s with
  | nil => exact (iff_of_eq (true_and _)).symm
  | cons w ws ih =>
    rw [List.cons_append, Takes, ih, Takes, and_assoc]
    rfl

theorem takes_concat {ws : List Write} {w : Write} :
    s.Takes (ws ++ [w]) ↔ s.Takes ws ∧ w.IsFit (s.after ws) := by
  rw [takes_append, Takes, Takes, and_true]

end Store

end CardPayments
