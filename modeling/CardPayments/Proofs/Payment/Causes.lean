import CardPayments.Proofs.Payment.Resolution

/-!
# What payments never fail for

A payment whose method is gone when it is to get its owner has a failure of its own.  No column, no group
of rows and no reply of the provider is ever refused with it (`Write.findsMethod_apply`), and the method
of a payment is there as soon as the payment has written it, so that no payment fails that way
(`PaymentService.process_findsMethod`).
-/

namespace CardPayments

/-- A failure for want of the payment method. -/
def Failure.IsMethodNotFound : Failure → Prop
  | .methodNotFound _ => True
  | _ => False

/-- A computation does not fail for want of the payment method. -/
def FindsMethod {α : Type} (x : Except Failure α) : Prop := ∀ e, x = .error e → ¬e.IsMethodNotFound

section

variable {α β δ : Type} {x : Except Failure α}

@[simp] theorem findsMethod_ok {a : α} : FindsMethod (.ok a : Except Failure α) := nofun

@[simp] theorem findsMethod_error {e : Failure} :
    FindsMethod (.error e : Except Failure α) ↔ ¬e.IsMethodNotFound := by
  constructor
  · intro h
    exact h e rfl
  · rintro h _ ⟨⟩
    exact h

theorem FindsMethod.bind {f : α → Except Failure β} (hx : FindsMethod x) (hf : ∀ a, FindsMethod (f a)) :
    FindsMethod (x >>= f) := by
  cases x with
  | ok a => exact hf a
  | error e => exact findsMethod_error.2 (findsMethod_error.1 hx)

theorem findsMethod_map {f : α → β} : FindsMethod (x.map f) ↔ FindsMethod x := by
  cases x with
  | ok a => exact iff_of_true findsMethod_ok findsMethod_ok
  | error e => exact findsMethod_error.trans findsMethod_error.symm

theorem findsMethod_mapError {y : Except δ α} {f : δ → Failure} (hf : ∀ e, ¬(f e).IsMethodNotFound) :
    FindsMethod (y.mapError f) := by
  cases y with
  | ok a => exact findsMethod_ok
  | error e => exact findsMethod_error.2 (hf e)

end

/-! ### Columns -/

namespace Offer

variable {o : Offer} {column : Text}

theorem findsMethod_readInteger : FindsMethod (o.readInteger column) := by
  unfold readInteger
  split
  · exact findsMethod_ok
  · split <;> simp [Failure.IsMethodNotFound]
  · exact findsMethod_error.2 id
  · exact findsMethod_error.2 id

theorem findsMethod_readBoolean : FindsMethod o.readBoolean := by
  unfold readBoolean
  split <;> try split_ifs
  all_goals simp [readBoolean.notBoolean, Failure.IsMethodNotFound]

theorem findsMethod_readAmount : FindsMethod o.readAmount := by
  unfold readAmount
  split <;> try split
  all_goals simp [readAmount.notDecimal, Failure.IsMethodNotFound]

theorem findsMethod_toUniversal {d : DateTime} : FindsMethod (toUniversal d) := by
  unfold toUniversal
  split <;> simp [Failure.IsMethodNotFound]

theorem findsMethod_readTimeText {t : Text} : FindsMethod (readTimeText t) := by
  unfold readTimeText
  split <;> try split <;> try split
  all_goals simp [Failure.IsMethodNotFound]

theorem findsMethod_readInstant : FindsMethod o.readInstant := by
  unfold readInstant
  split
  · exact findsMethod_ok
  · exact findsMethod_readTimeText.bind fun d => findsMethod_toUniversal.bind fun t => findsMethod_ok
  · exact findsMethod_error.2 id
  · exact findsMethod_error.2 id
  · exact findsMethod_map.2 findsMethod_toUniversal

theorem not_isMethodNotFound_of_textFault {t : Text} {e : Failure} (h : textFault t = some e) :
    ¬e.IsMethodNotFound := by
  unfold textFault at h
  dsimp only at h
  split at h <;> cases h
  exact id

end Offer

namespace Field

/-- Nothing that is wrong with a column is a want of the payment method. -/
structure FindsMethod (f : Field) : Prop where
  unreadable : ∀ e, f.unreadable = some e → ¬e.IsMethodNotFound
  unstorable : ∀ e, f.unstorable = some e → ¬e.IsMethodNotFound

variable {name : Text} {required : Bool} {o : Offer}

theorem not_isMethodNotFound_of_failureOf {α : Type} {x : Except Failure α} {e : Failure}
    (hx : CardPayments.FindsMethod x) (h : failureOf x = some e) : ¬e.IsMethodNotFound := by
  cases x with
  | ok a => cases h
  | error e' =>
    obtain rfl := Option.some.inj h
    exact findsMethod_error.1 hx

theorem not_isMethodNotFound_of_fits {n : Option Int} {e : Failure}
    (h : (n.bind fun n => if Offer.fits n then none else some .integerTooLarge) = some e) :
    ¬e.IsMethodNotFound := by
  obtain ⟨n, _, h⟩ := Option.bind_eq_some_iff.1 h
  split_ifs at h
  obtain rfl := Option.some.inj h
  exact id

@[simp] theorem findsMethod_text : (text name required o).FindsMethod where
  unreadable := nofun
  unstorable := by
    intro e h
    obtain ⟨t, _, h⟩ := Option.bind_eq_some_iff.1 h
    exact Offer.not_isMethodNotFound_of_textFault h

@[simp] theorem findsMethod_integer : (integer name required o).FindsMethod where
  unreadable := fun _ => not_isMethodNotFound_of_failureOf Offer.findsMethod_readInteger
  unstorable := fun _ => not_isMethodNotFound_of_fits

@[simp] theorem findsMethod_reference : (reference name required o).FindsMethod where
  unreadable := fun _ => not_isMethodNotFound_of_failureOf Offer.findsMethod_readInteger
  unstorable := fun _ => not_isMethodNotFound_of_fits

@[simp] theorem findsMethod_boolean : (boolean name required o).FindsMethod where
  unreadable := fun _ => not_isMethodNotFound_of_failureOf Offer.findsMethod_readBoolean
  unstorable := nofun

@[simp] theorem findsMethod_amount : (amount name required o).FindsMethod where
  unreadable := fun _ => not_isMethodNotFound_of_failureOf Offer.findsMethod_readAmount
  unstorable := nofun

@[simp] theorem findsMethod_instant : (instant name required o).FindsMethod where
  unreadable := fun _ => not_isMethodNotFound_of_failureOf Offer.findsMethod_readInstant
  unstorable := nofun

/-- The first thing that is wrong with the columns of a row is no want of the payment method. -/
theorem findsMethod_refuse_firstFault? {entity : Entity} {fields : List Field}
    (hfields : ∀ f ∈ fields, f.FindsMethod) :
    CardPayments.FindsMethod (Store.refuse (firstFault? entity fields)) := by
  cases h : firstFault? entity fields with
  | none => exact findsMethod_ok
  | some e =>
    rw [Store.refuse, findsMethod_error]
    unfold firstFault? at h
    split at h
    · next hread =>
      obtain rfl := Option.some.inj h
      obtain ⟨f, hf, hfault⟩ := List.exists_of_findSome?_eq_some hread
      exact (hfields f hf).unreadable _ hfault
    · split at h
      · next hstore =>
        obtain rfl := Option.some.inj h
        obtain ⟨f, hf, hfault⟩ := List.exists_of_findSome?_eq_some hstore
        exact (hfields f hf).unstorable _ hfault
      · obtain ⟨f, _, rfl⟩ := Option.map_eq_some_iff.1 h
        exact id

end Field

/-! ### Groups of rows -/

namespace Store

variable {s : Store}

theorem findsMethod_requireRow {found : Bool} : FindsMethod (requireRow found) := by
  unfold requireRow
  split_ifs <;> simp [Failure.IsMethodNotFound]

theorem findsMethod_refuse_documentFault? {column : Text} {v : Json.Value} :
    FindsMethod (refuse (documentFault? column v)) := by
  unfold documentFault?
  split_ifs <;> simp [refuse, Failure.IsMethodNotFound]

theorem findsMethod_cutNotes {notes : Json.Value} : FindsMethod (cutNotes notes) := by
  unfold cutNotes
  split_ifs
  · unfold Json.Value.beginning
    split <;> simp [Failure.IsMethodNotFound]
  · exact findsMethod_ok

theorem findsMethod_askCustomer {name email : Text} : FindsMethod (s.askCustomer name email) := by
  unfold askCustomer
  split
  · next e h =>
    rw [findsMethod_error]
    rcases Option.or_eq_some_iff.1 h with h | ⟨_, h⟩ <;>
      exact Offer.not_isMethodNotFound_of_textFault h
  · exact findsMethod_ok

end Store

/-- A group of rows is never refused for want of the payment method. -/
theorem Write.findsMethod_apply {w : Write} {s : Store} : FindsMethod (w.apply s) := by
  open Store in
  cases w with
  | method d =>
    refine findsMethod_map.2 ((Field.findsMethod_refuse_firstFault? ?_).bind fun _ => ?_)
    · simp [MethodDraft.fields, AuditDraft.fields]
    · dsimp only
      split_ifs
      · exact findsMethod_error.2 id
      · exact findsMethod_requireRow.bind fun _ => findsMethod_ok
  | customer d now =>
    refine findsMethod_map.2 ((Field.findsMethod_refuse_firstFault? ?_).bind fun _ =>
      (Field.findsMethod_refuse_firstFault? ?_).bind fun _ => findsMethod_requireRow.bind fun _ =>
        findsMethod_ok)
    · simp [CustomerDraft.fields, AuditDraft.fields]
    · simp [AuditDraft.fields]
  | owner id who now =>
    show FindsMethod (s.stampOwner id who now)
    unfold stampOwner
    split_ifs
    · refine (Field.findsMethod_refuse_firstFault? ?_).bind fun _ => findsMethod_ok
      simp [AuditDraft.fields]
    · exact findsMethod_ok
  | transaction d notes now =>
    refine findsMethod_map.2 ((Field.findsMethod_refuse_firstFault? ?_).bind fun _ =>
      findsMethod_cutNotes.bind fun _ => (Field.findsMethod_refuse_firstFault? ?_).bind fun _ =>
        findsMethod_requireRow.bind fun _ => findsMethod_ok)
    · simp [TransactionDraft.fields, AuditDraft.fields]
    · simp [HistoryDraft.fields, AuditDraft.fields]
  | log d request answer now =>
    refine findsMethod_map.2 ((Field.findsMethod_refuse_firstFault? ?_).bind fun _ =>
      (Field.findsMethod_refuse_firstFault? ?_).bind fun _ => findsMethod_refuse_documentFault?.bind
        fun _ => findsMethod_refuse_documentFault?.bind fun _ => findsMethod_requireRow.bind fun _ =>
          findsMethod_ok)
    · simp [LogDraft.fields, AuditDraft.fields]
    · simp [AuditDraft.fields]

/-! ### Replies -/

namespace Provider

open Account

theorem findsMethod_answerOf {reply : Reply} : FindsMethod (answerOf reply) := by
  unfold answerOf
  split
  · exact findsMethod_error.2 id
  · split_ifs
    · exact findsMethod_mapError fun _ => id
    · exact findsMethod_error.2 id

theorem findsMethod_fieldsOf {v : Json.Value} : FindsMethod (fieldsOf v) := by
  cases v <;> simp [fieldsOf, Failure.IsMethodNotFound]

theorem findsMethod_readDate {v : Json.Value} : FindsMethod (readDate v) := by
  unfold readDate
  split_ifs
  · exact findsMethod_mapError fun _ => id
  · exact findsMethod_ok

theorem findsMethod_readAmount {v : Json.Value} : FindsMethod (readAmount v) := by
  unfold readAmount
  split
  · exact findsMethod_ok
  · exact findsMethod_ok
  · exact findsMethod_mapError fun _ => id

theorem findsMethod_customerOf {reply : Reply} : FindsMethod (customerOf reply) :=
  findsMethod_answerOf.bind fun _ => findsMethod_fieldsOf.bind fun _ =>
    findsMethod_readDate.bind fun _ => findsMethod_ok

theorem findsMethod_cardOf {session : Json.Value} {reply : Reply} : FindsMethod (cardOf session reply) :=
  findsMethod_answerOf.bind fun _ => findsMethod_fieldsOf.bind fun _ =>
    findsMethod_readDate.bind fun _ => findsMethod_ok

theorem findsMethod_chargeOf {reply : Reply} : FindsMethod (chargeOf reply) := by
  refine findsMethod_answerOf.bind fun answer => findsMethod_fieldsOf.bind fun fields => ?_
  refine findsMethod_readAmount.bind fun amount => findsMethod_readDate.bind fun date => ?_
  split_ifs
  · exact findsMethod_fieldsOf.bind fun _ => findsMethod_ok
  · exact findsMethod_ok

end Provider

/-! ### Payments -/

namespace PaymentService

namespace Attempt

open Store Provider

variable {a : Attempt} {s t : Store} {g : Stage} {ds : List Deed} {r : Except Failure PaymentResult}

theorem findsMethod_statusText {v : Json.Value} : FindsMethod (statusText v) := by
  cases v <;> simp [statusText, Failure.IsMethodNotFound]

theorem findsMethod_of_refused {w : Write} {e : Failure}
    (h : s.Undergoes (.write w (.error e) :: ds) t) :
    FindsMethod (.error e : Except Failure PaymentResult) := by
  have hrefused := Write.findsMethod_apply (w := w) (s := s)
  rw [(undergoes_refused.1 h).1, findsMethod_error] at hrefused
  exact findsMethod_error.2 hrefused

theorem findsMethod_of_reply {α : Type} {x : Except Failure α} {e : Failure} (hx : FindsMethod x)
    (h : x = .error e) : FindsMethod (.error e : Except Failure PaymentResult) := by
  rw [h, findsMethod_error] at hx
  exact findsMethod_error.2 hx

/-- A payment does not end for want of its method, which is there from the first step on. -/
theorem Halts.findsMethod (h : a.Halts g ds r) (hg : g.IsReached a s)
    (ht : (s.after (a.written g)).Undergoes ds t) : FindsMethod r := by
  cases h with
  | methodRefused token e => exact findsMethod_of_refused ht
  | lookupRefused e =>
    exact findsMethod_of_reply findsMethod_askCustomer (undergoes_lookup.1 ht).1.symm
  | customerFailed reply hreply => exact findsMethod_of_reply findsMethod_customerOf hreply
  | customerRefused reply e hreply =>
    exact findsMethod_of_refused (undergoes_call.1 (undergoes_lookup.1 ht).2)
  | ownerRefused e => exact findsMethod_of_refused ht
  | methodGone =>
    obtain ⟨_, hkey, _⟩ := undergoes_written.1 ht
    rw [ownerWrite, Write.key?, if_pos hg.has_method_known] at hkey
    cases hkey
  | cardFailed reply hreply => exact findsMethod_of_reply findsMethod_cardOf hreply
  | tokenRefused reply e hreply => exact findsMethod_of_refused (undergoes_call.1 ht)
  | chargeFailed reply hreply => exact findsMethod_of_reply findsMethod_chargeOf hreply
  | statusFailed reply hreply hstatus => exact findsMethod_of_reply findsMethod_statusText hstatus
  | logRefused reply e hreply hstatus => exact findsMethod_of_refused (undergoes_call.1 ht)
  | chargeRefused e => exact findsMethod_of_refused ht
  | paid => exact findsMethod_ok

end Attempt

variable {s : PaymentService} {now : DateTime} {request : PaymentRequest}

theorem findsMethod_attempt : FindsMethod (s.attempt now request) :=
  (findsMethod_mapError fun _ => id).bind fun _ => (findsMethod_mapError fun _ => id).bind fun _ =>
    findsMethod_ok

/-- A payment at a desk where nobody interferes does not fail for want of its method. -/
theorem process_findsMethod (d : Desk) (hd : d.methodVanishes = false) :
    FindsMethod (d.run (s.process now request)).1 := by
  rcases s.process_course now request d hd with
    ⟨e, he, _, hr, _⟩ | ⟨a, g, before, last, _, _, hhalts, _, hreached, _, hlast, hfinal⟩
  · rw [hr]
    have hattempt : FindsMethod (s.attempt now request) := findsMethod_attempt
    rw [he, findsMethod_error] at hattempt
    exact findsMethod_error.2 hattempt
  · rw [hfinal] at hlast
    exact hhalts.findsMethod hreached hlast

end PaymentService

end CardPayments
