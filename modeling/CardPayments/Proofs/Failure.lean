import CardPayments.Failure
import Mathlib.Data.List.Forall2
import Mathlib.Tactic.Common

/-!
# Computations that may fail

A computation in several parts succeeds when all of them do, one after the other.
-/

namespace CardPayments

variable {ε α β : Type} {x : Except ε α}

theorem bind_eq_ok {f : α → Except ε β} {b : β} :
    (x >>= f) = .ok b ↔ ∃ a, x = .ok a ∧ f a = .ok b := by
  constructor
  · intro h
    cases x with
    | ok a => exact ⟨a, rfl, h⟩
    | error e => cases h
  · rintro ⟨a, rfl, h⟩
    exact h

/-- What comes of two parts one after the other has a property if the failure of the first one has it, and whatever
comes of the second. -/
theorem bind_cases {f : α → Except ε β} {P : Except ε β → Prop} (herror : ∀ e, x = .error e → P (.error e))
    (hok : ∀ a, x = .ok a → P (f a)) : P (x >>= f) := by
  cases x with
  | error e => exact herror e rfl
  | ok a => exact hok a rfl

theorem map_eq_ok {f : α → β} {b : β} : x.map f = .ok b ↔ ∃ a, x = .ok a ∧ f a = b := by
  constructor
  · intro h
    cases x with
    | ok a => exact ⟨a, rfl, Except.ok.inj h⟩
    | error e => cases h
  · rintro ⟨a, rfl, rfl⟩
    rfl

/-- Naming the cause of a failure otherwise does not make a success. -/
theorem mapError_eq_ok {δ : Type} {f : ε → δ} {a : α} :
    x.mapError f = .ok a ↔ x = .ok a := by
  constructor
  · intro h
    cases x with
    | ok b => exact congrArg _ (Except.ok.inj h)
    | error e => cases h
  · rintro rfl
    rfl

theorem mapError_eq_error {δ : Type} {f : ε → δ} {e : δ} :
    x.mapError f = .error e ↔ ∃ e', x = .error e' ∧ f e' = e := by
  constructor
  · intro h
    cases x with
    | ok a => cases h
    | error e' => exact ⟨e', rfl, Except.error.inj h⟩
  · rintro ⟨e', rfl, rfl⟩
    rfl

theorem pure_eq_ok {a b : α} : (pure a : Except ε α) = .ok b ↔ b = a :=
  ⟨fun h => (Except.ok.inj h).symm, fun h => congrArg _ h.symm⟩

theorem isOk_iff : x.isOk = true ↔ ∃ a, x = .ok a := by
  constructor
  · intro h
    cases x with
    | ok a => exact ⟨a, rfl⟩
    | error e => cases h
  · rintro ⟨a, rfl⟩
    rfl

/-- If the second part succeeds or fails whatever the first one gives, both have to succeed. -/
theorem isOk_bind_of {f : α → Except ε β} {ok : Bool} (h : ∀ a, (f a).isOk = ok) :
    (x >>= f).isOk = (x.isOk && ok) := by
  cases x with
  | ok a => exact h a
  | error e => rfl

theorem isOk_mapM {f : α → Except ε β} {l : List α} : (l.mapM f).isOk = l.all fun a => (f a).isOk := by
  induction l with
  | nil => rfl
  | cons a l ih =>
    rw [List.mapM_cons, List.all_cons, ← ih, ← Bool.and_true (l.mapM f).isOk]
    exact isOk_bind_of fun _ => isOk_bind_of fun _ => rfl

/-- What a list is mapped to is what its items are, one after the other. -/
theorem mapM_eq_ok {f : α → Except ε β} {l : List α} {l' : List β} :
    l.mapM f = .ok l' ↔ List.Forall₂ (fun a b => f a = .ok b) l l' := by
  induction l generalizing l' with
  | nil => rw [List.mapM_nil, pure_eq_ok, List.forall₂_nil_left_iff]
  | cons a l ih =>
    simp only [List.mapM_cons, bind_eq_ok, pure_eq_ok, List.forall₂_cons_left_iff, ih]
    constructor
    · rintro ⟨b, hb, l', hl', rfl⟩
      exact ⟨b, l', hb, hl', rfl⟩
    · rintro ⟨b, l', hb, hl', rfl⟩
      exact ⟨b, hb, l', hl', rfl⟩

end CardPayments
