import CardPayments.Proofs.Text.Storable
import CardPayments.Store.Column
import Mathlib.Data.List.TakeWhile

/-!
# What a column takes

A column takes an offer when the offer can be converted, the result can be stored, and there is one if
there has to be (`Field.IsSound`).  `Field.firstFault?_eq_none` says that nothing is wrong with the
columns of a row exactly when each of them takes its offer; the lemmas after it say what that means for
the offers that payments make.
-/

namespace CardPayments

open Json

/-! ### Offers -/

namespace Offer

variable {o : Offer}

/-- Nothing is wrong with a text that can be stored, and only with such a text. -/
theorem textFault_eq_none {t : Text} : textFault t = none ↔ t.IsStorable := by
  let p (c : CodePoint) : Bool := !c.isSurrogate
  have hdrop : t.drop (t.takeWhile p).length = t.dropWhile p :=
    calc t.drop (t.takeWhile p).length
        = (t.takeWhile p ++ t.dropWhile p).drop (t.takeWhile p).length := by
          rw [List.takeWhile_append_dropWhile]
      _ = t.dropWhile p := List.drop_left
  have hstorable : t.IsStorable ↔ t.dropWhile p = [] := by
    rw [List.dropWhile_eq_nil_iff]
    simp only [Text.IsStorable, p, Bool.not_eq_true']
  rw [hstorable, ← hdrop]
  unfold textFault
  dsimp only
  split
  · next hnil => exact iff_of_true rfl hnil
  · next hcons => exact iff_of_false (Option.some_ne_none _) (hcons ▸ List.cons_ne_nil _ _)

/-- Can what a column of texts would hold be stored? -/
def HasStorableText (o : Offer) : Prop := ∀ t, o.text = some t → t.IsStorable

/-- A value can be stored in a column of texts when its display can. -/
@[simp] theorem hasStorableText_value {v : Value} :
    (value v).HasStorableText ↔ v.display.IsStorable := by
  cases v with
  | null => simp [HasStorableText, text, Value.display, Value.quoted]
  | _ => simp only [HasStorableText, text, Option.some.injEq, forall_eq']

@[simp] theorem hasStorableText_null : null.HasStorableText := nofun

/-- A column of texts is only empty for nothing. -/
@[simp] theorem isSome_text_value {v : Value} : (value v).text.isSome = true ↔ v ≠ .null := by
  cases v <;> simp [text]

/-- A column of texts holds what a value displays as, unless the value is null. -/
theorem text_value {v : Value} (h : v ≠ .null) : (value v).text = some v.display := by
  cases v with
  | null => exact absurd rfl h
  | _ => rfl

@[simp] theorem readInteger_int {column : Text} {n : Int} :
    (value (.int n)).readInteger column = .ok (some n) := rfl

@[simp] theorem integer_int {n : Int} : (value (.int n)).integer = some n := rfl

@[simp] theorem text_null : null.text = none := rfl

@[simp] theorem text_text {t : Text} : (value (.text t)).text = some t := rfl

end Offer

/-! ### Fields -/

namespace Field

/-- A column takes its offer. -/
structure IsSound (f : Field) : Prop where
  /-- The offer can be converted. -/
  readable : f.unreadable = none
  /-- The result can be stored. -/
  storable : f.unstorable = none
  /-- There is a result if there has to be one. -/
  present : f.required = true → f.isNull = false

/-- Nothing is wrong with the columns of a row exactly when each of them takes its offer. -/
theorem firstFault?_eq_none {entity : Entity} {fields : List Field} :
    firstFault? entity fields = none ↔ ∀ f ∈ fields, f.IsSound := by
  unfold firstFault?
  constructor
  · intro h f hf
    -- The three looks one after the other; in the last one references come after all else.
    split at h
    · cases h
    · next hread =>
      split at h
      · cases h
      · next hstore =>
        rw [Option.map_eq_none_iff, List.find?_eq_none] at h
        refine ⟨List.findSome?_eq_none_iff.1 hread f hf, List.findSome?_eq_none_iff.1 hstore f hf, ?_⟩
        have hmem : f ∈ fields.filter (!·.refers) ++ fields.filter (·.refers) := by
          rw [List.mem_append, List.mem_filter, List.mem_filter]
          cases hr : f.refers <;> simp [hf]
        intro hreq
        simpa [hreq] using h f hmem
  · intro h
    rw [List.findSome?_eq_none_iff.2 fun f hf => (h f hf).readable]
    dsimp only
    rw [List.findSome?_eq_none_iff.2 fun f hf => (h f hf).storable]
    dsimp only
    rw [Option.map_eq_none_iff, List.find?_eq_none]
    intro f hf
    have hf : f ∈ fields := by
      rw [List.mem_append, List.mem_filter, List.mem_filter] at hf
      rcases hf with hf | hf <;> exact hf.1
    intro hnull
    rw [Bool.and_eq_true] at hnull
    rw [(h f hf).present hnull.1] at hnull
    cases hnull.2

/-! ### Kinds of columns -/

section Kinds

variable {name : Text} {required : Bool} {o : Offer} {n : Int} {d : Decimal} {t : DateTime}

theorem isSound_iff {f : Field} :
    f.IsSound ↔ f.unreadable = none ∧ f.unstorable = none ∧
      (f.required = true → f.isNull = false) :=
  ⟨fun h => ⟨h.1, h.2, h.3⟩, fun h => ⟨h.1, h.2.1, h.2.2⟩⟩

/-- A column of texts takes what can be stored. -/
@[simp] theorem isSound_text :
    (text name required o).IsSound ↔
      o.HasStorableText ∧ (required = true → o.text.isSome = true) := by
  have hstorable : o.text.bind Offer.textFault = none ↔ o.HasStorableText := by
    rw [Option.bind_eq_none_iff]
    simp only [Offer.textFault_eq_none, Offer.HasStorableText]
  rw [isSound_iff, ← hstorable]
  simp [text]

/-- A column of integers takes those of 64 bits. -/
@[simp] theorem isSound_integer :
    (integer name required (.value (.int n))).IsSound ↔ Offer.fits n = true := by
  rw [isSound_iff]
  simp [integer, failureOf]

@[simp] theorem isSound_integer_null : (integer name false .null).IsSound := by
  rw [isSound_iff]
  exact ⟨rfl, rfl, nofun⟩

/-- A column of references takes keys of 64 bits. -/
@[simp] theorem isSound_reference :
    (reference name required (.value (.int n))).IsSound ↔ Offer.fits n = true := by
  rw [isSound_iff]
  simp [reference, failureOf]

/-- A column of amounts takes finite decimals. -/
@[simp] theorem isSound_amount : (amount name required (.decimal d)).IsSound ↔ d.isFinite = true := by
  rw [isSound_iff]
  cases d <;>
    simp [amount, failureOf, Offer.amount, Offer.readAmount, Amount.ofDecimal?, Decimal.isFinite,
      Except.toOption]

@[simp] theorem isSound_amount_null : (amount name false .null).IsSound := by
  rw [isSound_iff]
  exact ⟨rfl, rfl, nofun⟩

/-- A column of instants takes those of the calendar. -/
@[simp] theorem isSound_instant :
    (instant name required (.time t)).IsSound ↔ (Offer.toUniversal t).isOk = true := by
  rw [isSound_iff]
  cases h : Offer.toUniversal t <;>
    simp [instant, failureOf, Offer.instant, Offer.readInstant, Except.map, h, Except.isOk,
      Except.toBool, Except.toOption]

/-- A column of amounts that may be empty takes a finite decimal or none. -/
@[simp] theorem isSound_amount_ofDecimal? {d : Option Decimal} :
    (amount name false (.ofDecimal? d)).IsSound ↔ ∀ x, d = some x → x.isFinite = true := by
  cases d with
  | none => exact iff_of_true isSound_amount_null nofun
  | some x => simp [Offer.ofDecimal?]

@[simp] theorem isSound_instant_null : (instant name false .null).IsSound := by
  rw [isSound_iff]
  exact ⟨rfl, rfl, nofun⟩

/-- A column of instants that may be empty takes one of the calendar or none. -/
@[simp] theorem isSound_instant_ofTime? {t : Option DateTime} :
    (instant name false (.ofTime? t)).IsSound ↔
      ∀ x, t = some x → (Offer.toUniversal x).isOk = true := by
  cases t with
  | none => exact iff_of_true isSound_instant_null nofun
  | some x => simp [Offer.ofTime?]

/-- A column of truth values takes them. -/
@[simp] theorem isSound_boolean {b : Bool} :
    (boolean name required (.value (.bool b))).IsSound := by
  rw [isSound_iff]
  exact ⟨rfl, rfl, fun _ => rfl⟩

end Kinds

end Field

end CardPayments
