import CardPayments.Json.Writer
import CardPayments.Proofs.Text.Storable
import CardPayments.Provider.Payload

/-!
# Values that can be stored whole

A value is encodable when none of its texts holds half of a surrogate pair, at whatever depth; it is standard
when all its numbers are finite.  Both go over from an object to the values of its fields, and so to what
`Provider.field` takes from it (`Provider.isEncodable_field`, `Provider.isStandard_field`).
-/

namespace CardPayments

namespace Json.Value

mutual

/-- Is the value free of halves of surrogate pairs? -/
def isEncodable : Value → Bool
  | text t => t.all fun c => !c.isSurrogate
  | list items => itemsEncodable items
  | object fields => fieldsEncodable fields
  | _ => true

/-- Are all items free of them? -/
def itemsEncodable : List Value → Bool
  | [] => true
  | v :: rest => v.isEncodable && itemsEncodable rest

/-- Are the names and the values of all fields free of them? -/
def fieldsEncodable : List (Text × Value) → Bool
  | [] => true
  | (name, v) :: rest => name.all (fun c => !c.isSurrogate) && v.isEncodable && fieldsEncodable rest

end

variable {v : Value} {fields : List (Text × Value)}

/-- What is displayed of an encodable value can be stored. -/
theorem isStorable_display_of_isEncodable (h : v.isEncodable = true) : v.display.IsStorable := by
  rw [isStorable_display]
  rintro t rfl c hc
  rw [isEncodable, List.all_eq_true] at h
  simpa using h c hc

theorem isEncodable_of_mem (h : (object fields).isEncodable = true) : ∀ f ∈ fields, f.2.isEncodable = true := by
  rw [isEncodable] at h
  induction fields with
  | nil => exact List.forall_mem_nil _
  | cons f rest ih =>
    rw [fieldsEncodable, Bool.and_eq_true, Bool.and_eq_true] at h
    exact List.forall_mem_cons.2 ⟨h.1.2, ih h.2⟩

theorem isStandard_of_mem (h : (object fields).isStandard = true) : ∀ f ∈ fields, f.2.isStandard = true := by
  rw [isStandard] at h
  induction fields with
  | nil => exact List.forall_mem_nil _
  | cons f rest ih =>
    rw [fieldsStandard, Bool.and_eq_true] at h
    exact List.forall_mem_cons.2 ⟨h.1, ih h.2⟩

theorem isStandard_of_mem_list {items : List Value} (h : (list items).isStandard = true) :
    ∀ v ∈ items, v.isStandard = true := by
  rw [isStandard] at h
  induction items with
  | nil => exact List.forall_mem_nil _
  | cons v rest ih =>
    rw [itemsStandard, Bool.and_eq_true] at h
    exact List.forall_mem_cons.2 ⟨h.1, ih h.2⟩

theorem isStandard_orEmpty (h : v.isStandard = true) : v.orEmpty.isStandard = true := by
  unfold orEmpty
  split_ifs
  · exact h
  · rfl

end Json.Value

namespace Provider

open Json

variable {fields : List (Text × Value)} (name : Text)

/-- What is so of null and of the values of all fields is so of whatever is taken from a field. -/
theorem field_of_forall {P : Value → Prop} (hnull : P .null) (h : ∀ f ∈ fields, P f.2) :
    P (field fields name) := by
  unfold field Value.lookup?
  cases hfound : fields.find? fun f => f.1 = name with
  | none => exact hnull
  | some f => exact h f (List.mem_of_find?_eq_some hfound)

theorem isEncodable_field (h : (Value.object fields).isEncodable = true) :
    (field fields name).isEncodable = true :=
  field_of_forall name (P := fun v => v.isEncodable = true) rfl (Value.isEncodable_of_mem h)

theorem isStandard_field (h : (Value.object fields).isStandard = true) :
    (field fields name).isStandard = true :=
  field_of_forall name (P := fun v => v.isStandard = true) rfl (Value.isStandard_of_mem h)

end Provider

end CardPayments
