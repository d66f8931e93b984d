import CardPayments.Proofs.Json.Numeral
import CardPayments.Proofs.Payment.Form
import CardPayments.Session.Trial
import Mathlib.Logic.Relation

/-!
# Spellings of a body

Validation is a projection: a request that was accepted is accepted again as it is when its fields are sent as a
body.  Bodies that differ only in blanks around a text, in fields that nobody asks for, or in numerals that are sent
as whole numbers are spellings of one another, and stand for the same request (`PaymentRequest.isProjected`).
-/

namespace CardPayments

open Json

/-! ### Trimmed texts -/

namespace Text

variable {l t r : Text}

theorem isBlank_reverse (h : t.isBlank = true) : Text.isBlank t.reverse = true := by
  unfold Text.isBlank
  rwa [List.all_reverse]

theorem dropWhile_append_of_isBlank (h : l.isBlank = true) (t : Text) :
    (l ++ t).dropWhile CodePoint.isBlank = t.dropWhile CodePoint.isBlank :=
  List.dropWhile_append_of_pos fun c hc => List.all_eq_true.1 h c hc

/-- Blanks at the ends make no difference to a trimmed text. -/
theorem trim_append (hl : l.isBlank = true) (hr : r.isBlank = true) : Text.trim (l ++ t ++ r) = t.trim := by
  unfold Text.trim trimBy
  rw [List.append_assoc, dropWhile_append_of_isBlank hl, List.dropWhile_append]
  split_ifs with hempty
  · -- Then the text itself is blank, and so is all of it.
    have hnil : t.dropWhile CodePoint.isBlank = [] := List.isEmpty_iff.1 hempty
    have hright : r.dropWhile CodePoint.isBlank = [] :=
      List.dropWhile_eq_nil_iff.2 fun c hc => List.all_eq_true.1 hr c hc
    rw [hnil, hright]
  · rw [List.reverse_append, dropWhile_append_of_isBlank (isBlank_reverse hr)]

/-- A text is what is left of it when it is trimmed, between blanks. -/
theorem exists_trim (t : Text) : ∃ l r, l.isBlank = true ∧ r.isBlank = true ∧ t = l ++ t.trim ++ r := by
  have hblank (s : Text) : Text.isBlank (s.takeWhile CodePoint.isBlank) = true :=
    List.all_eq_true.2 fun c hc => List.mem_takeWhile_imp hc
  refine ⟨t.takeWhile CodePoint.isBlank,
    ((t.dropWhile CodePoint.isBlank).reverse.takeWhile CodePoint.isBlank).reverse, hblank t,
    isBlank_reverse (hblank _), ?_⟩
  unfold Text.trim trimBy
  rw [List.append_assoc, ← List.reverse_append, List.takeWhile_append_dropWhile, List.reverse_reverse,
    List.takeWhile_append_dropWhile]

theorem trim_trim (t : Text) : t.trim.trim = t.trim := by
  obtain ⟨l, r, hl, hr, ht⟩ := exists_trim t
  conv_rhs => rw [ht]
  exact (trim_append hl hr).symm

end Text

/-! ### Fields -/

theorem Json.Value.lookup?_cons (name n : Text) (v : Value) (fields : List (Text × Value)) :
    Value.lookup? name ((n, v) :: fields) = if n = name then some v else Value.lookup? name fields := by
  unfold Value.lookup?
  split_ifs with h
  · rw [List.find?_cons_of_pos (by simpa using h)]
    rfl
  · rw [List.find?_cons_of_neg (by simpa using h)]

theorem Json.Value.lookup?_append (name : Text) (before after : List (Text × Value)) :
    Value.lookup? name (before ++ after) = (Value.lookup? name before).or (Value.lookup? name after) := by
  unfold Value.lookup?
  rw [List.find?_append, Option.map_or]

namespace FormField

variable {f : FormField} {v w : Value} {s t : Text} {name : Text} {given before after : List (Text × Value)}

/-- What was read from a field is read from it again. -/
theorem read_text_of_readFrom (h : f.readFrom given = .ok t) : f.read (some (.text t)) = .ok t := by
  rw [read_of_textOf? rfl]
  rcases readFrom_cases h with ⟨hf, rfl⟩ | ⟨s, hs⟩
  · exact if_pos hf
  · rw [eq_of_readTrimmed hs, Text.trim_trim]
    rwa [eq_of_readTrimmed hs] at hs

/-- Fields that are read alike can stand for one another in an object. -/
theorem readFrom_replace (h : f.read (some v) = f.read (some w)) :
    f.readFrom (before ++ (name, v) :: after) = f.readFrom (before ++ (name, w) :: after) := by
  unfold readFrom
  rw [Value.lookup?_append, Value.lookup?_append, Value.lookup?_cons, Value.lookup?_cons]
  split_ifs
  · cases Value.lookup? f.name before with
    | none => exact h
    | some u => rfl
  · rfl

/-- A field of another name is not looked at. -/
theorem readFrom_insert (h : f.name ≠ name) :
    f.readFrom (before ++ (name, v) :: after) = f.readFrom (before ++ after) := by
  unfold readFrom
  rw [Value.lookup?_append, Value.lookup?_append, Value.lookup?_cons, if_neg h.symm]

end FormField

/-! ### Spellings -/

namespace PaymentRequest

variable {v : Value} {r : PaymentRequest} {given given' : List (Text × Value)}

/-- One spelling of the fields of a body becomes another one in a single step. -/
inductive Respelled : List (Text × Value) → List (Text × Value) → Prop where
  /-- A field comes in that nobody asks for. -/
  | unknown {before after : List (Text × Value)} {name : Text} (v : Value) :
      (∀ f ∈ PaymentForm.fields, f.name ≠ name) → Respelled (before ++ after) (before ++ (name, v) :: after)
  /-- Blanks come around a text. -/
  | blanks {before after : List (Text × Value)} {name l t r : Text} : l.isBlank = true → r.isBlank = true →
      Respelled (before ++ (name, .text t) :: after) (before ++ (name, .text (l ++ t ++ r)) :: after)
  /-- A numeral is sent as the whole number of its digits. -/
  | numeral {before after : List (Text × Value)} {name t : Text} : t.IsWholeNumeral →
      t.length ≤ Numeral.digitLimit →
        Respelled (before ++ (name, .text t) :: after) (before ++ (name, .int (Text.number t)) :: after)

/-- A whole number stands for the digits with which it is written. -/
theorem textOf?_int {t : Text} (h : t.IsWholeNumeral) : FormField.textOf? (.int (Text.number t)) = some t := by
  have hwritten : Text.ofInt (Text.number t) = Text.ofNat (Text.number t) := by
    rw [Text.ofInt, if_neg (by omega), Int.natAbs_natCast]
  show some (Text.ofInt (Text.number t)) = some t
  rw [hwritten, Text.ofNat_number h]

/-- Every field is read alike from the two spellings. -/
theorem Respelled.readFrom_eq (h : Respelled given given') {f : FormField} (hf : f ∈ PaymentForm.fields) :
    f.readFrom given' = f.readFrom given := by
  cases h with
  | unknown v hname => exact FormField.readFrom_insert (hname f hf)
  | blanks hl hr =>
    refine FormField.readFrom_replace ?_
    rw [FormField.read_of_textOf? rfl, FormField.read_of_textOf? rfl, Text.trim_append hl hr]
  | numeral ht hlength =>
    refine FormField.readFrom_replace ?_
    rw [FormField.read_of_textOf? (textOf?_int ht), FormField.read_of_textOf? rfl]

/-- What a body stands for, and what is wrong with it, depends on nothing but what is read from the eight fields. -/
theorem ofBody_congr (h : ∀ f ∈ PaymentForm.fields, f.readFrom given' = f.readFrom given) :
    ofBody (.object given') = ofBody (.object given) := by
  have hfaults : PaymentForm.faultsOf given' = PaymentForm.faultsOf given := by
    refine List.filterMap_congr fun f hf => ?_
    rw [h f hf]
  have hfields : ofFields given' = ofFields given := by
    simp only [PaymentForm.fields, List.forall_mem_cons] at h
    obtain ⟨hname, hemail, hsession, hnumber, hyear, hmonth, hcheck, horder, -⟩ := h
    unfold ofFields
    rw [hname, hemail, hsession, hnumber, hyear, hmonth, hcheck, horder]
  unfold ofBody
  dsimp only
  rw [hfields, hfaults]

/-- **All spellings of a body stand for the same**, be it a request or what is wrong. -/
theorem ofBody_respelled (h : Relation.EqvGen Respelled given given') :
    ofBody (.object given') = ofBody (.object given) := by
  -- The steps are made in any number and in both directions.
  induction h with
  | rel given given' hstep => exact ofBody_congr fun _ => hstep.readFrom_eq
  | refl given => rfl
  | symm given given' _ ih => exact ih.symm
  | trans given given' given'' _ _ ih ih' => exact ih'.trans ih

/-- The fields of a request as a client sends them. -/
def toFields (r : PaymentRequest) : List (Text × Value) :=
  [("name", r.name), ("email", r.email), ("device_session_id", r.deviceSession), ("card_number", r.cardNumber),
    ("expiration_year", r.expirationYear), ("expiration_month", r.expirationMonth), ("cvv2", r.check),
    ("order_id", r.orderId)]

/-- The body that consists of the fields of a request. -/
def toBody (r : PaymentRequest) : Value := .object r.toFields

/-- What was read from a field is read from the field of the request again. -/
theorem readFrom_toFields {f : FormField} {t : Text} (h : f.readFrom given = .ok t)
    (hfield : Value.lookup? f.name r.toFields = some (.text t)) : f.readFrom r.toFields = .ok t := by
  rw [FormField.readFrom, hfield]
  exact FormField.read_text_of_readFrom h

/-- An accepted request is accepted again as it is. -/
theorem ofBody_toBody (h : ofBody v = .ok r) : ofBody r.toBody = .ok r := by
  obtain ⟨given, -, hname, hemail, hsession, hnumber, hyear, hmonth, hcheck, horder⟩ := readFrom_of_ofBody h
  have hfields : ofFields r.toFields = .ok r := by
    unfold ofFields
    rw [readFrom_toFields hname rfl, readFrom_toFields hemail rfl, readFrom_toFields hsession rfl,
      readFrom_toFields hnumber rfl, readFrom_toFields hyear rfl, readFrom_toFields hmonth rfl,
      readFrom_toFields hcheck rfl, readFrom_toFields horder rfl]
    rfl
  unfold toBody ofBody
  dsimp only
  rw [hfields]

/-- What is to be said of a body that stands for a request. -/
structure IsProjected (v : Value) (r : PaymentRequest) : Prop where
  /-- The request stands for itself. -/
  again : ofBody r.toBody = .ok r
  /-- The body is an object, all of whose spellings stand for the request. -/
  respelled : ∃ given, v = .object given ∧
    ∀ given', Relation.EqvGen Respelled given given' → ofBody (.object given') = .ok r
  /-- The whole number for which a numeral is sent is the one that is read from its digits. -/
  numeral : ∀ t : Text, t.IsWholeNumeral → t.length ≤ Numeral.digitLimit →
    Json.read t = .ok (.int (Text.number t))

/-- **Validation is a projection**: an accepted request is accepted again as it is, and it does not depend on how the
body is spelled. -/
theorem isProjected (h : ofBody v = .ok r) : IsProjected v r where
  again := ofBody_toBody h
  respelled := by
    obtain ⟨given, rfl, -⟩ := readFrom_of_ofBody h
    exact ⟨given, rfl, fun given' hspelled => (ofBody_respelled hspelled).trans h⟩
  numeral := by
    intro t ht hlength
    rw [read_numeral ht, if_neg (not_lt.2 hlength)]

/-- The request for trials with blanks around its texts, with numbers for numerals and a field that nobody asks for. -/
def trialSpelled : List (Text × Value) :=
  [("name", " Smoke Test\t"), ("email", "smoke-test@example.com\n"), ("coupon", .null),
    ("card_number", .int 4111111111111111), ("expiration_year", " 29"), ("expiration_month", .int 12),
    ("cvv2", .int 110), ("order_id", "\u3000SMOKE-0001 ")]

theorem trial_isProjected :
    ofBody (.object trialSpelled) = .ok Session.trialRequest ∧
      IsProjected (.object trialSpelled) Session.trialRequest :=
  ⟨rfl, isProjected rfl⟩

end PaymentRequest

end CardPayments
