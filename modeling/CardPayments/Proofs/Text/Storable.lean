import CardPayments.Json.Value
import Mathlib.Data.List.Basic
import Mathlib.Tactic.Common

/-!
# Texts that can be stored

A text can be stored when it holds no half of a surrogate pair.  A half only ever comes in through the
texts of JSON: characters have none (`CodePoint.isSurrogate_ofChar`), and a quoted text shows it by its
number, so that of all values only a text can have a display that cannot be stored
(`Json.Value.isStorable_display`).
-/

namespace CardPayments

/-- Can the text be stored?  It holds no half of a surrogate pair. -/
def Text.IsStorable (t : Text) : Prop := ∀ c ∈ t, c.isSurrogate = false

/-! ### Code points -/

namespace CodePoint

/-- A character is never half of a surrogate pair. -/
theorem isSurrogate_ofChar (c : Char) : (ofChar c).isSurrogate = false := by
  have hc : c.toNat < 0xD800 ∨ 0xDFFF < c.toNat ∧ c.toNat < 0x110000 := c.valid
  rw [isSurrogate, Bool.and_eq_false_iff, decide_eq_false_iff_not, decide_eq_false_iff_not]
  show ¬0xD800 ≤ c.toNat ∨ ¬c.toNat ≤ 0xDFFF
  omega

/-- Every range of printable code points ends before the surrogates or begins after them. -/
theorem printableRanges_apart : ∀ r ∈ printableRanges, r.2 < 0xD800 ∨ 0xDFFF < r.1 := by
  decide +kernel

/-- Half of a surrogate pair is not printable. -/
theorem isSurrogate_of_isPrintable {c : CodePoint} (h : c.isPrintable = true) :
    c.isSurrogate = false := by
  rw [isSurrogate, Bool.and_eq_false_iff, decide_eq_false_iff_not, decide_eq_false_iff_not]
  unfold isPrintable at h
  split_ifs at h with hc
  · omega
  · obtain ⟨r, hr, hcr⟩ := List.any_eq_true.1 h
    have hlow := of_decide_eq_true (Bool.and_eq_true_iff.1 hcr).1
    have hhigh := of_decide_eq_true (Bool.and_eq_true_iff.1 hcr).2
    rcases printableRanges_apart r hr with h | h <;> omega

end CodePoint

/-! ### Texts -/

namespace Text

variable {s t : Text}

instance : Decidable t.IsStorable := inferInstanceAs (Decidable (∀ c ∈ t, c.isSurrogate = false))

@[simp] theorem isStorable_nil : IsStorable [] := List.forall_mem_nil _

@[simp] theorem isStorable_cons {c : CodePoint} :
    IsStorable (c :: t) ↔ c.isSurrogate = false ∧ t.IsStorable := List.forall_mem_cons

@[simp] theorem isStorable_append : IsStorable (s ++ t) ↔ s.IsStorable ∧ t.IsStorable :=
  List.forall_mem_append

theorem IsStorable.of_subset (ht : t.IsStorable) (h : s ⊆ t) : s.IsStorable := fun c hc => ht c (h hc)

theorem IsStorable.take (ht : t.IsStorable) (n : Nat) : IsStorable (t.take n) :=
  ht.of_subset (List.take_subset n t)

theorem IsStorable.drop (ht : t.IsStorable) (n : Nat) : IsStorable (t.drop n) :=
  ht.of_subset (List.drop_subset n t)

/-- A text of characters can be stored. -/
theorem isStorable_map_ofChar (cs : List Char) : IsStorable (cs.map CodePoint.ofChar) := by
  intro c hc
  obtain ⟨d, _, rfl⟩ := List.mem_map.1 hc
  exact CodePoint.isSurrogate_ofChar d

@[simp] theorem isStorable_ofString (s : String) : IsStorable (ofString s) := isStorable_map_ofChar _

@[simp] theorem isStorable_replicate (n : Nat) (c : Char) :
    IsStorable (List.replicate n (CodePoint.ofChar c)) := by
  rw [← List.map_replicate]
  exact isStorable_map_ofChar _

@[simp] theorem isStorable_ofNat (n : Nat) : IsStorable (ofNat n) := isStorable_map_ofChar _

@[simp] theorem isStorable_ofInt (n : Int) : IsStorable (ofInt n) := by
  unfold ofInt
  split_ifs <;> simp

@[simp] theorem isStorable_ofNatPadded (width n : Nat) : IsStorable (ofNatPadded width n) := by
  simp [ofNatPadded]

@[simp] theorem isStorable_ofNatHex (width n : Nat) : IsStorable (ofNatHex width n) := by
  simp [ofNatHex, isStorable_map_ofChar]

/-- Texts that can be stored can be stored together. -/
theorem isStorable_joinWith (hs : s.IsStorable) {ts : List Text} (hts : ∀ u ∈ ts, u.IsStorable) :
    (joinWith s ts).IsStorable := by
  unfold joinWith
  induction ts with
  | nil => exact isStorable_nil
  | cons u ts ih =>
    obtain ⟨hu, hts⟩ := List.forall_mem_cons.1 hts
    by_cases h : ts = []
    · rw [h, List.intercalate_singleton]
      exact hu
    · rw [List.intercalate_cons_of_ne_nil h, isStorable_append, isStorable_append]
      exact ⟨⟨hu, hs⟩, ih hts⟩

/-- How a code point is written between quotes can always be stored. -/
theorem isStorable_quotedWith {quote : CodePoint} (hquote : quote.isSurrogate = false)
    (c : CodePoint) : (quote.quotedWith c).IsStorable := by
  unfold CodePoint.quotedWith
  split_ifs with h
  · rw [isStorable_cons, isStorable_cons]
    refine ⟨CodePoint.isSurrogate_ofChar _, ?_, isStorable_nil⟩
    rcases h with rfl | rfl
    · exact hquote
    · exact CodePoint.isSurrogate_ofChar _
  all_goals simp [*, CodePoint.isSurrogate_of_isPrintable]

/-- The quoted form of a text can always be stored. -/
@[simp] theorem isStorable_quoted (t : Text) : t.quoted.IsStorable := by
  have hquote : t.quoteOf.isSurrogate = false := by
    unfold quoteOf
    split_ifs <;> exact CodePoint.isSurrogate_ofChar _
  have hinner : IsStorable (t.flatMap t.quoteOf.quotedWith) := by
    intro c hc
    obtain ⟨d, _, hd⟩ := List.mem_flatMap.1 hc
    exact isStorable_quotedWith hquote d c hd
  simp [quoted, hquote, hinner]

end Text

/-! ### Floating-point numbers -/

namespace Binary64

open Text

theorem isStorable_layout {digits : Text} (h : digits.IsStorable) (lead : Int) :
    (layout digits lead).IsStorable := by
  have hpadded (n : Nat) :
      IsStorable (digits ++ List.replicate n (CodePoint.ofChar '0')) := by simp [h]
  unfold layout
  dsimp only
  split_ifs
  all_goals simp only [isStorable_append, isStorable_ofString, isStorable_replicate,
    isStorable_ofNatPadded, h, h.take, h.drop, (hpadded _).take, and_self]

/-- The text of a floating-point number can be stored. -/
@[simp] theorem isStorable_toText (x : Binary64) : x.toText.IsStorable := by
  have hindex (index : Nat) : (indexText index).IsStorable := by
    unfold indexText
    split_ifs
    · exact isStorable_ofString _
    · refine isStorable_layout ((isStorable_ofNat (shortest index).1).of_subset ?_) _
      intro c hc
      exact List.mem_reverse.1 ((List.dropWhile_subset _) (List.mem_reverse.1 hc))
  unfold toText
  split
  · split_ifs
    · exact isStorable_append.2 ⟨isStorable_ofString _, hindex _⟩
    · exact hindex _
  · split_ifs <;> exact isStorable_ofString _
  · exact isStorable_ofString _

end Binary64

/-! ### Values -/

namespace Json.Value

open Text

mutual

/-- The text of a value inside another one can always be stored. -/
theorem isStorable_quoted : (v : Value) → v.quoted.IsStorable
  | null => by simp [quoted]
  | bool b => by simp [quoted, boolText, apply_ite]
  | int n => by simp [quoted]
  | float x => by simp [quoted]
  | text t => by simp [quoted]
  | list items => by
    rw [quoted, isStorable_append, isStorable_append]
    refine ⟨⟨by simp, ?_⟩, by simp⟩
    exact isStorable_joinWith (by simp) (isStorable_quotedItems items)
  | object fields => by
    rw [quoted, isStorable_append, isStorable_append]
    refine ⟨⟨by simp, ?_⟩, by simp⟩
    exact isStorable_joinWith (by simp) (isStorable_quotedFields fields)

theorem isStorable_quotedItems : (items : List Value) → ∀ u ∈ quotedItems items, u.IsStorable
  | [] => by simp [quotedItems]
  | v :: rest => by
    rw [quotedItems, List.forall_mem_cons]
    exact ⟨isStorable_quoted v, isStorable_quotedItems rest⟩

theorem isStorable_quotedFields :
    (fields : List (Text × Value)) → ∀ u ∈ quotedFields fields, u.IsStorable
  | [] => by simp [quotedFields]
  | (name, v) :: rest => by
    rw [quotedFields, List.forall_mem_cons]
    refine ⟨?_, isStorable_quotedFields rest⟩
    simp [isStorable_quoted v]

end

/-- Only of a text can the display hold what cannot be stored. -/
theorem isStorable_display {v : Value} :
    v.display.IsStorable ↔ ∀ t, v = .text t → t.IsStorable := by
  cases v with
  | text t => simp [display]
  | _ => simp [display, isStorable_quoted]

@[simp] theorem isStorable_display_text {t : Text} : (text t).display.IsStorable ↔ t.IsStorable :=
  Iff.rfl

/-- A value that does not count as present can be stored. -/
theorem isStorable_display_of_not_isTruthy {v : Value} (h : ¬v.isTruthy = true) :
    v.display.IsStorable := by
  rw [isStorable_display]
  rintro t rfl
  have hempty : t = [] := by simpa [isTruthy] using h
  rw [hempty]
  exact Text.isStorable_nil

@[simp] theorem isStorable_display_orEmpty {v : Value} :
    v.orEmpty.display.IsStorable ↔ v.display.IsStorable := by
  unfold orEmpty
  split_ifs with h
  · rfl
  · exact iff_of_true Text.isStorable_nil (isStorable_display_of_not_isTruthy h)

@[simp] theorem orEmpty_ne_null {v : Value} : v.orEmpty ≠ null := by
  unfold orEmpty
  split_ifs with h
  · rintro rfl
    exact absurd h (by decide)
  · exact nofun

end Json.Value

end CardPayments
