import CardPayments.Card.Mask
import CardPayments.Proofs.Text.Storable
import Mathlib.Logic.Relation

/-!
# Masks of card numbers

A mask tells of a number how long it is without blanks, and its last four code points, and nothing else
(`Card.maskNumber_eq_iff`).  Blanks between the groups of a number therefore do not matter, a mask is its own
mask, and numbers of one length that end alike cannot be told apart (`Card.isMask`).

The last four code points of a number are taken twice: with blanks between the groups for the log, and
without them for the mask.  Whatever is among the former is a blank or among the latter, so that masked card
data can be stored when the card data can.
-/

namespace CardPayments

namespace Card

open Text

variable {number number' : Text}

/-! ### What a mask tells -/

/-- A number without blanks has no blank in it. -/
theorem ne_blank_of_mem_compact {c : CodePoint} (hc : c ∈ compact number) : c ≠ CodePoint.ofChar ' ' := by
  simpa using (List.mem_filter.1 hc).2

/-- The mask is as long as the number without blanks. -/
theorem length_maskNumber (number : Text) : (maskNumber number).length = (compact number).length := by
  simp only [maskNumber, stars, lastFour, List.length_append, List.length_replicate, List.length_drop]
  omega

/-- Behind as many asterisks as a number has other code points, its last four are still the last four. -/
theorem lastFour_masked (number : Text) :
    lastFour (stars (number.length - 4) ++ lastFour number) = lastFour number := by
  have hlength : (stars (number.length - 4) ++ lastFour number).length - 4 =
      (stars (number.length - 4)).length := by
    simp only [stars, lastFour, List.length_append, List.length_replicate, List.length_drop]
    omega
  conv_lhs => rw [lastFour, hlength]
  exact List.drop_left

/-- A number and its mask end in the same four code points. -/
theorem lastFour_maskNumber (number : Text) : lastFour (maskNumber number) = lastFour (compact number) :=
  lastFour_masked (compact number)

/-- There is no blank in a mask. -/
theorem compact_maskNumber (number : Text) : compact (maskNumber number) = maskNumber number := by
  refine List.filter_eq_self.2 fun c hc => ?_
  rw [decide_eq_true_iff]
  rcases List.mem_append.1 hc with hstar | hlast
  · rw [List.eq_of_mem_replicate hstar]
    decide
  · exact ne_blank_of_mem_compact (List.mem_of_mem_drop hlast)

/-- **What a mask tells**: two numbers have the same mask if and only if they are equally long without blanks,
and end in the same four code points then. -/
theorem maskNumber_eq_iff : maskNumber number = maskNumber number' ↔
    (compact number).length = (compact number').length ∧
      lastFour (compact number) = lastFour (compact number') := by
  constructor
  · intro h
    rw [← length_maskNumber, ← lastFour_maskNumber, h, length_maskNumber, lastFour_maskNumber]
    exact ⟨rfl, rfl⟩
  · rintro ⟨hlength, hlast⟩
    rw [maskNumber, maskNumber, hlength, hlast]

/-- A mask is its own mask. -/
theorem maskNumber_maskNumber (number : Text) : maskNumber (maskNumber number) = maskNumber number := by
  rw [maskNumber_eq_iff, compact_maskNumber]
  exact ⟨length_maskNumber number, lastFour_maskNumber number⟩

/-- All of a mask but its last four code points are asterisks. -/
theorem take_maskNumber (number : Text) :
    (maskNumber number).take ((maskNumber number).length - 4) = stars ((compact number).length - 4) := by
  have hlength : (maskNumber number).length - 4 = (stars ((compact number).length - 4)).length := by
    rw [length_maskNumber, stars, List.length_replicate]
  rw [hlength]
  exact List.take_left

/-- A number of at most four code points is its own mask, without its blanks. -/
theorem maskNumber_of_length_le (h : (compact number).length ≤ 4) : maskNumber number = compact number := by
  have hnone : (compact number).length - 4 = 0 := Nat.sub_eq_zero_of_le h
  rw [maskNumber, lastFour, hnone]
  rfl

/-! ### Blanks between the groups -/

/-- A blank comes into a number somewhere. -/
inductive Spaced : Text → Text → Prop where
  | blank (before after : Text) : Spaced (before ++ after) (before ++ CodePoint.ofChar ' ' :: after)

theorem Spaced.compact_eq (h : Spaced number number') : compact number' = compact number := by
  cases h with
  | blank before after =>
    unfold compact
    rw [List.filter_append, List.filter_append, List.filter_cons_of_neg (by decide)]

/-- Numbers that differ in blanks only are the same without them. -/
theorem compact_eq_of_spaced (h : Relation.EqvGen Spaced number number') : compact number' = compact number := by
  -- Blanks come and go in any number, one after the other.
  induction h with
  | rel _ _ hstep => exact hstep.compact_eq
  | refl _ => rfl
  | symm _ _ _ ih => exact ih.symm
  | trans _ _ _ _ _ ih ih' => exact ih'.trans ih

/-! ### The main statement -/

/-- What is to be said of the mask of a number. -/
structure IsMask (number mask : Text) : Prop where
  /-- It is as long as the number without blanks. -/
  length_eq : mask.length = (compact number).length
  /-- All but its last four code points are asterisks. -/
  hidden : ∀ c ∈ mask.take (mask.length - 4), c = CodePoint.ofChar '*'
  /-- It ends as the number does without blanks. -/
  last : lastFour mask = lastFour (compact number)
  /-- There is nothing to hide in a number that is too short. -/
  short : (compact number).length ≤ 4 → mask = compact number
  /-- It is its own mask. -/
  again : maskNumber mask = mask
  /-- Blanks that come into the number or go from it do not change it. -/
  spaced : ∀ number', Relation.EqvGen Spaced number number' → maskNumber number' = mask
  /-- It is the mask of exactly the numbers that are as long without blanks and end in the same way. -/
  same_iff : ∀ number', maskNumber number' = mask ↔ (compact number').length = (compact number).length ∧
    lastFour (compact number') = lastFour (compact number)

/-- **Masks**: whatever stands in a number, its mask is as long as the number without blanks, shows its last
four code points and hides all others behind asterisks; it does not depend on blanks, is its own mask, and is
the same for numbers of the same length that end alike. -/
theorem isMask (number : Text) : IsMask number (maskNumber number) where
  length_eq := length_maskNumber number
  hidden c hc := by
    rw [take_maskNumber] at hc
    exact List.eq_of_mem_replicate hc
  last := lastFour_maskNumber number
  short := maskNumber_of_length_le
  again := maskNumber_maskNumber number
  spaced number' hspaced := by
    have hcompact := compact_eq_of_spaced hspaced
    rw [maskNumber_eq_iff, hcompact]
    exact ⟨rfl, rfl⟩
  same_iff _ := maskNumber_eq_iff

/-- Blanks among the last four digits of a number, and at its end. -/
theorem trial_isMask :
    maskNumber "4111 1111 1111 1 2 34 " = "************1234" ∧
      maskNumber "9999999999991234" = "************1234" ∧
      IsMask "4111 1111 1111 1 2 34 " "************1234" := by
  have hmask : maskNumber "4111 1111 1111 1 2 34 " = "************1234" := by decide
  refine ⟨hmask, by decide, ?_⟩
  rw [← hmask]
  exact isMask _

/-! ### Storing a mask -/

/-- The last four code points of a number are blanks or among the last four of it without blanks. -/
theorem mem_lastFour_compact {number : Text} {c : CodePoint} (hc : c ∈ lastFour number)
    (hblank : c ≠ CodePoint.ofChar ' ') : c ∈ lastFour (compact number) := by
  let front := number.take (number.length - 4)
  have hsplit : compact number = compact front ++ compact (lastFour number) := by
    rw [compact, compact, compact, ← List.filter_append, lastFour, List.take_append_drop]
  have hlength : (compact (lastFour number)).length ≤ 4 := by
    have hfilter := List.length_filter_le (· ≠ CodePoint.ofChar ' ') (lastFour number)
    rw [lastFour, List.length_drop] at hfilter
    rw [compact, lastFour]
    omega
  have hmem : c ∈ compact (lastFour number) := List.mem_filter.2 ⟨hc, by simpa using hblank⟩
  rw [hsplit]
  rw [lastFour, List.length_append]
  -- What is left of the last four is short, and so all of it is among the last four that are kept.
  refine List.drop_subset_drop_left _ (j := (compact front).length) (by omega) ?_
  rw [List.drop_left]
  exact hmem

/-- If the masked number can be stored, so can the last four code points of the number. -/
theorem isStorable_lastFour {number : Text} (h : (maskNumber number).IsStorable) :
    (lastFour number).IsStorable := by
  have hcompact : (lastFour (compact number)).IsStorable := (isStorable_append.1 h).2
  intro c hc
  by_cases hblank : c = CodePoint.ofChar ' '
  · rw [hblank]
    exact CodePoint.isSurrogate_ofChar ' '
  · exact hcompact c (mem_lastFour_compact hc hblank)

theorem isStorable_maskNumber {number : Text} (h : number.IsStorable) : (maskNumber number).IsStorable :=
  isStorable_append.2 ⟨isStorable_replicate _ _, IsStorable.drop (h.of_subset List.filter_sublist.subset) _⟩

/-- The masked check value can always be stored. -/
@[simp] theorem isStorable_maskCheck (check : Text) : (maskCheck check).IsStorable :=
  isStorable_replicate _ _

end Card

end CardPayments
