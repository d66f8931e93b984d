import CardPayments.Proofs.Decimal.Rounding
import CardPayments.Proofs.Failure
import CardPayments.Store.Report

/-!
# Amounts that can be read

An amount is stored as it is written, but has to fit its column when it is read.  In a column of two places
this is so of the amounts below `Amount.limit` and of no others (`Amount.isSome_read?_iff`), in a column of four
places of those that are not above `Amount.logLimit` (`Amount.isSome_read?_log_iff`), however they are written: both
limits are middles between two floating-point numbers, so that it does not matter through which of them an amount
goes.  An amount that was read can be shown (`Report.amount_isOk_iff`).
-/

namespace CardPayments

namespace Amount

open Binary64 Decimal

/-- The size of an amount, whatever its sign. -/
def size (a : Amount) : ℚ := a.coefficient * 10 ^ a.exponent

/-- What is kept of an amount is its size, or the number at the index to which this rounds if there is one. -/
theorem kept?_spec (a : Amount) : (a.kept? = some (a.coefficient, 0) ∧ a.size = a.coefficient) ∨
    ∃ index, RoundsTo a.size index ∧ ((a.kept? = none ∧ 0x7FF0000000000000 ≤ index) ∨
      ∃ coefficient exponent, a.kept? = some (coefficient, exponent) ∧
        (coefficient : ℚ) * 10 ^ exponent = value index) := by
  unfold kept?
  split_ifs with hwhole
  · refine .inl ⟨rfl, ?_⟩
    rw [size, hwhole.1, zpow_zero, mul_one]
  · have hsize : 0 ≤ a.size := by
      unfold size
      positivity
    obtain ⟨index, hindex⟩ := exists_roundsTo hsize
    refine .inr ⟨index, hindex, ?_⟩
    rw [nearest_eq a.negative hindex, ofIndex]
    split_ifs with hfinite
    · exact .inr ⟨_, _, rfl, cast_exact _ _⟩
    · exact .inl ⟨rfl, not_lt.1 hfinite⟩

variable {places : Nat}

/-- An amount can be read if what is kept of it has enough places before the point when it is rounded. -/
theorem isSome_read?_of_kept? {a : Amount} {coefficient : Nat} {exponent : ℤ}
    (h : a.kept? = some (coefficient, exponent)) : (a.read? places).isSome = true ↔
      (coefficient : ℚ) * 10 ^ exponent < leastRoundedTo ((columnDigits : ℤ) - places) := by
  obtain ⟨hdigits, hround⟩ := roundSignificant_spec coefficient exponent ((columnDigits : ℤ) - places)
  rw [read?, h, ← hround, ← isSome_roundTo?_iff (by decide) (hdigits.trans (by decide)), Option.bind_eq_bind,
    Option.bind_some, significantDigits]
  dsimp only
  cases roundTo? columnDigits places (roundSignificant 15 coefficient exponent).1
      (roundSignificant 15 coefficient exponent).2 with
  | none => rfl
  | some rounded => exact iff_of_true rfl rfl

/-- Which amounts can be read from a column, when of the floating-point numbers it is those up to an index, and a
property says the same of all numbers that round to them and of the whole ones. -/
theorem isSome_read?_iff_of (P : ℚ → Prop) (j : Nat) (hfinite : j < 0x7FF0000000000000)
    (hwhole : ∀ n : Nat, (n : ℚ) < leastRoundedTo ((columnDigits : ℤ) - places) ↔ P n)
    (hvalue : ∀ index, value index < leastRoundedTo ((columnDigits : ℤ) - places) ↔ index ≤ j)
    (hrounds : ∀ x index, RoundsTo x index → (P x ↔ index ≤ j)) (a : Amount) :
    (a.read? places).isSome = true ↔ P a.size := by
  rcases a.kept?_spec with ⟨hkept, hsize⟩ | ⟨index, hindex, ⟨hkept, hlarge⟩ | ⟨coefficient, exponent, hkept, hexact⟩⟩
  · -- The amount is whole and kept as it is, so it may lie between two floating-point numbers.
    rw [isSome_read?_of_kept? hkept, zpow_zero, mul_one, hwhole, hsize]
  · rw [hrounds _ _ hindex, read?, hkept]
    exact iff_of_false (by simp) (not_le.2 (hfinite.trans_le hlarge))
  · rw [isSome_read?_of_kept? hkept, hexact, hvalue, hrounds _ _ hindex]

/-- The least size that becomes ten to the sixteenth when it is rounded to fifteen digits. -/
def limit : ℚ := 9999999999999995

theorem middle_eq_limit : middle (1075 * twoTo 52 + 4999999999999997) = limit := by
  rw [middle_grid (by decide) (.inr (by decide)), limit]
  norm_num

/-- **Readable amounts**: the amount of a transaction can be read if and only if it is below the limit. -/
theorem isSome_read?_iff (a : Amount) :
    (a.read? transactionPlaces).isSome = true ↔ a.size < limit := by
  have hleast : leastRoundedTo ((columnDigits : ℤ) - transactionPlaces) = limit := by
    norm_num [leastRoundedTo, columnDigits, transactionPlaces, limit]
  refine isSome_read?_iff_of (· < limit) (1075 * twoTo 52 + 4999999999999997) (by decide) ?_ ?_ ?_ a
  · intro n
    rw [hleast]
  · intro index
    rw [hleast, ← middle_eq_limit, value_lt_middle_iff]
  · intro x index h
    rw [← middle_eq_limit, h.lt_middle_iff (by decide)]

/-- The greatest size that is as near to a floating-point number as to the next one, which becomes ten to the
fourteenth when it is rounded to fifteen digits. -/
def logLimit : ℚ := 12799999999999993 / 128

theorem middle_eq_logLimit : middle (1068 * twoTo 52 + 6399999999999996) = logLimit := by
  rw [middle_grid (by decide) (.inr (by decide)), logLimit]
  norm_num

/-- An amount of a log can be read if and only if it is not above its limit. -/
theorem isSome_read?_log_iff (a : Amount) : (a.read? logPlaces).isSome = true ↔ a.size ≤ logLimit := by
  have hleast : leastRoundedTo ((columnDigits : ℤ) - logPlaces) = 99999999999999.95 := by
    norm_num [leastRoundedTo, columnDigits, logPlaces]
  refine isSome_read?_iff_of (· ≤ logLimit) (1068 * twoTo 52 + 6399999999999996) (by decide) ?_ ?_ ?_ a
  · intro n
    rw [hleast, logLimit]
    -- No whole number is between the limit and the least number that is rounded too far.
    rcases Nat.lt_or_ge 99999999999999 n with hlarge | hsmall
    · have hcast : (100000000000000 : ℚ) ≤ n := by exact_mod_cast hlarge
      exact iff_of_false (not_lt.2 (by linarith)) (not_le.2 (by linarith))
    · have hcast : (n : ℚ) ≤ 99999999999999 := by exact_mod_cast hsmall
      exact iff_of_true (by linarith) (by linarith)
  · intro index
    -- What is rounded too far lies between two neighbours.
    have hlast : value (1068 * twoTo 52 + 6399999999999996) < 99999999999999.95 := by
      rw [value_grid (by decide) (.inr (by decide))]
      norm_num
    have hnext : 99999999999999.95 < value (1068 * twoTo 52 + 6399999999999997) := by
      rw [value_grid (by decide) (.inr (by decide))]
      norm_num
    rw [hleast]
    constructor
    · intro hless
      exact Nat.le_of_lt_succ (strictMono_value.lt_iff_lt.1 (hless.trans hnext))
    · intro hle
      exact (strictMono_value.monotone hle).trans_lt hlast
  · intro x index h
    rw [← middle_eq_logLimit, h.le_middle_iff (by decide)]

theorem exists_of_read? {a : Amount} {places : Nat} {d : Decimal} (h : a.read? places = some d) :
    ∃ negative coefficient, coefficient < tenTo columnDigits ∧ d = .finite negative coefficient (-places) := by
  obtain ⟨⟨coefficient, exponent⟩, -, h⟩ := Option.bind_eq_some_iff.1 h
  obtain ⟨rounded, hrounded, h⟩ := Option.bind_eq_some_iff.1 h
  exact ⟨_, rounded, Decimal.roundTo?_lt hrounded, (Option.some.inj h).symm⟩

end Amount

/-- A decimal with the places that are shown can be shown if it has no more digits than that. -/
theorem Shown.amount_isOk {negative : Bool} {coefficient : Nat} (h : coefficient < tenTo amountDigits) :
    (amount (.finite negative coefficient (-amountPlaces))).isOk = true := by
  have hcast : (coefficient : ℚ) < 10 ^ (amountDigits : ℤ) := by exact_mod_cast h
  have hless : (coefficient : ℚ) * 10 ^ (-(amountPlaces : ℤ)) < 10 ^ ((amountDigits : ℤ) - amountPlaces) := by
    rw [sub_eq_add_neg, ten_zpow_add]
    exact mul_lt_mul_of_pos_right hcast (by positivity)
  have hsome := (Decimal.isSome_roundTo?_iff (by decide) h).2 hless
  obtain ⟨rounded, hrounded⟩ := Option.isSome_iff_exists.1 hsome
  rw [amount, Decimal.quantize?, hrounded]
  rfl

/-! ### Loading rows with amounts -/

/-- The amount of a transaction can be read. -/
def TransactionRow.IsReadable (r : TransactionRow) : Prop := r.amount.size < Amount.limit

/-- The amounts of a log can be read, as far as it has them. -/
def LogRow.IsReadable (r : LogRow) : Prop :=
  ∀ a, r.amount = some a ∨ r.amountFromApi = some a → a.size ≤ Amount.logLimit

namespace Store

variable {rows : List TransactionRow} {places : Nat} {amounts : List (Option Amount)}

theorem requireReadable_eq_ok :
    requireReadable places amounts = .ok () ↔ ∀ a, some a ∈ amounts → (a.read? places).isSome = true := by
  have hall : (amounts.all fun a => a.all fun b => (b.read? places).isSome) = true ↔
      ∀ a, some a ∈ amounts → (a.read? places).isSome = true := by
    simp only [List.all_eq_true, Option.all_eq_true]
    exact ⟨fun h a ha => h _ ha a rfl, fun h a? ha a? => fun heq => h _ (heq ▸ ha)⟩
  rw [requireReadable, ← hall]
  split_ifs with h
  · exact iff_of_true rfl h
  · exact iff_of_false nofun h

/-- Amounts are refused for nothing but that one of them cannot be read. -/
theorem requireReadable_of_ne (h : requireReadable places amounts ≠ .ok ()) :
    requireReadable places amounts = .error (.decimal .outOfBounds) := by
  unfold requireReadable at h ⊢
  split_ifs at h ⊢ with hall
  · exact absurd rfl h
  · rfl

theorem requireReadable_log {r : LogRow} :
    requireReadable logPlaces [r.amount, r.amountFromApi] = .ok () ↔ r.IsReadable := by
  simp only [requireReadable_eq_ok, List.mem_cons, List.not_mem_nil, or_false, @eq_comm _ (some _)]
  exact forall₂_congr fun a _ => a.isSome_read?_log_iff

theorem requireReadable_all :
    requireReadable transactionPlaces (rows.map fun r => some r.amount) = .ok () ↔ ∀ r ∈ rows, r.IsReadable := by
  simp only [requireReadable_eq_ok, List.mem_map, Option.some.injEq, forall_exists_index, and_imp,
    forall_apply_eq_imp_iff₂]
  exact forall₂_congr fun r _ => r.amount.isSome_read?_iff

theorem requireReadable_transaction {r : TransactionRow} :
    requireReadable transactionPlaces [some r.amount] = .ok () ↔ r.IsReadable :=
  (@requireReadable_all [r]).trans List.forall_mem_singleton

/-- Transactions are loaded as they are if the amounts of all of them can be read. -/
theorem loadTransactions_of_forall (h : ∀ r ∈ rows, r.IsReadable) : loadTransactions rows = .ok rows := by
  rw [loadTransactions, requireReadable_all.2 h]
  rfl

/-- One amount that cannot be read is enough to load none. -/
theorem loadTransactions_of_not_forall (h : ¬∀ r ∈ rows, r.IsReadable) :
    loadTransactions rows = .error (.decimal .outOfBounds) := by
  rw [loadTransactions, requireReadable_of_ne (mt requireReadable_all.1 h)]
  rfl

end Store

theorem Report.amount_isOk_iff (a : Amount) : (amount a).isOk = true ↔ a.size < Amount.limit := by
  rw [← a.isSome_read?_iff]
  unfold amount
  cases hread : a.read? transactionPlaces with
  | none => exact iff_of_false (by decide) (by decide)
  | some d =>
    obtain ⟨negative, coefficient, hcoefficient, rfl⟩ := Amount.exists_of_read? hread
    exact iff_of_true (Shown.amount_isOk hcoefficient) rfl

end CardPayments
